import ModuleUpdate.Version.Semantic
import ModuleUpdate.Version.Pseudo

namespace ModuleUpdate

/-!
# Module versions

A module version is the letter `v` and a semantic version.  A pseudo-version is valid as well.
This module holds the canonical spelling, validity, and the order of version texts, in which
texts that are no version come first.
-/

/-- A version as it was spelled, and what the spelling means. -/
structure Version where
  spelling : Text
  semantic : SemanticVersion
  deriving Repr, DecidableEq

namespace Version

/-- Read a text, trimmed of white space, as a module version. -/
def parse? (text : Text) : Option Version := do
  let spelling := Text.trim text
  let semantic ← (Text.after? ['v'] spelling).bind SemanticVersion.parse?
  some { spelling, semantic }

/-- Whether the version has prerelease identifiers. -/
def isPrerelease (version : Version) : Bool :=
  version.semantic.prerelease ≠ []

/-- Whether the version belongs to a major version without a module path of its own. -/
def isIncompatible (version : Version) : Bool :=
  (Text.before? Pseudo.incompatibleMarker version.spelling).isSome

/-- Whether the version pins a commit. -/
def isPseudo (version : Version) : Bool :=
  Pseudo.isPseudo version.spelling

/-- The trimmed text with exactly the letter `v` in front, in place of one leading `v` or `V`. -/
def canonical (text : Text) : Text :=
  match Text.trim text with
  | 'v' :: bare => 'v' :: bare
  | 'V' :: bare => 'v' :: bare
  | bare => 'v' :: bare

/-- A text that is a module version or has the shape of a pseudo-version. -/
def isValid (text : Text) : Bool :=
  (parse? text).isSome || Pseudo.isPseudo text

/-- The prerelease identifiers of a version text, empty for a release and for other texts. -/
def prereleaseTag (text : Text) : Text :=
  match parse? text with
  | some version => version.semantic.prereleaseTag
  | none => []

/--
The order of version texts.  Versions compare by precedence, any other text is below every
version, and two other texts compare as text.
-/
def order (left right : Text) : Ordering :=
  match parse? left, parse? right with
  | some leftVersion, some rightVersion => leftVersion.semantic.order rightVersion.semantic
  | some _, none => .gt
  | none, some _ => .lt
  | none, none => compare left right

end Version

end ModuleUpdate
