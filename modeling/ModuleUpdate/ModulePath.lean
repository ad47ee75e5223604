import ModuleUpdate.Version

namespace ModuleUpdate.ModulePath

/-!
# Module paths

A module path names its major version from the second on, as in `example.com/mod/v2`.  Paths of
the host `gopkg.in` name every major version and write it behind a dot, as in
`gopkg.in/yaml.v3`, possibly followed by a marker of instability.  This module splits a path
into its root and its major suffix, builds the path of another major version, and recognises two
paths that differ in the suffix alone.
-/

/-- The opening of the paths that write every major version behind a dot. -/
def dottedHost : Text :=
  "gopkg.in/".toList

/-- The marker of an unstable major version on the dotted host. -/
def unstableMarker : Text :=
  "-unstable".toList

/-- Whether a path belongs to the host that writes major versions behind a dot. -/
def isDotted (path : Text) : Bool :=
  dottedHost.isPrefixOf path

/-- The digits of a major version: one or more, without a superfluous zero. -/
def isMajorDigits (digits : Text) : Bool :=
  digits ≠ [] && digits.all Char.isDigit && !SemanticVersion.hasSuperfluousZero digits

/-- A path as its root and its major suffix, which is empty where the path names no major. -/
structure Parts where
  root : Text
  suffix : Text
  deriving Repr, DecidableEq

/-- Split a path of the dotted host at its last `.v`. -/
def splitDotted (path : Text) : Parts :=
  let stable := Text.dropEnding unstableMarker path
  match Text.splitAtLast? ".v".toList stable with
  | some (root, digits) =>
      if isMajorDigits digits then
        { root, suffix := path.drop root.length }
      else
        { root := path, suffix := [] }
  | none => { root := path, suffix := [] }

/-- Split any other path at its last `/v`; majors zero and one are never written. -/
def splitSlashed (path : Text) : Parts :=
  match Text.splitAtLast? "/v".toList path with
  | some (root, digits) =>
      if isMajorDigits digits ∧ digits ≠ ['0'] ∧ digits ≠ ['1'] then
        { root, suffix := path.drop root.length }
      else
        { root := path, suffix := [] }
  | none => { root := path, suffix := [] }

/-- Split a path into its root and its major suffix. -/
def split (path : Text) : Parts :=
  if isDotted path then splitDotted path else splitSlashed path

/-- The major version that a path names, if it fits a word. -/
def major? (path : Text) : Option Nat :=
  Text.word? (Text.dropEnding unstableMarker ((split path).suffix.drop 2))

/-- The path of a major version of the module at a root. -/
def ofMajor (root : Text) (major : Nat) : Text :=
  if isDotted root then
    root ++ ".v".toList ++ Text.ofNatural major
  else if 2 ≤ major then
    root ++ "/v".toList ++ Text.ofNatural major
  else
    root

/--
The path of the next major version, for paths that name theirs behind a slash.  The greatest major
version that fits a word has no next one.
-/
def next? (path : Text) : Option Text :=
  let parts := split path
  if parts.suffix = [] ∨ isDotted parts.root then
    none
  else
    let increased := ((major? path).map (· + 1)).filter (· < Text.wordLimit)
    increased.map (ofMajor parts.root)

/--
The path that a module had at an earlier version.  Incompatible versions live at the root
whatever their major number.
-/
def atVersion? (path version : Text) : Option Text :=
  (Version.parse? version).map fun earlier =>
    if earlier.isIncompatible then
      (split path).root
    else
      ofMajor (split path).root earlier.semantic.major

/-- Two paths that are different and have the same root. -/
def isMajorChange (old new : Text) : Bool :=
  old ≠ new && (split old).root == (split new).root

/-- A path that is the base or lies below it. -/
def isWithin (path base : Text) : Bool :=
  match Text.after? base path with
  | some [] => true
  | some (separator :: _) => separator == '/'
  | none => false

/--
A path moved from one module to another, where it is the old module path or lies below it.
Paths that already lie within the new module stay, which matters when it lies below the old one.
-/
def move? (path old new : Text) : Option Text :=
  if isWithin path new then
    none
  else if isWithin path old then
    some (new ++ path.drop old.length)
  else
    none

end ModuleUpdate.ModulePath
