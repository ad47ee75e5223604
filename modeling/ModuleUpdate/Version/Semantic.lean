import ModuleUpdate.Text

namespace ModuleUpdate

/-!
# Semantic versions

Three numbers, then optional dot-separated prerelease identifiers behind a hyphen and optional
build identifiers behind a plus sign.  The numbers fit a word of 64 bits, and neither they nor
numeric prerelease identifiers start with a superfluous zero.  Precedence takes the build
identifiers into account last.
-/

/-- A semantic version without the letter in front of it. -/
structure SemanticVersion where
  major : Nat
  minor : Nat
  patch : Nat
  prerelease : List Text
  build : List Text
  deriving Repr, DecidableEq

namespace SemanticVersion

/-- A character of an identifier: a Latin letter, a digit or a hyphen. -/
def isIdentifierCharacter (character : Char) : Bool :=
  character.isAlphanum || character == '-'

/-- A text of digits alone. -/
def isNumeric (identifier : Text) : Bool :=
  identifier.all Char.isDigit

/-- More than one digit, the first of them a zero. -/
def hasSuperfluousZero (digits : Text) : Bool :=
  digits.head? == some '0' && 1 < digits.length

/-- A prerelease identifier that is numeric has no superfluous zero. -/
def isPrereleaseIdentifier (identifier : Text) : Bool :=
  identifier ≠ [] && !(isNumeric identifier && hasSuperfluousZero identifier)

/-- A build identifier only has to be there. -/
def isBuildIdentifier (identifier : Text) : Bool :=
  identifier ≠ []

/-- The number a text starts with, and the text behind it. -/
def readNumber? (text : Text) : Option (Nat × Text) :=
  let digits := text.takeWhile Char.isDigit
  if hasSuperfluousZero digits then
    none
  else
    (Text.word? digits).map fun number => (number, text.dropWhile Char.isDigit)

/-- The dot-separated identifiers a text starts with, and the text behind them. -/
def readIdentifiers (text : Text) : List Text × Text :=
  let belongs := fun character => isIdentifierCharacter character || character == '.'
  ((text.takeWhile belongs).splitOn '.', text.dropWhile belongs)

/--
The identifiers behind a mark, and the text behind them.  Without the mark there are none, and
with it every identifier has to be acceptable.
-/
def readTail? (mark : Char) (accepts : Text → Bool) : Text → Option (List Text × Text)
  | [] => some ([], [])
  | character :: rest =>
      if character = mark then
        let (identifiers, behind) := readIdentifiers rest
        if identifiers.all accepts then some (identifiers, behind) else none
      else
        some ([], character :: rest)

/-- Read a whole text as a semantic version. -/
def parse? (text : Text) : Option SemanticVersion := do
  let (major, rest) ← readNumber? text
  let (minor, rest) ← (Text.after? ['.'] rest).bind readNumber?
  let (patch, rest) ← (Text.after? ['.'] rest).bind readNumber?
  let (prerelease, rest) ← readTail? '-' isPrereleaseIdentifier rest
  let (build, rest) ← readTail? '+' isBuildIdentifier rest
  if rest = [] then
    some { major, minor, patch, prerelease, build }
  else
    none

/-- The prerelease identifiers as one text, empty for a release. -/
def prereleaseTag (version : SemanticVersion) : Text :=
  Text.join ['.'] version.prerelease

/--
The order of identifiers.  Numeric ones come first and compare by value, those of one value by
their number of leading zeros; the others compare as text.
-/
def identifierOrder (left right : Text) : Ordering :=
  match isNumeric left, isNumeric right with
  | true, true =>
      (compare (Text.ofDigits left) (Text.ofDigits right)).then
        (compare left.length right.length)
  | true, false => .lt
  | false, true => .gt
  | false, false => compare left right

/-- The order of identifier lists: the first difference decides, and a longer list is higher. -/
def identifiersOrder (left right : List Text) : Ordering :=
  List.compareLex identifierOrder left right

/-- The order of prereleases: a release is higher than each of its prereleases. -/
def prereleaseOrder (left right : List Text) : Ordering :=
  match left, right with
  | [], [] => .eq
  | [], _ :: _ => .gt
  | _ :: _, [] => .lt
  | _ :: _, _ :: _ => identifiersOrder left right

/-- The precedence of semantic versions. -/
def order (left right : SemanticVersion) : Ordering :=
  (compare left.major right.major).then
    ((compare left.minor right.minor).then
      ((compare left.patch right.patch).then
        ((prereleaseOrder left.prerelease right.prerelease).then
          (identifiersOrder left.build right.build))))

end SemanticVersion

end ModuleUpdate
