import ModuleUpdate.Text.AlphabeticRange
import ModuleUpdate.Text.NumericRange
import ModuleUpdate.Text.UppercaseRange
import ModuleUpdate.Text.DecimalDigitRange

namespace ModuleUpdate.Text

/-!
# Classes of characters

Membership in the character properties that the readers of this library ask for: white space,
letters, digits of every script, and uppercase letters with their lowercase forms.
-/

/-- Membership of a code point in ascending ranges whose ends belong to them. -/
def inRanges : List (Nat × Nat) → Nat → Bool
  | [], _ => false
  | (first, last) :: higher, code =>
      if code < first then
        false
      else
        code ≤ last || inRanges higher code

/-- The value of a code point in ascending runs, each of which has one value. -/
def runValue? : List (Nat × Nat × α) → Nat → Option α
  | [], _ => none
  | (first, last, value) :: higher, code =>
      if code < first then
        none
      else if code ≤ last then
        some value
      else
        runValue? higher code

/-- White space of every script, line ends included. -/
def isBlank (character : Char) : Bool :=
  inRanges
    [(0x9, 0xD), (0x20, 0x20), (0x85, 0x85), (0xA0, 0xA0), (0x1680, 0x1680),
      (0x2000, 0x200A), (0x2028, 0x2029), (0x202F, 0x202F), (0x205F, 0x205F),
      (0x3000, 0x3000)]
    character.toNat

/-- A letter or another character with the property Alphabetic. -/
def isAlphabetic (character : Char) : Bool :=
  inRanges alphabeticRanges character.toNat

/-- A character of one of the three number categories. -/
def isNumeric (character : Char) : Bool :=
  inRanges numericRanges character.toNat

/-- An alphabetic or numeric character. -/
def isAlphanumeric (character : Char) : Bool :=
  isAlphabetic character || isNumeric character

/-- A decimal digit of any script. -/
def isDecimalDigit (character : Char) : Bool :=
  inRanges decimalDigitRanges character.toNat

/-- The run of uppercase characters that holds a character, if it is uppercase. -/
def uppercaseRun? (character : Char) : Option UppercaseRun :=
  uppercaseRuns.find? fun run => run.contains character.toNat

/-- A character with the property Uppercase. -/
def isUppercase (character : Char) : Bool :=
  (uppercaseRun? character).isSome

/--
The lowercase form of an uppercase character.  The capital I with a dot above is the one
character whose lowercase form has two characters; any character that is not uppercase is its
own lowercase form.
-/
def lowercase (character : Char) : List Char :=
  if character = Char.ofNat 0x130 then
    ['i', Char.ofNat 0x307]
  else
    match uppercaseRun? character with
    | some run => [Char.ofNat (character.toNat + run.distance).toNat]
    | none => [character]

/-- The line feed is white space. -/
theorem isBlank_lineFeed : isBlank '\n' = true := by
  decide

end ModuleUpdate.Text
