import ModuleUpdate.Json
import ModuleUpdate.Text.Hexadecimal

namespace ModuleUpdate

/-!
# Printing JSON

Values are printed on one line without space, or indented by two blanks a level.  Only quotes,
backslashes and controls are escaped in strings.
-/

namespace JsonNumber

/--
Significant digits and the power of ten of the last one: positional where the first one stands
among sixteen places in front of the point or five behind it, else behind a point with the power
of ten of the first one.
-/
def decimalText (digits : Text) (power : Int) : Text :=
  let point := digits.length + power
  if 0 ≤ power ∧ point ≤ 16 then
    digits ++ List.replicate power.toNat '0' ++ ".0".toList
  else if 0 < point ∧ point ≤ 16 then
    digits.take point.toNat ++ '.' :: digits.drop point.toNat
  else if -5 < point ∧ point ≤ 0 then
    "0.".toList ++ List.replicate (-point).toNat '0' ++ digits
  else
    let leading := point - 1
    let sign := if leading < 0 then '-' else '+'
    let fraction := if digits.length = 1 then [] else '.' :: digits.drop 1
    digits.take 1 ++ fraction ++ 'e' :: sign :: Text.ofNatural leading.natAbs

/-- The text of a binary number: its shortest digits without the zeros they end with. -/
def binaryText (value : Binary) : Text :=
  if value.units = 0 then
    "0.0".toList
  else
    let (digits, power) := value.shortest
    let spelled := Text.ofNatural digits
    let significant := (spelled.reverse.dropWhile (· = '0')).reverse
    decimalText significant (power + (spelled.length - significant.length : Nat))

/-- The text of a number. -/
def toText : JsonNumber → Text
  | whole value => (if value < 0 then ['-'] else []) ++ Text.ofNatural value.natAbs
  | binary negative magnitude =>
      (if negative then ['-'] else []) ++ binaryText magnitude

end JsonNumber

namespace Json

/-- A character as it is written in a string. -/
def escapeCharacter (character : Char) : Text :=
  if character = '"' ∨ character = '\\' then
    ['\\', character]
  else if 0x20 ≤ character.toNat then
    [character]
  else if character.toNat = 0x8 then
    "\\b".toList
  else if character = '\t' then
    "\\t".toList
  else if character = '\n' then
    "\\n".toList
  else if character.toNat = 0xC then
    "\\f".toList
  else if character = '\r' then
    "\\r".toList
  else
    "\\u00".toList ++ [Text.hexDigit (character.toNat / 16), Text.hexDigit (character.toNat % 16)]

/-- A string in quotes. -/
def quoted (text : Text) : Text :=
  '"' :: text.flatMap escapeCharacter ++ ['"']

/-- The line end and the indentation at a level, none where the output takes one line. -/
def lineBreak : Option Nat → Text
  | none => []
  | some level => '\n' :: List.replicate (2 * level) ' '

/-- Parts between two marks, each on its own line where the output is indented. -/
def enclosed (opening closing : Char) (level : Option Nat) (parts : List Text) : Text :=
  if parts = [] then
    [opening, closing]
  else
    let separator := ',' :: lineBreak (level.map (· + 1))
    opening :: lineBreak (level.map (· + 1)) ++ Text.join separator parts ++
      lineBreak level ++ [closing]

/-- What stands between a key and its value. -/
def colon : Option Nat → Text
  | none => [':']
  | some _ => [':', ' ']

mutual

/-- The text of a value at a level of indentation, or on one line. -/
def print (level : Option Nat) : Json → Text
  | null => "null".toList
  | bool true => "true".toList
  | bool false => "false".toList
  | number value => value.toText
  | string text => quoted text
  | array items => enclosed '[' ']' level (printItems (level.map (· + 1)) items)
  | object members =>
      enclosed '\x7b' '\x7d' level (printMembers (level.map (· + 1)) members)

/-- The texts of the items of an array. -/
def printItems (level : Option Nat) : List Json → List Text
  | [] => []
  | item :: following => print level item :: printItems level following

/-- The texts of the members of an object. -/
def printMembers (level : Option Nat) : List (Text × Json) → List Text
  | [] => []
  | (key, value) :: following =>
      (quoted key ++ colon level ++ print level value) :: printMembers level following

end

/-- The text of a value, indented or on one line. -/
def toText (pretty : Bool) (value : Json) : Text :=
  print (if pretty then some 0 else none) value

end Json

end ModuleUpdate
