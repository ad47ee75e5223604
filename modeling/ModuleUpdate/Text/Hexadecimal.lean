import ModuleUpdate.Text

namespace ModuleUpdate.Text

/-!
# Hexadecimal digits

Digits to the base of sixteen, whose letters are read in both cases.
-/

/-- The value of a hexadecimal digit. -/
def hexValue? (digit : Char) : Option Nat :=
  if digit.isDigit then
    some (digit.toNat - '0'.toNat)
  else if 'a' ≤ digit ∧ digit ≤ 'f' then
    some (digit.toNat - 'a'.toNat + 10)
  else if 'A' ≤ digit ∧ digit ≤ 'F' then
    some (digit.toNat - 'A'.toNat + 10)
  else
    none

/-- The number that hexadecimal digits spell. -/
def ofHexDigits? (digits : Text) : Option Nat :=
  digits.foldlM (fun value digit => (hexValue? digit).map (16 * value + ·)) 0

/-- A lowercase hexadecimal digit. -/
def hexDigit (value : Nat) : Char :=
  if value < 10 then Char.ofNat ('0'.toNat + value) else Char.ofNat ('a'.toNat + value - 10)

/-- A hexadecimal digit is read as its value. -/
theorem hexValue?_hexDigit : ∀ value < 16, hexValue? (hexDigit value) = some value := by
  decide

/-- The lowercase hexadecimal digits of a number, without leading zeros. -/
def hexadecimal (number : Nat) : Text :=
  Nat.toDigits 16 number

end ModuleUpdate.Text
