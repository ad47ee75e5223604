import ModuleUpdate.Text.Hexadecimal

namespace ModuleUpdate.Url

/-!
# Addresses of four bytes

A name whose last label is a number is an address of four bytes.  It has up to four numbers between
dots, in decimal, or behind a zero in octal, or behind a zero and an x in hexadecimal.  The last of
them takes the bytes that the others leave.
-/

/-- An address of four bytes, as the number that they make. -/
structure Ipv4 where
  value : Nat
  deriving Repr, DecidableEq

namespace Ipv4

/-- The octal number that digits spell. -/
def octal? (digits : Text) : Option Nat :=
  if digits.all fun digit => '0' ≤ digit && digit ≤ '7' then
    some (digits.foldl (fun value digit => 8 * value + (digit.toNat - '0'.toNat)) 0)
  else
    none

/-- The number that a part of an address spells. -/
def number? : Text → Option Nat
  | '0' :: 'x' :: digits => Text.ofHexDigits? digits
  | '0' :: digit :: digits => octal? (digit :: digits)
  | digits => Text.natural? digits

/-- The parts of a name, without the empty one behind a dot at its end. -/
def parts (name : Text) : List Text :=
  let parts := name.splitOn '.'
  if parts.getLast? = some [] then parts.dropLast else parts

/-- Whether a name is that of an address: its last part is all digits or a number. -/
def isNumeric (name : Text) : Bool :=
  match (parts name).getLast? with
  | some part => (Text.natural? part).isSome || (number? part).isSome
  | none => false

/-- The address of up to four numbers. -/
def ofNumbers? (numbers : List Nat) : Option Ipv4 := do
  let last ← numbers.getLast?
  let others := numbers.dropLast
  let rest := Nat.pow 256 (4 - others.length)
  if others.length ≤ 3 ∧ others.all (· ≤ 255) ∧ last < rest then
    some { value := others.foldl (fun value number => 256 * value + number) 0 * rest + last }
  else
    none

/-- The address that a name spells. -/
def ofText? (name : Text) : Option Ipv4 := do
  ofNumbers? (← (parts name).mapM number?)

/-- The four bytes in decimal between dots. -/
def toText (address : Ipv4) : Text :=
  let byte (place : Nat) : Text :=
    Text.ofNatural (address.value / Nat.pow 256 place % 256)
  Text.join ['.'] [byte 3, byte 2, byte 1, byte 0]

end Ipv4

end ModuleUpdate.Url
