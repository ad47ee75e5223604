import ModuleUpdate.Text.Hexadecimal

namespace ModuleUpdate.Url

/-!
# Addresses of eight pieces

An address of eight pieces of two bytes is written in hexadecimal between colons.  Two colons stand
for a run of zeros, and the last two pieces may be written as four bytes between dots.
-/

/-- An address of eight pieces. -/
structure Ipv6 where
  pieces : List Nat
  deriving Repr, DecidableEq

namespace Ipv6

/-- A piece of up to four hexadecimal digits. -/
def piece? (text : Text) : Option Nat :=
  if text ≠ [] ∧ text.length ≤ 4 then Text.ofHexDigits? text else none

/-- A byte in decimal without leading zeros. -/
def byte? (text : Text) : Option Nat :=
  if text.length ≤ 3 ∧ (text.head? = some '0' → text.length = 1) then
    (Text.natural? text).filter (· ≤ 255)
  else
    none

/-- The two pieces that are written as four bytes. -/
def bytePieces? (text : Text) : Option (List Nat) := do
  match ← (text.splitOn '.').mapM byte? with
  | [first, second, third, fourth] => some [256 * first + second, 256 * third + fourth]
  | _ => none

/-- The pieces of texts, the last of which may be written as bytes if the address ends there. -/
def pieces? (isEnd : Bool) : List Text → Option (List Nat)
  | [] => some []
  | [last] =>
      if isEnd && last.contains '.' then
        bytePieces? last
      else
        (piece? last).map fun piece => [piece]
  | first :: following => do
      some ((← piece? first) :: (← pieces? isEnd following))

/-- The pieces on one side of the run of zeros, or of an address without such a run. -/
def side? (isEnd : Bool) (text : Text) : Option (List Nat) :=
  if text = [] then some [] else pieces? isEnd (text.splitOn ':')

/-- The address that a text spells. -/
def ofText? (text : Text) : Option Ipv6 := do
  match Text.splitAtLast? [':', ':'] text with
  | some (before, behind) =>
      let first ← side? false before
      let last ← side? true behind
      let count := first.length + last.length
      if count ≤ 7 then
        some { pieces := first ++ List.replicate (8 - count) 0 ++ last }
      else
        none
  | none =>
      let pieces ← side? true text
      if pieces.length = 8 then some { pieces } else none

/-- The number of zeros that pieces start with. -/
def zeros (pieces : List Nat) : Nat :=
  (pieces.takeWhile (· = 0)).length

/-- Where the first of the longest runs of zeros starts, and its length. -/
def longestZeros (pieces : List Nat) : Nat × Nat :=
  (List.range pieces.length).foldl
    (fun longest start =>
      let length := zeros (pieces.drop start)
      if longest.2 < length then (start, length) else longest)
    (0, 0)

/-- Pieces in hexadecimal between colons. -/
def joined (pieces : List Nat) : Text :=
  Text.join [':'] (pieces.map Text.hexadecimal)

/-- An address with two colons for the longest run of zeros, if that has more than one. -/
def toText (address : Ipv6) : Text :=
  let (start, length) := longestZeros address.pieces
  if length < 2 then
    joined address.pieces
  else
    joined (address.pieces.take start) ++ [':', ':'] ++
      joined (address.pieces.drop (start + length))

end Ipv6

end ModuleUpdate.Url
