import ModuleUpdate.Text

namespace ModuleUpdate.Punycode

/-!
# Punycode

Any text can be written in Latin letters, digits and hyphens.  Its basic characters come first, with
a hyphen behind them.  The others follow in the order of their code points, each as the number of
steps from the one before: a step goes to the next place in the text, and behind the last place to
the next code point.  A number has digits to the base of 36, the lowest first, and ends with a digit
below a threshold that depends on its place and adapts to the numbers before.
-/

/-- A character that is written as it is. -/
def isBasic (character : Char) : Bool :=
  character.toNat < 0x80

/-- The base of the digits. -/
def base : Nat :=
  36

/-- The first code point that is not basic. -/
def firstCode : Nat :=
  0x80

/-- The bias of the first number. -/
def firstBias : Nat :=
  72

/-- The threshold at a place, which counts in steps of the base. -/
def threshold (place bias : Nat) : Nat :=
  min (max 1 (place - bias)) 26

/-- Every threshold is a digit other than zero that leaves room for more. -/
theorem threshold_bounds (place bias : Nat) :
    1 ≤ threshold place bias ∧ threshold place bias ≤ 26 := by
  unfold threshold
  omega

/-- Divide a number until it is small, and count the divisions in steps of the base. -/
def shrink (number place : Nat) : Nat × Nat :=
  if 455 < number then
    shrink (number / 35) (place + base)
  else
    (number, place)
  termination_by number
  decreasing_by omega

/-- The bias behind a number, of which so many characters are in place. -/
def adapt (number characters : Nat) (isFirst : Bool) : Nat :=
  let scaled := if isFirst then number / 700 else number / 2
  let (small, place) := shrink (scaled + scaled / characters) 0
  place + base * small / (small + 38)

/-- The digit of a value below the base: a letter, or a decimal digit behind the letters. -/
def digit (value : Nat) : Char :=
  if value < 26 then Char.ofNat ('a'.toNat + value) else Char.ofNat ('0'.toNat + value - 26)

/-- The value of a digit. -/
def value? (digit : Char) : Option Nat :=
  if 'a' ≤ digit ∧ digit ≤ 'z' then
    some (digit.toNat - 'a'.toNat)
  else if digit.isDigit then
    some (digit.toNat - '0'.toNat + 26)
  else
    none

/-- A digit is read as its value. -/
theorem value?_digit : ∀ value < 36, value? (digit value) = some value := by
  decide

/-- The digits of a number from a place on. -/
def writeNumber (bias place number : Nat) : Text :=
  let least := threshold place bias
  if number < least then
    [digit number]
  else
    digit (least + (number - least) % (base - least)) ::
      writeNumber bias (place + base) ((number - least) / (base - least))
  termination_by number
  decreasing_by
    have bounds := threshold_bounds place bias
    have smaller := Nat.div_le_self (number - threshold place bias) (base - threshold place bias)
    omega

/-- What writing has counted: the steps since the last character that was written, and so on. -/
structure Writing where
  written : Text
  steps : Nat
  bias : Nat
  inPlace : Nat

/-- Pass one character of the text while those of a code point are written. -/
def Writing.pass (code basics : Nat) (writing : Writing) (character : Char) : Writing :=
  if character.toNat < code then
    { writing with steps := writing.steps + 1 }
  else if character.toNat = code then
    { written := writing.written ++ writeNumber writing.bias base writing.steps
      steps := 0
      bias := adapt writing.steps (writing.inPlace + 1) (writing.inPlace == basics)
      inPlace := writing.inPlace + 1 }
  else
    writing

/-- Write the characters of the given code points, which ascend from a code point on. -/
def Writing.run (text : Text) (basics : Nat) (writing : Writing) (code : Nat) :
    List Nat → Writing
  | [] => writing
  | next :: higher =>
      let steps := writing.steps + (next - code) * (writing.inPlace + 1)
      let passed := text.foldl (Writing.pass next basics) { writing with steps }
      Writing.run text basics { passed with steps := passed.steps + 1 } (next + 1) higher

/-- The code points of a text that are not basic, ascending and each once. -/
def furtherCodes (text : Text) : List Nat :=
  (((text.filter fun character => !isBasic character).map Char.toNat).mergeSort (· ≤ ·)).eraseReps

/-- A text in Punycode. -/
def encode (text : Text) : Text :=
  let basics := text.filter isBasic
  let start : Writing :=
    { written := [], steps := 0, bias := firstBias, inPlace := basics.length }
  let written := (start.run text basics.length firstCode (furtherCodes text)).written
  (if basics = [] then [] else basics ++ ['-']) ++ written

/-- The least number that is too large for reading. -/
def numberLimit : Nat :=
  UInt32.size

/-- A number, unless it is too large. -/
def limited? (number : Nat) : Option Nat :=
  if number < numberLimit then some number else none

/-- Add the number that a text starts with, from a place of some weight on. -/
def readNumber? (bias : Nat) : Nat → Nat → Nat → Text → Option (Nat × Text)
  | _, _, _, [] => none
  | place, weight, sum, first :: rest => do
      let value ← value? first
      let sum ← limited? (sum + (← limited? (value * weight)))
      let least := threshold place bias
      if value < least then
        some (sum, rest)
      else
        readNumber? bias (place + base) (← limited? (weight * (base - least))) sum rest

/-- A number takes at least one digit. -/
theorem readNumber?_length
    {bias place weight sum number : Nat}
    {text behind : Text}
    (read : readNumber? bias place weight sum text = some (number, behind)) :
    behind.length < text.length := by
  induction text generalizing place weight sum with
  | nil => cases read
  | cons first rest inductionHypothesis =>
      simp only [readNumber?, Option.bind_eq_bind, Option.bind_eq_some_iff] at read
      obtain ⟨value, _, product, _, total, _, read⟩ := read
      split at read
      · cases read
        exact Nat.lt_succ_self _
      · simp only [Option.bind_eq_some_iff] at read
        obtain ⟨heavier, _, read⟩ := read
        exact Nat.lt_succ_of_lt (inductionHypothesis read)

/-- Put characters in their places, from a code point and a place on. -/
def insertAll? (bias code place : Nat) (text : Text) (digits : Text) : Option Text :=
  if digits = [] then
    some text
  else
    match _read : readNumber? bias base 1 place digits with
    | none => none
    | some (sum, behind) =>
        let characters := text.length + 1
        let next := code + sum / characters
        if next.isValidChar then
          let index := sum % characters
          insertAll? (adapt (sum - place) characters (place == 0)) next (index + 1)
            (text.insertIdx index (Char.ofNat next)) behind
        else
          none
  termination_by digits.length
  decreasing_by exact readNumber?_length _read

/-- The text of which a text is the form in Punycode. -/
def decode? (text : Text) : Option Text :=
  match Text.splitAtLast? ['-'] text with
  | some (first :: others, digits) => insertAll? firstBias firstCode 0 (first :: others) digits
  | _ => insertAll? firstBias firstCode 0 [] text

end ModuleUpdate.Punycode
