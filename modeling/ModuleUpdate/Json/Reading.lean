import ModuleUpdate.Json
import ModuleUpdate.Text.Hexadecimal

namespace ModuleUpdate.Json

/-!
# Reading JSON

Reading recurses on the depth that arrays and objects may still nest, so that a text that nests
too deep is refused.  Every reader returns the value and the text behind it.
-/

/-- The number of arrays and objects that may stand inside each other. -/
def greatestDepth : Nat :=
  127

/-- The characters between values. -/
def isSpace (character : Char) : Bool :=
  character == ' ' || character == '\t' || character == '\n' || character == '\r'

/-- A text without the space it starts with. -/
def skipSpace (text : Text) : Text :=
  text.dropWhile isSpace

/-- The value of four hexadecimal digits. -/
def hexUnit? (first second third fourth : Char) : Option Nat :=
  Text.ofHexDigits? [first, second, third, fourth]

/-- The first half of a pair of units. -/
def isLeading (unit : Nat) : Bool :=
  0xD800 ≤ unit && unit < 0xDC00

/-- The second half of a pair of units. -/
def isTrailing (unit : Nat) : Bool :=
  0xDC00 ≤ unit && unit < 0xE000

/-- The character of a unit that is no half of a pair. -/
def single? (unit : Nat) : Option Char :=
  if isLeading unit || isTrailing unit then none else some (Char.ofNat unit)

/-- The character of a pair of units. -/
def paired? (leading trailing : Nat) : Option Char :=
  if isLeading leading && isTrailing trailing then
    some (Char.ofNat (0x10000 + (leading - 0xD800) * 0x400 + (trailing - 0xDC00)))
  else
    none

/-- The character that a letter behind a backslash stands for. -/
def shortEscape? : Char → Option Char
  | '"' => some '"'
  | '\\' => some '\\'
  | '/' => some '/'
  | 'b' => some (Char.ofNat 0x8)
  | 'f' => some (Char.ofNat 0xC)
  | 'n' => some '\n'
  | 'r' => some '\r'
  | 't' => some '\t'
  | _ => none

/-- The character that an escape behind its backslash stands for, and the text behind it. -/
def readEscape? : Text → Option (Char × Text)
  | 'u' :: a :: b :: c :: d :: '\\' :: 'u' :: e :: f :: g :: h :: rest => do
      let unit ← hexUnit? a b c d
      if isLeading unit then
        some (← paired? unit (← hexUnit? e f g h), rest)
      else
        some (← single? unit, '\\' :: 'u' :: e :: f :: g :: h :: rest)
  | 'u' :: a :: b :: c :: d :: rest => do
      some (← single? (← hexUnit? a b c d), rest)
  | letter :: rest => (shortEscape? letter).map fun character => (character, rest)
  | [] => none

/-- An escape takes at least one character. -/
theorem readEscape?_length
    {text behind : Text}
    {character : Char}
    (read : readEscape? text = some (character, behind)) :
    behind.length < text.length := by
  unfold readEscape? at read
  split at read
  · simp only [Option.bind_eq_bind, Option.bind_eq_some_iff] at read
    obtain ⟨unit, _, read⟩ := read
    split at read
    · simp only [Option.bind_eq_some_iff, Option.some.injEq, Prod.mk.injEq] at read
      obtain ⟨_, _, _, _, _, rfl⟩ := read
      simp only [List.length_cons]
      omega
    · simp only [Option.bind_eq_some_iff, Option.some.injEq, Prod.mk.injEq] at read
      obtain ⟨_, _, _, rfl⟩ := read
      simp only [List.length_cons]
      omega
  · simp only [Option.bind_eq_bind, Option.bind_eq_some_iff, Option.some.injEq,
      Prod.mk.injEq] at read
    obtain ⟨_, _, _, _, _, rfl⟩ := read
    simp only [List.length_cons]
    omega
  · simp only [Option.map_eq_some_iff, Prod.mk.injEq] at read
    obtain ⟨_, _, _, rfl⟩ := read
    exact Nat.lt_succ_self _
  · cases read

/-- The text of a string behind its opening quote, and the text behind its closing quote. -/
def readString? : Text → Option (Text × Text)
  | [] => none
  | character :: rest =>
      if character = '"' then
        some ([], rest)
      else if character = '\\' then
        match _read : readEscape? rest with
        | none => none
        | some (escaped, behind) =>
            (readString? behind).map fun (text, last) => (escaped :: text, last)
      else if character.toNat < 0x20 then
        none
      else
        (readString? rest).map fun (text, last) => (character :: text, last)
  termination_by text => text.length
  decreasing_by
    · exact Nat.lt_succ_of_lt (readEscape?_length _read)
    · exact Nat.lt_succ_self _

/--
The digits that may be appended to a number below the limit of a word, up to the first that leaves
it, and the other digits.
-/
def appendDigits (value : Nat) : Text → Nat × Text
  | [] => (value, [])
  | digit :: following =>
      let longer := 10 * value + (digit.toNat - '0'.toNat)
      if longer < Text.wordLimit then
        appendDigits longer following
      else
        (value, digit :: following)

/-- The number of an integer whose digits fit a word; a negative one may leave the whole ones. -/
def wholeNumber? (negative : Bool) (word : Nat) : Option JsonNumber :=
  if negative = false then
    some (.whole word)
  else if 0 < word ∧ 2 * word ≤ Text.wordLimit then
    some (.whole (-word))
  else
    (Binary.ofNatural? word).map (.binary true)

/--
The number of given parts, unless it is too large.  Where the digits leave a word, those of the
integer count as zeros, and the fraction ends at the first of its digits that does not fit.
-/
def numberOf? (negative : Bool) (integer fraction : Text) (power : Option Int) :
    Option JsonNumber :=
  let (word, zeros) := appendDigits 0 integer
  if zeros = [] ∧ fraction = [] ∧ power = none then
    wholeNumber? negative word
  else
    let (significand, ignored) := appendDigits word fraction
    let shift : Int := zeros.length - (fraction.length - ignored.length : Nat)
    (Binary.ofScaled? significand (power.getD 0 + shift)).map (.binary negative)

/-- The digits of a fraction, and the text behind them; without a point there are none. -/
def readFraction? : Text → Option (Text × Text)
  | '.' :: rest =>
      let digits := rest.takeWhile Char.isDigit
      if digits = [] then none else some (digits, rest.dropWhile Char.isDigit)
  | text => some ([], text)

/-- The digits of an exponent behind its letter, and the text behind them. -/
def readPower? (rest : Text) : Option (Int × Text) :=
  let (negative, unsigned) :=
    match rest with
    | '+' :: unsigned => (false, unsigned)
    | '-' :: unsigned => (true, unsigned)
    | unsigned => (false, unsigned)
  (Text.natural? (unsigned.takeWhile Char.isDigit)).map fun power =>
    (if negative then -power else power, unsigned.dropWhile Char.isDigit)

/-- The exponent a text starts with and the text behind it; without a letter there is none. -/
def readExponent? : Text → Option (Option Int × Text)
  | character :: rest =>
      if character = 'e' ∨ character = 'E' then
        (readPower? rest).map fun (power, behind) => (some power, behind)
      else
        some (none, character :: rest)
  | [] => some (none, [])

/-- The number a text starts with, and the text behind it. -/
def readNumber? (text : Text) : Option (JsonNumber × Text) := do
  let (negative, unsigned) :=
    match text with
    | '-' :: unsigned => (true, unsigned)
    | unsigned => (false, unsigned)
  let integer := unsigned.takeWhile Char.isDigit
  if integer = [] ∨ (integer.head? = some '0' ∧ 1 < integer.length) then
    none
  else
    let (fraction, rest) ← readFraction? (unsigned.dropWhile Char.isDigit)
    let (power, rest) ← readExponent? rest
    let number ← numberOf? negative integer fraction power
    some (number, rest)

/-- The value without parts that a text starts with, and the text behind it. -/
def readScalar? (text : Text) : Option (Json × Text) :=
  match text with
  | 'n' :: 'u' :: 'l' :: 'l' :: rest => some (null, rest)
  | 't' :: 'r' :: 'u' :: 'e' :: rest => some (bool true, rest)
  | 'f' :: 'a' :: 'l' :: 's' :: 'e' :: rest => some (bool false, rest)
  | '"' :: rest => (readString? rest).map fun (inside, behind) => (string inside, behind)
  | other => (readNumber? other).map fun (value, behind) => (number value, behind)

/-- The parts up to a closing mark, which commas separate; there is at least one. -/
def readParts?
    (readPart? : Text → Option (α × Text))
    (closing : Char) :
    Nat → Text → Option (List α × Text)
  | 0, _ => none
  | limit + 1, text => do
      let (part, rest) ← readPart? text
      match skipSpace rest with
      | [] => none
      | character :: behind =>
          if character = closing then
            some ([part], behind)
          else if character = ',' then
            let (parts, last) ← readParts? readPart? closing limit behind
            some (part :: parts, last)
          else
            none

/-- The parts up to a closing mark; each takes a character, which bounds their number. -/
def readGroup?
    (readPart? : Text → Option (α × Text))
    (closing : Char)
    (text : Text) :
    Option (List α × Text) :=
  match skipSpace text with
  | [] => none
  | character :: behind =>
      if character = closing then
        some ([], behind)
      else
        readParts? readPart? closing text.length text

/-- The key and the value of a member. -/
def readMember?
    (readValue? : Text → Option (Json × Text))
    (text : Text) :
    Option ((Text × Json) × Text) :=
  match skipSpace text with
  | '"' :: rest => do
      let (key, behind) ← readString? rest
      match skipSpace behind with
      | ':' :: following =>
          let (value, last) ← readValue? following
          some ((key, value), last)
      | _ => none
  | _ => none

/-- The value a text starts with, and the text behind it. -/
def readValue? : Nat → Text → Option (Json × Text)
  | 0, text => readScalar? (skipSpace text)
  | depth + 1, text =>
      match skipSpace text with
      | '[' :: rest =>
          (readGroup? (readValue? depth) ']' rest).map fun (items, behind) =>
            (array items, behind)
      | '\x7b' :: rest =>
          (readGroup? (readMember? (readValue? depth)) '\x7d' rest).map
            fun (members, behind) => (ofMembers members, behind)
      | other => readScalar? other

/-- The value that a whole text spells. -/
def ofText? (text : Text) : Option Json :=
  match readValue? greatestDepth text with
  | some (value, behind) => if skipSpace behind = [] then some value else none
  | none => none

end ModuleUpdate.Json
