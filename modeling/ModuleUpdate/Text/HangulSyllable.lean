namespace ModuleUpdate.Text

/-!
# Syllables of Hangul

A syllable is composed of a leading consonant, a vowel and possibly a trailing consonant, and its
code point is counted from theirs.
-/

namespace Hangul

/-- The code point of the first syllable. -/
def firstSyllable : Nat :=
  0xAC00

/-- The code point of the first leading consonant. -/
def firstLeading : Nat :=
  0x1100

/-- The code point of the first vowel. -/
def firstVowel : Nat :=
  0x1161

/-- The code point in front of the first trailing consonant, which stands for none. -/
def noTrailing : Nat :=
  0x11A7

/-- The number of leading consonants. -/
def leadingCount : Nat :=
  19

/-- The number of vowels. -/
def vowelCount : Nat :=
  21

/-- The number of trailing consonants and of what stands for none. -/
def trailingCount : Nat :=
  28

/-- The number of a code point among some that follow each other. -/
def index? (first count code : Nat) : Option Nat :=
  if first ≤ code ∧ code < first + count then some (code - first) else none

/-- The number of a syllable. -/
def syllable? (code : Nat) : Option Nat :=
  index? firstSyllable (leadingCount * vowelCount * trailingCount) code

/-- The code points of the two parts of a syllable; a trailing consonant is a part of its own. -/
def parts? (code : Nat) : Option (Nat × Nat) := do
  let number ← syllable? code
  let trailing := number % trailingCount
  if trailing = 0 then
    some
      (firstLeading + number / trailingCount / vowelCount,
        firstVowel + number / trailingCount % vowelCount)
  else
    some (code - trailing, noTrailing + trailing)

/-- The code point of the syllable of a leading consonant and a vowel. -/
def openSyllable? (leading vowel : Nat) : Option Nat := do
  let leading ← index? firstLeading leadingCount leading
  let vowel ← index? firstVowel vowelCount vowel
  some (firstSyllable + (leading * vowelCount + vowel) * trailingCount)

/-- The code point of a syllable without a trailing consonant and such a consonant. -/
def closedSyllable? (syllable trailing : Nat) : Option Nat := do
  let number ← syllable? syllable
  let trailing ← index? noTrailing trailingCount trailing
  if number % trailingCount = 0 ∧ 0 < trailing then some (syllable + trailing) else none

/-- The code point of the syllable that two parts make. -/
def whole? (first second : Nat) : Option Nat :=
  (openSyllable? first second).or (closedSyllable? first second)

end Hangul

end ModuleUpdate.Text
