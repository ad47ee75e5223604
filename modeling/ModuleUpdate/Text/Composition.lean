import ModuleUpdate.Text
import ModuleUpdate.Text.Mark
import ModuleUpdate.Text.CompositePair
import ModuleUpdate.Text.HangulSyllable

namespace ModuleUpdate.Text

/-!
# Composed texts

One letter with its marks can be spelled in several ways.  The composed spelling comes of taking
every character apart, sorting the marks behind each letter by their classes, and putting
characters together again from left to right.
-/

/-- The least code point of a second part. -/
def leastSecondPart : Nat :=
  0x300

/-- The two parts of a composite character. -/
def parts? (character : Char) : Option (Char × Char) :=
  let listed :=
    (compositePairs.find? fun (_, _, composite) => composite == character.toNat).map
      fun (first, second, _) => (first, second)
  (listed.or (Hangul.parts? character.toNat)).map fun (first, second) =>
    (Char.ofNat first, Char.ofNat second)

/-- The composite character of two parts. -/
def composite? (first second : Char) : Option Char :=
  if second.toNat < leastSecondPart then
    none
  else
    let listed :=
      (compositePairs.find? fun (left, right, _) =>
        left == first.toNat && right == second.toNat).map fun (_, _, composite) => composite
    (listed.or (Hangul.whole? first.toNat second.toNat)).map Char.ofNat

/-- How often a character can be taken apart: its first part may be composite as well. -/
def greatestDepth : Nat :=
  4

/-- The parts of a character, the first of which is taken apart up to some depth. -/
def apart : Nat → Char → Text
  | 0, character => [character]
  | depth + 1, character =>
      match parts? character with
      | some (first, second) => apart depth first ++ [second]
      | none => [character]

/-- A text with its composite characters taken apart. -/
def decomposed (text : Text) : Text :=
  text.flatMap fun character =>
    if character.toNat < 0x80 then [character] else apart greatestDepth character

/-- Put a mark behind those marks that have a lower class. -/
def insertMark (mark : Char) : Text → Text
  | [] => [mark]
  | other :: rest =>
      if 0 < combiningClass other ∧ combiningClass other < combiningClass mark then
        other :: insertMark mark rest
      else
        mark :: other :: rest

/-- A text with the marks behind each letter sorted by their classes. -/
def sortMarks : Text → Text
  | [] => []
  | character :: rest => insertMark character (sortMarks rest)

/--
Put a letter together with what follows it.  The marks between the letter and the next character
come last first; one of them that has no lower class keeps the next character from the letter.
-/
def composeFrom (letter : Char) (marks : Text) : Text → Text
  | [] => letter :: marks.reverse
  | next :: rest =>
      let isKeptAway :=
        match marks with
        | [] => false
        | last :: _ => combiningClass next ≤ combiningClass last
      match if isKeptAway then none else composite? letter next with
      | some composite => composeFrom composite marks rest
      | none =>
          if combiningClass next = 0 then
            letter :: marks.reverse ++ composeFrom next [] rest
          else
            composeFrom letter (next :: marks) rest

/-- A decomposed text with its characters put together. -/
def compose : Text → Text
  | [] => []
  | character :: rest =>
      if combiningClass character = 0 then
        composeFrom character [] rest
      else
        character :: compose rest

/-- The composed spelling of a text. -/
def composed (text : Text) : Text :=
  compose (sortMarks (decomposed text))

end ModuleUpdate.Text
