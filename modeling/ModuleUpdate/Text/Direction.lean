import ModuleUpdate.Text.Mark
import ModuleUpdate.Text.DirectionRun

namespace ModuleUpdate.Text

/-!
# Texts of two directions

A name whose letters run from right to left is read without doubt only if it keeps to one direction
between its ends.
-/

/-- The nonspacing marks that run from left to right like letters. -/
def letterlikeMarks : List Nat :=
  [0xCBF, 0xCC6, 0x11A07, 0x11A08, 0x11C3F]

/-- The direction of a character. -/
def direction (character : Char) : Direction :=
  if isNonspacingMark character && !letterlikeMarks.contains character.toNat then
    .nonspacing
  else
    (runValue? directionRuns character.toNat).getD .leftToRight

/-- Whether a character makes a text one that runs from right to left. -/
def isRightToLeft (character : Char) : Bool :=
  [.rightToLeft, .arabicDigit].contains (direction character)

/-- The direction of the last character that is no nonspacing mark. -/
def lastDirection? (directions : List Direction) : Option Direction :=
  (directions.reverse.dropWhile (· = .nonspacing)).head?

/-- Whether directions are those of a name from left to right. -/
def areLeftToRight (directions : List Direction) : Bool :=
  !directions.contains .rightToLeft && !directions.contains .arabicDigit &&
    [some .leftToRight, some .europeanDigit].contains (lastDirection? directions)

/-- Whether directions are those of a name from right to left, with digits of one kind. -/
def areRightToLeft (directions : List Direction) : Bool :=
  !directions.contains .leftToRight &&
    !(directions.contains .europeanDigit && directions.contains .arabicDigit) &&
    [some .rightToLeft, some .europeanDigit, some .arabicDigit].contains
      (lastDirection? directions)

/-- Whether a name keeps to the direction of its first character. -/
def keepsDirection (name : List Char) : Bool :=
  let directions := name.map direction
  match directions with
  | [] => true
  | .leftToRight :: _ => areLeftToRight directions
  | .rightToLeft :: _ => areRightToLeft directions
  | _ => false

end ModuleUpdate.Text
