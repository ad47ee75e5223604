import ModuleUpdate.Text.Character
import ModuleUpdate.Text.NonspacingMarkRange
import ModuleUpdate.Text.SpacingMarkRange
import ModuleUpdate.Text.CombiningRun

namespace ModuleUpdate.Text

/-!
# Combining marks

A mark combines with the character in front of it.  Its class tells which other marks it can trade
places with; characters that are no marks are of class zero.
-/

/-- A mark that takes no room of its own. -/
def isNonspacingMark (character : Char) : Bool :=
  inRanges nonspacingMarkRanges character.toNat

/-- A mark of any kind. -/
def isMark (character : Char) : Bool :=
  isNonspacingMark character || inRanges spacingMarkRanges character.toNat

/-- The combining class of a character. -/
def combiningClass (character : Char) : Nat :=
  (runValue? combiningRuns character.toNat).getD 0

/-- The class of the signs that take the vowel from a consonant. -/
def vowelKillerClass : Nat :=
  9

/-- A sign that takes the vowel from the consonant in front of it. -/
def isVowelKiller (character : Char) : Bool :=
  combiningClass character == vowelKillerClass

end ModuleUpdate.Text
