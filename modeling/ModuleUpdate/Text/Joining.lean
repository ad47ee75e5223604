import ModuleUpdate.Text.Mark
import ModuleUpdate.Text.JoiningRun

namespace ModuleUpdate.Text

/-!
# Joiners

Two characters without a shape of their own tell whether letters join.  They have a meaning behind
a sign that takes the vowel from a consonant, and the one that keeps letters apart also between two
letters that would join.
-/

/-- The character that joins letters. -/
def joiner : Char :=
  Char.ofNat 0x200D

/-- The character that keeps letters apart. -/
def nonJoiner : Char :=
  Char.ofNat 0x200C

/-- One of the two characters without a shape. -/
def isJoiner (character : Char) : Bool :=
  character == joiner || character == nonJoiner

/-- How a character joins its neighbours; the mark of nasal vowels is no nonspacing mark. -/
def joining (character : Char) : Joining :=
  if isNonspacingMark character || character.toNat == 0x1E94B then
    .transparent
  else
    (runValue? joiningRuns character.toNat).getD .none

/-- How the first character joins that is not transparent. -/
def firstJoining (text : List Char) : Joining :=
  ((text.map joining).find? (· ≠ .transparent)).getD .none

/-- Whether letters would join between two texts, the first of which is given last first. -/
def joins (before behind : List Char) : Bool :=
  [.forward, .both].contains (firstJoining before) &&
    [.backward, .both].contains (firstJoining behind)

/-- Whether a joiner or its opposite has a meaning at its place. -/
def hasMeaning (character : Char) (before behind : List Char) : Bool :=
  (before.head?.map isVowelKiller).getD false ||
    (character == nonJoiner && joins before behind)

/-- Whether all joiners of a text have a meaning, behind a text that is given last first. -/
def joinersHaveMeaning (before : List Char) : List Char → Bool
  | [] => true
  | character :: behind =>
      (!isJoiner character || hasMeaning character before behind) &&
        joinersHaveMeaning (character :: before) behind

end ModuleUpdate.Text
