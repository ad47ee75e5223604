import ModuleUpdate.Text.Character

namespace ModuleUpdate

/-!
# Text

Text is the list of its characters, which lets every reader of this library recurse on what is
left to read.  This module holds the operations that the readers and printers share: trimming,
lines, affixes, the last occurrence of a mark, decimal numbers, and the bytes of a text.
-/

/-- Text as the list of its characters. -/
abbrev Text := List Char

namespace Text

/-- The text without the white space it starts with. -/
def trimStart (text : Text) : Text :=
  text.dropWhile isBlank

/-- The text without the white space it ends with. -/
def trimEnd (text : Text) : Text :=
  (text.reverse.dropWhile isBlank).reverse

/-- The text without the white space around it. -/
def trim (text : Text) : Text :=
  trimEnd (trimStart text)

/--
The lines of a text.  A line ends at a line feed or at the end of the text, and a carriage return
directly before the line feed belongs to the line end.
-/
def lines : Text → List Text
  | [] => []
  | '\n' :: rest => [] :: lines rest
  | '\r' :: '\n' :: rest => [] :: lines rest
  | character :: rest =>
      match lines rest with
      | [] => [[character]]
      | line :: following => (character :: line) :: following

/-- What follows a text's opening, if the text opens so. -/
def after? (opening text : Text) : Option Text :=
  opening.isPrefixOf? text

/-- What precedes a text's ending, if the text ends so. -/
def before? (ending text : Text) : Option Text :=
  ending.isSuffixOf? text

/-- A text opens so exactly when it is the opening and what follows. -/
theorem after?_eq_some_iff
    {opening text behind : Text} :
    after? opening text = some behind ↔ text = opening ++ behind := by
  induction opening generalizing text with
  | nil =>
      change some text = some behind ↔ text = behind
      exact Option.some_inj
  | cons first others inductionHypothesis =>
      cases text with
      | nil =>
          change none = some behind ↔ [] = first :: (others ++ behind)
          simp
      | cons character rest =>
          change
            (if first == character then after? others rest else none) = some behind ↔
              character :: rest = first :: (others ++ behind)
          by_cases same : first = character
          · subst same
            simp [inductionHypothesis]
          · have different : character ≠ first := fun equal => same equal.symm
            simp [same, different]

/-- A text ends so exactly when it is what precedes and the ending. -/
theorem before?_eq_some_iff
    {ending text before : Text} :
    before? ending text = some before ↔ text = before ++ ending := by
  unfold before? List.isSuffixOf?
  rw [Option.map_eq_some_iff]
  constructor
  · rintro ⟨reversed, found, rfl⟩
    have reversedSplit := congrArg List.reverse (after?_eq_some_iff.mp found)
    simpa using reversedSplit
  · intro split
    exact ⟨before.reverse, after?_eq_some_iff.mpr (by simp [split]), by simp⟩

/-- The text without an opening, where it has it. -/
def dropOpening (opening text : Text) : Text :=
  (after? opening text).getD text

/-- The text without an ending, where it has it. -/
def dropEnding (ending text : Text) : Text :=
  (before? ending text).getD text

/-- Whether a mark occurs in the text. -/
def mentions (mark : Text) : Text → Bool
  | [] => mark.isEmpty
  | character :: rest =>
      mark.isPrefixOf (character :: rest) || mentions mark rest

/-- The text before and the text behind the last occurrence of a mark. -/
def splitAtLast? (mark : Text) : Text → Option (Text × Text)
  | [] => (after? mark []).map fun behind => ([], behind)
  | character :: rest =>
      match splitAtLast? mark rest with
      | some (before, behind) => some (character :: before, behind)
      | none => (after? mark (character :: rest)).map fun behind => ([], behind)

/-- Texts joined by a separator. -/
def join (separator : Text) (texts : List Text) : Text :=
  separator.intercalate texts

/-- The number that decimal digits spell. -/
def ofDigits (digits : Text) : Nat :=
  digits.foldl (fun value digit => 10 * value + (digit.toNat - '0'.toNat)) 0

/-- The number that a text of one or more decimal digits spells. -/
def natural? (text : Text) : Option Nat :=
  if text ≠ [] ∧ text.all Char.isDigit then
    some (ofDigits text)
  else
    none

/-- The decimal digits of a number, without leading zeros. -/
def ofNatural (number : Nat) : Text :=
  Nat.toDigits 10 number

/-- The least number that does not fit a word of 64 bits. -/
def wordLimit : Nat :=
  UInt64.size

/-- The number that decimal digits spell, if it fits a word of 64 bits. -/
def word? (text : Text) : Option Nat :=
  (natural? text).filter (· < wordLimit)

/-- The number of bytes that the text takes. -/
def byteLength : Text → Nat
  | [] => 0
  | character :: rest => character.utf8Size + byteLength rest

/-- The bytes of a text in UTF-8. -/
def toBytes (text : Text) : ByteArray :=
  (String.ofList text).toUTF8

/-- The text that bytes spell in UTF-8, if they are well formed. -/
def ofBytes? (bytes : ByteArray) : Option Text :=
  (String.fromUTF8? bytes).map String.toList

/-- Every text is read back from its bytes. -/
theorem ofBytes?_toBytes (text : Text) : ofBytes? (toBytes text) = some text := by
  unfold ofBytes? toBytes String.fromUTF8?
  have valid : (String.ofList text).toUTF8.IsValidUTF8 := (String.ofList text).isValidUTF8
  rw [dif_pos valid]
  exact congrArg some String.toList_ofList

/-- Bytes that spell a text are the bytes of that text. -/
theorem toBytes_of_ofBytes?
    {bytes : ByteArray}
    {text : Text}
    (spelled : ofBytes? bytes = some text) :
    toBytes text = bytes := by
  unfold ofBytes? String.fromUTF8? at spelled
  split at spelled
  · cases spelled
    simp [toBytes, String.fromUTF8]
  · cases spelled

/--
The characters before and from a byte offset.  An offset inside a character counts as the offset
behind it.
-/
def splitAtByte : Nat → Text → Text × Text
  | _, [] => ([], [])
  | offset, character :: rest =>
      if offset = 0 then
        ([], character :: rest)
      else
        let (before, behind) := splitAtByte (offset - character.utf8Size) rest
        (character :: before, behind)

/-- Splitting at a byte offset loses no character. -/
theorem splitAtByte_append (offset : Nat) (text : Text) :
    (splitAtByte offset text).1 ++ (splitAtByte offset text).2 = text := by
  induction text generalizing offset with
  | nil => rfl
  | cons character rest inductionHypothesis =>
      unfold splitAtByte
      split
      · rfl
      · simp [inductionHypothesis]

end Text

end ModuleUpdate
