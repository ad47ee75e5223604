import ModuleUpdate.Proofs.Manifest.Canonical
import ModuleUpdate.Proofs.Manifest.Requirements

namespace ModuleUpdate

/-!
# Requirements that survive the file

A requirement that is set is read back from the formatted text, whatever its path and version are
made of, as long as no line feed is written.  A value with a line feed is put in quotes, but the
line feed itself is not escaped: it ends the line inside the quotes, and the text is refused.
-/

/-- The first line of a text holds a quote that is not closed. -/
def Breaks (text : Text) : Prop :=
  ∃ line following, Text.lines text = line :: following ∧ Token.readRow? line = none

namespace Breaks

/-- The quotes around a value with a line feed are not closed on their line. -/
private theorem exists_unclosed
    {value : Text}
    (hasLineFeed : '\n' ∈ value)
    (behind : Text) :
    ∃ line following,
      Text.lines (Text.escape value ++ behind) = line :: following ∧
        Token.readQuoted? '"' line = none := by
  induction value with
  | nil => cases hasLineFeed
  | cons character others inductionHypothesis =>
      by_cases isFeed : character = '\n'
      · subst isFeed
        exact ⟨[], _, rfl, rfl⟩
      · have inOthers := (List.mem_cons.mp hasLineFeed).resolve_left (Ne.symm isFeed)
        obtain ⟨line, following, split, unclosed⟩ := inductionHypothesis inOthers
        by_cases special : character = '\\' ∨ character = '"'
        · have noReturn : ¬(character = '\r' ∧
              (Text.escape others ++ behind).head? = some '\n') := by
            rintro ⟨rfl, _⟩
            simp at special
          refine ⟨'\\' :: character :: line, following, ?_, ?_⟩
          · rw [Text.escape_cons_of_special special, List.cons_append, List.cons_append,
              Text.lines_cons (by decide) (by simp), Text.lines_cons isFeed noReturn, split]
          · rw [Token.readQuoted?_escaped, unclosed]
            rfl
        · rw [Text.escape_cons_of_plain special, List.cons_append]
          rw [not_or] at special
          by_cases isReturn :
              character = '\r' ∧ (Text.escape others ++ behind).head? = some '\n'
          · rw [isReturn.1, Text.lines_return isReturn.2]
            exact ⟨line, following, split, unclosed⟩
          · refine ⟨character :: line, following, ?_, ?_⟩
            · rw [Text.lines_cons isFeed isReturn, split]
            · rw [Token.readQuoted?_other special.2 fun _ => special.1, unclosed]
              rfl

/-- A value with a line feed in it breaks its line. -/
theorem quoted
    {value : Text}
    (hasLineFeed : '\n' ∈ value)
    (behind : Text) :
    Breaks (Text.quoted value ++ behind) := by
  obtain ⟨line, following, split, unclosed⟩ :=
    exists_unclosed hasLineFeed ('"' :: behind)
  refine ⟨'"' :: line, following, ?_, ?_⟩
  · have whole :
        Text.quoted value ++ behind = '"' :: (Text.escape value ++ '"' :: behind) := by
      simp [Text.quoted]
    rw [whole, Text.lines_cons (by decide) (by simp), split]
  · exact Token.readRow?_unclosed unclosed

private theorem line_ne_nil
    {line : Text}
    (unreadable : Token.readRow? line = none) :
    line ≠ [] := by
  rintro rfl
  rw [Token.readRow?_nil] at unreadable
  cases unreadable

/-- A token in front of a break is read, and the line breaks behind it. -/
theorem token
    {token : Token}
    (spelled : token.IsSpelled)
    {text : Text}
    (breaks : Breaks text) :
    Breaks (token ++ ' ' :: text) := by
  obtain ⟨line, following, split, unreadable⟩ := breaks
  have oneLine : '\n' ∉ token ++ [' '] := by simp [spelled.oneLine]
  refine ⟨token ++ ' ' :: line, following, ?_, ?_⟩
  · simpa using Text.lines_append_left oneLine split (line_ne_nil unreadable)
  · rw [Token.readRow?_token spelled (Token.startsApart_space line),
      Token.readRow?_separator rfl, unreadable]
    rfl

/-- A row of tokens breaks at the first value with a line feed. -/
theorem join
    {spelled : List Token}
    (areSpelled : ∀ token ∈ spelled, Token.IsSpelled token)
    {value : Text}
    (hasLineFeed : '\n' ∈ value)
    (others : List Token)
    (behind : Text) :
    Breaks (Text.join [' '] (spelled ++ Token.ofValue value :: others) ++ behind) := by
  induction spelled with
  | nil =>
      rw [Token.ofValue_of_lineFeed hasLineFeed, List.nil_append]
      cases others with
      | nil => simpa [Text.join] using quoted hasLineFeed behind
      | cons second later =>
          simpa [Text.join, List.intercalate_cons_cons] using quoted hasLineFeed _
  | cons first following inductionHypothesis =>
      have broken := inductionHypothesis fun other member => areSpelled other (by simp [member])
      have whole :
          Text.join [' '] (first :: following ++ Token.ofValue value :: others) ++ behind =
            first ++ ' ' ::
              (Text.join [' '] (following ++ Token.ofValue value :: others) ++ behind) := by
        rw [Text.join, List.cons_append, List.intercalate_cons_of_ne_nil (by simp)]
        simp [Text.join]
      rw [whole]
      exact token (areSpelled first (by simp)) broken

end Breaks

/-- A text of whole lines. -/
def EndsLine (text : Text) : Prop :=
  text = [] ∨ ∃ front, text = front ++ ['\n']

namespace EndsLine

theorem line (text : Text) : EndsLine (text ++ ['\n']) :=
  .inr ⟨text, rfl⟩

/-- Texts of whole lines are one text of whole lines. -/
theorem append
    {first second : Text}
    (firstEnds : EndsLine first)
    (secondEnds : EndsLine second) :
    EndsLine (first ++ second) := by
  rcases secondEnds with rfl | ⟨front, rfl⟩
  · rwa [List.append_nil]
  · rw [← List.append_assoc]
    exact line _

/-- A text that is put together from whole lines is one of whole lines. -/
theorem flatMap
    {spell : α → Text}
    {elements : List α}
    (each : ∀ element ∈ elements, EndsLine (spell element)) :
    EndsLine (elements.flatMap spell) := by
  induction elements with
  | nil => exact .inl rfl
  | cons element following inductionHypothesis =>
      rw [List.flatMap_cons]
      exact (each element (by simp)).append
        (inductionHypothesis fun other member => each other (by simp [member]))

end EndsLine

/-- A piece stands at the start of a line. -/
def StartsLine (piece text : Text) : Prop :=
  ∃ front behind, EndsLine front ∧ text = front ++ (piece ++ behind)

namespace StartsLine

variable {piece first second : Text}

/-- A piece that starts a line still does so behind whole lines. -/
theorem append_left
    (endsLine : EndsLine first)
    (startsLine : StartsLine piece second) :
    StartsLine piece (first ++ second) := by
  obtain ⟨front, behind, frontEnds, rfl⟩ := startsLine
  exact ⟨first ++ front, behind, endsLine.append frontEnds, by simp⟩

/-- A piece that starts a line still does so in front of more text. -/
theorem append_right
    (startsLine : StartsLine piece first)
    (second : Text) :
    StartsLine piece (first ++ second) := by
  obtain ⟨front, behind, frontEnds, rfl⟩ := startsLine
  exact ⟨front, behind ++ second, frontEnds, by simp⟩

theorem flatMap
    {spell : α → Text}
    {elements : List α}
    (each : ∀ element, EndsLine (spell element))
    {element : α}
    (member : element ∈ elements)
    (startsLine : StartsLine piece (spell element)) :
    StartsLine piece (elements.flatMap spell) := by
  obtain ⟨before, after, rfl⟩ := List.mem_iff_append.mp member
  rw [List.flatMap_append, List.flatMap_cons]
  exact append_left (EndsLine.flatMap fun other _ => each other)
    (append_right startsLine (after.flatMap spell))

end StartsLine

namespace Manifest

variable {manifest changed : Manifest}

end Manifest

end ModuleUpdate
