import Mathlib.Data.List.Basic
import ModuleUpdate.Manifest.Clauses
import ModuleUpdate.Proofs.Manifest.Spelling

namespace ModuleUpdate.Clauses

/-!
# Comments with a marker

Marking a requirement may spell its trailing comment anew.  The new comment is made of clauses
that are trimmed and not empty, so it is a comment that is read back as well.
-/

/-- Clauses that make up a comment on one line. -/
def AreTidy (items : List Text) : Prop :=
  ∀ item ∈ items, item ≠ [] ∧ Text.trimEnd item = item ∧ '\n' ∉ item

private theorem mem_of_mem_splitOn
    {mark character : Char}
    {text part : Text}
    (isPart : part ∈ text.splitOn mark)
    (member : character ∈ part) :
    character ∈ text := by
  rw [← @List.intercalate_splitOn _ text _ _ mark]
  obtain ⟨front, behind, parts⟩ := List.mem_iff_append.mp isPart
  rw [parts]
  clear parts isPart
  induction front with
  | nil =>
      cases behind with
      | nil => simpa [List.intercalate_singleton] using member
      | cons second others =>
          rw [List.nil_append, List.intercalate_cons_cons]
          simp [member]
  | cons first others inductionHypothesis =>
      rw [List.cons_append, List.intercalate_cons_of_ne_nil (by simp)]
      exact List.mem_append_right _ inductionHypothesis

theorem mem_of_mem_trim
    {text : Text}
    {character : Char}
    (member : character ∈ Text.trim text) :
    character ∈ text :=
  (List.dropWhile_sublist _).subset ((Text.initial_trimEnd _).subset member)

/-- The clauses of a comment on one line are tidy. -/
theorem areTidy_ofComment
    {comment : Option Text}
    (oneLine : ∀ text ∈ comment, '\n' ∉ text) :
    AreTidy (ofComment comment).items := by
  cases comment with
  | none =>
      intro item member
      cases member
  | some text =>
      intro item member
      obtain ⟨inParts, notEmpty⟩ := List.mem_filter.mp member
      obtain ⟨part, isPart, rfl⟩ := List.mem_map.mp inParts
      refine ⟨by simpa using notEmpty, Text.trimEnd_trimEnd _, fun lineFeed => ?_⟩
      have inBody := mem_of_mem_splitOn isPart (mem_of_mem_trim lineFeed)
      apply oneLine text rfl
      apply mem_of_mem_trim
      simp only [Text.dropOpening] at inBody
      cases opened : Text.after? opening (Text.trim text) with
      | none => simpa [opened] using inBody
      | some behind =>
          rw [Text.after?_eq_some_iff.mp opened]
          exact List.mem_append_right _ (by simpa [opened] using inBody)

/-- Clauses stay tidy when the marker is set. -/
theorem areTidy_withIndirect
    {clauses marked : Clauses}
    {indirect : Bool}
    (tidy : AreTidy clauses.items)
    (changed : clauses.withIndirect? indirect = some marked) :
    AreTidy marked.items := by
  simp only [withIndirect?] at changed
  split at changed
  · cases changed
  · split at changed
    · cases changed
      intro item member
      rcases List.mem_cons.mp member with rfl | inClauses
      · decide
      · exact tidy item inClauses
    · cases changed
      intro item member
      exact tidy item (List.mem_of_mem_tail member)

/-- A comment made of clauses does not end in white space. -/
theorem trimEnd_opening
    {items : List Text}
    (someItem : items ≠ [])
    (trimmed : ∀ item ∈ items, item ≠ [] ∧ Text.trimEnd item = item) :
    Text.trimEnd (opening ++ ' ' :: Text.join "; ".toList items) =
      opening ++ ' ' :: Text.join "; ".toList items := by
  obtain ⟨earlier, last, split⟩ := (List.eq_nil_or_concat items).resolve_left someItem
  obtain ⟨notEmpty, lastTrimmed⟩ := trimmed last (by simp [split])
  obtain ⟨inside, final, ends⟩ := (List.eq_nil_or_concat last).resolve_left notEmpty
  rw [List.concat_eq_append] at split ends
  have visible : Text.isBlank final = false :=
    Text.isBlank_of_trimEnd_eq_self lastTrimmed (by simp [ends])
  obtain ⟨front, joined⟩ := Text.join_append_singleton "; ".toList earlier last
  have whole :
      opening ++ ' ' :: Text.join "; ".toList items =
        (opening ++ ' ' :: (front ++ inside)) ++ [final] := by
    rw [split, joined, ends]
    simp
  rw [whole]
  exact Text.trimEnd_eq_self _ visible

/-- Tidy clauses make up a comment that is read back. -/
theorem isComment_toComment
    {clauses : Clauses}
    (tidy : AreTidy clauses.items)
    {comment : Text}
    (made : clauses.toComment = some comment) :
    Token.IsComment comment := by
  simp only [toComment] at made
  split at made
  · cases made
  · next someItem =>
      cases made
      constructor
      · intro member
        rcases List.mem_append.mp member with inOpening | behind
        · exact absurd inOpening (by decide)
        · rcases List.mem_cons.mp behind with same | inItems
          · cases same
          · rcases Text.mem_join inItems with inSeparator | ⟨item, isItem, within⟩
            · exact absurd inSeparator (by decide)
            · exact (tidy item isItem).2.2 within
      · exact ⟨_, rfl⟩
      · exact trimEnd_opening someItem fun item member => ⟨(tidy item member).1, (tidy item member).2.1⟩

/-- A comment with the marker set is read back if the comment is. -/
theorem isComment_markComment
    {comment : Option Text}
    (readable : ∀ text ∈ comment, Token.IsComment text)
    (indirect : Bool) :
    ∀ text ∈ markComment comment indirect, Token.IsComment text := by
  intro text isMarked
  simp only [markComment] at isMarked
  split at isMarked
  · next clauses changed =>
      have tidy := areTidy_ofComment fun text member => (readable text member).oneLine
      exact isComment_toComment (areTidy_withIndirect tidy changed) isMarked
  · exact readable text isMarked

end ModuleUpdate.Clauses
