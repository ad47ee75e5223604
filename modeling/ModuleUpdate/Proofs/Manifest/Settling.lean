import ModuleUpdate.Proofs.Manifest.Rereading

namespace ModuleUpdate

/-!
# Printing what settled

Statements that settle are printed as they were: comments that became part of the statement behind
them stand on the same lines, and so does a blank line that went with them.
-/

theorem printRemarks_append
    (indent : Text)
    (first second : List Text) :
    printRemarks indent (first ++ second) =
      printRemarks indent first ++ printRemarks indent second :=
  List.flatMap_append

namespace Content

/-- Comments above a statement are printed in front of it. -/
theorem toText_withLead
    (lead : List Text)
    (content : Content) :
    (content.withLead lead).toText = printRemarks [] lead ++ content.toText := by
  cases content with
  | directive verb line => simp [withLead, toText, printTokens, printRemarks_append]
  | block group => simp [withLead, toText, Block.toText, printTokens, printRemarks_append]
  | remark comments => simp [withLead, toText, printRemarks_append]

/-- Line numbers are not printed. -/
theorem toText_unnumbered (content : Content) :
    content.unnumbered.toText = content.toText := by
  cases content with
  | directive verb line => rfl
  | block group =>
      simp [unnumbered, toText, Block.toText, Block.unnumbered, List.flatMap_map,
        Line.unnumbered]
  | remark comments => rfl

end Content

namespace Statement

/-- A last statement is printed behind the others. -/
theorem print_concat
    (statements : List Statement)
    (last : Statement) :
    print (statements ++ [last]) =
      print statements ++ if statements = [] then last.content.toText else last.toText := by
  cases statements <;> simp [print]

theorem toText_unnumbered (statement : Statement) :
    statement.unnumbered.toText = statement.toText := by
  rw [toText, toText, ← statement.content.toText_unnumbered]
  rfl

/-- Line numbers are not printed. -/
theorem print_unnumbered (statements : List Statement) :
    print (statements.map unnumbered) = print statements := by
  cases statements with
  | nil => rfl
  | cons first following =>
      simp only [List.map_cons, print, List.flatMap_map, toText_unnumbered]
      rw [unnumbered, Content.toText_unnumbered]

end Statement

namespace Draft

/-- The text of the statements and of the comments that wait for the next one. -/
def printed (draft : Draft) : Text :=
  Statement.print draft.statements ++ (if draft.blankBefore then ['\n'] else []) ++
    printRemarks [] draft.pending

/-- A draft in which something was placed behind the last blank line. -/
structure IsPlaced (draft : Draft) : Prop where
  started : draft.flushed ≠ []
  spaced : draft.blankBefore = true → draft.statements ≠ [] ∧ draft.pending ≠ []

/-- The statements of a draft are printed as the draft is. -/
theorem print_flushed
    {draft : Draft}
    (isPlaced : draft.IsPlaced) :
    Statement.print draft.flushed = draft.printed := by
  have spaced := isPlaced.spaced
  simp only [flushed, printed]
  by_cases nothingWaits : draft.pending = []
  · have noBlank : draft.blankBefore = false := by
      rw [Bool.eq_false_iff]
      exact fun blank => (spaced blank).2 nothingWaits
    simp [nothingWaits, noBlank, printRemarks]
  · rw [if_neg nothingWaits, Statement.print_concat]
    split
    · next noStatement =>
        have noBlank : draft.blankBefore = false := by
          rw [Bool.eq_false_iff]
          exact fun blank => (spaced blank).1 noStatement
        simp [noStatement, noBlank, Content.toText]
    · simp [Statement.toText, Content.toText]

/-- The text of a content that is placed stands behind what there was. -/
theorem printed_place
    {draft : Draft}
    (startsApart : draft.blankBefore = true → draft.statements ≠ [])
    {content : Content}
    (readable : content.IsReadable) :
    (draft.place content).printed = draft.printed ++ content.toText ∧
      (draft.place content).IsPlaced := by
  have ofStatement :
      ∀ statement : Statement,
        statement =
            { content := content.withLead draft.pending, blankBefore := draft.blankBefore } →
          Statement.print (draft.statements ++ [statement]) = draft.printed ++ content.toText := by
    rintro _ rfl
    rw [Statement.print_concat, printed]
    cases placed : draft.statements with
    | nil =>
        have noBlank : draft.blankBefore = false := by
          rw [Bool.eq_false_iff]
          exact fun blank => startsApart blank placed
        simp [noBlank, Content.toText_withLead]
    | cons first others => simp [Statement.toText, Content.toText_withLead]
  cases content with
  | remark comments =>
      have waits : draft.pending ++ comments ≠ [] := by simp [readable.1]
      refine ⟨?_, ?_, ?_⟩
      · rw [place, printed, printed, printRemarks_append, ← List.append_assoc]
        rfl
      · simp [place, flushed, waits]
      · exact fun blank => ⟨startsApart blank, waits⟩
  | directive verb line =>
      refine ⟨?_, by simp [place, flushed], by simp [place]⟩
      simpa [place, printed, printRemarks] using ofStatement _ rfl
  | block group =>
      refine ⟨?_, by simp [place, flushed], by simp [place]⟩
      simpa [place, printed, printRemarks] using ofStatement _ rfl

/-- The text of a statement that is placed behind others stands behind theirs. -/
theorem printed_placeStatement
    {draft : Draft}
    (isPlaced : draft.IsPlaced)
    {statement : Statement}
    (readable : statement.content.IsReadable) :
    (draft.placeStatement statement).printed = draft.printed ++ statement.toText ∧
      (draft.placeStatement statement).IsPlaced := by
  simp only [placeStatement]
  cases blank : statement.blankBefore with
  | false =>
      have placed := printed_place (fun before => (isPlaced.spaced before).1) readable
      simpa [Statement.toText, blank] using placed
  | true =>
      have remarked : (draft.addRemark none).printed = draft.printed ++ ['\n'] := by
        simp [addRemark, printed, printRemarks, isPlaced.started, print_flushed isPlaced]
      have startsApart :
          (draft.addRemark none).blankBefore = true → (draft.addRemark none).statements ≠ [] :=
        fun _ => isPlaced.started
      obtain ⟨text, placed⟩ := printed_place startsApart readable
      exact ⟨by simp [text, remarked, Statement.toText, blank], placed⟩

/-- Statements that are placed one by one are printed in order. -/
theorem printed_foldl
    {draft : Draft}
    (isPlaced : draft.IsPlaced)
    {statements : List Statement}
    (readable : Statement.AreReadable statements) :
    (statements.foldl placeStatement draft).printed =
        draft.printed ++ statements.flatMap Statement.toText ∧
      (statements.foldl placeStatement draft).IsPlaced := by
  induction statements generalizing draft with
  | nil => exact ⟨by simp, isPlaced⟩
  | cons statement following inductionHypothesis =>
      obtain ⟨text, placed⟩ := printed_placeStatement isPlaced (readable statement (by simp))
      obtain ⟨texts, allPlaced⟩ :=
        inductionHypothesis placed fun other member => readable other (by simp [member])
      exact ⟨by simp [texts, text], allPlaced⟩

end Draft

/-- Settled statements are printed as before. -/
theorem Statement.print_settled
    {statements : List Statement}
    (readable : Statement.AreReadable statements) :
    Statement.print (Statement.settled statements) = Statement.print statements := by
  cases statements with
  | nil => rfl
  | cons first following =>
      have noBlank : ({} : Draft).blankBefore = true → ({} : Draft).statements ≠ [] :=
        fun blank => nomatch blank
      have othersReadable : AreReadable following :=
        fun other member => readable other (by simp [member])
      obtain ⟨text, placed⟩ := Draft.printed_place noBlank (readable first (by simp))
      obtain ⟨texts, allPlaced⟩ := Draft.printed_foldl placed othersReadable
      rw [settled, Draft.print_flushed allPlaced, texts, text]
      rfl

end ModuleUpdate
