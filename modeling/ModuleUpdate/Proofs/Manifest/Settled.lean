import ModuleUpdate.Proofs.Manifest.Rereading

namespace ModuleUpdate

/-!
# Statements that were read have settled

Reading attaches comments to the statement directly behind them, so free-standing comments are
always followed by a blank line or by the end of the manifest, and no blank line is kept in front
of the first statement.  Statements with these two properties are read back as they were printed.
-/

namespace Content

/-- A free-standing comment. -/
def IsRemark : Content → Prop
  | .remark _ => True
  | _ => False

end Content

namespace Statement

/--
A statement may be read behind others: the first one has no blank line in front of it, and one
behind free-standing comments has.
-/
def MayFollow (statements : List Statement) (blankBefore : Bool) : Prop :=
  match statements.getLast? with
  | none => blankBefore = false
  | some last => last.content.IsRemark → blankBefore = true

/-- Statements that stay as they are when they are printed and read back. -/
inductive AreSettled : List Statement → Prop where
  | nil : AreSettled []
  | concat
      {statements : List Statement}
      {last : Statement}
      (areSettled : AreSettled statements)
      (mayFollow : MayFollow statements last.blankBefore) :
      AreSettled (statements ++ [last])

theorem mayFollow_concat
    {statements : List Statement}
    {last : Statement}
    {blankBefore : Bool} :
    MayFollow (statements ++ [last]) blankBefore ↔
      (last.content.IsRemark → blankBefore = true) := by
  simp [MayFollow]

/-- A blank line may stand behind any statement. -/
theorem mayFollow_blank
    {statements : List Statement}
    (notEmpty : statements ≠ []) :
    MayFollow statements true := by
  simp [MayFollow, List.getLast?_eq_some_getLast notEmpty]

end Statement

namespace Draft

/-- A draft that leads to settled statements. -/
structure Settles (draft : Draft) : Prop where
  statements : Statement.AreSettled draft.statements
  next : draft.openBlock = none → Statement.MayFollow draft.statements draft.blankBefore
  openBlock :
    ∀ opened ∈ draft.openBlock, Statement.MayFollow draft.statements opened.blankBefore

theorem areSettled_flushed
    {draft : Draft}
    (settles : draft.Settles)
    (closed : draft.openBlock = none) :
    Statement.AreSettled draft.flushed := by
  simp only [flushed]
  split
  · exact settles.statements
  · exact settles.statements.concat (settles.next closed)

/-- Reading one more row inside a block. -/
private theorem settles_addInside
    {draft extended : Draft}
    {opened : OpenBlock}
    {number : Nat}
    {row : Token.Row}
    (settles : draft.Settles)
    (isOpen : draft.openBlock = some opened)
    (added : draft.addInside opened number row = .ok extended) :
    extended.Settles := by
  have mayFollow := settles.openBlock opened isOpen
  have goesOn :
      ∀ further : OpenBlock,
        further.blankBefore = opened.blankBefore →
          Settles { draft with openBlock := some further } := by
    rintro further sameBlank
    refine ⟨settles.statements, by simp, ?_⟩
    rintro _ ⟨⟩
    exact sameBlank ▸ mayFollow
  simp only [addInside] at added
  split at added
  · cases added
    refine goesOn _ ?_
    simp only [OpenBlock.addRemark]
    split
    · rfl
    · split <;> rfl
  · split at added
    · cases added
      refine ⟨settles.statements.concat mayFollow, fun _ => ?_, by simp⟩
      rw [Statement.mayFollow_concat]
      exact False.elim
    · split at added
      · cases added
      · cases added
        exact goesOn _ rfl

/-- Reading one more row between statements. -/
private theorem settles_addOutside
    {draft extended : Draft}
    {number : Nat}
    {row : Token.Row}
    (settles : draft.Settles)
    (closed : draft.openBlock = none)
    (added : draft.addOutside number row = .ok extended) :
    extended.Settles := by
  have mayFollow := settles.next closed
  simp only [addOutside] at added
  split at added
  · cases added
    simp only [addRemark]
    split
    · exact ⟨settles.statements, fun _ => mayFollow, by simp [closed]⟩
    · refine ⟨areSettled_flushed settles closed, fun _ => ?_, by simp [closed]⟩
      by_cases nothingRead : draft.flushed = []
      · simp [nothingRead, Statement.MayFollow]
      · simpa [nothingRead] using Statement.mayFollow_blank nothingRead
  · split at added
    · cases added
    · split at added
      · cases added
      · simp only [addDirective] at added
        split at added
        · split at added
          · cases added
          · cases added
            refine ⟨settles.statements, by simp, ?_⟩
            rintro _ ⟨⟩
            exact mayFollow
        · split at added
          · cases added
          · cases added
            refine ⟨settles.statements.concat mayFollow, fun _ => ?_, by simp [closed]⟩
            rw [Statement.mayFollow_concat]
            exact False.elim

/-- Reading lines leads to settled statements. -/
private theorem settles_addLines
    {draft extended : Draft}
    {number : Nat}
    {lines : List Text}
    (settles : draft.Settles)
    (added : draft.addLines number lines = .ok extended) :
    extended.Settles := by
  induction lines generalizing draft number with
  | nil =>
      cases added
      exact settles
  | cons line following inductionHypothesis =>
      simp only [addLines] at added
      split at added
      · cases added
      · next further step =>
          refine inductionHypothesis ?_ added
          simp only [addLine] at step
          split at step
          · cases step
          · next isOpen => exact settles_addInside settles isOpen step
          · next closed => exact settles_addOutside settles closed step

end Draft

/-- The statements that a text is read as have settled. -/
theorem Statement.areSettled_ofText
    {text : Text}
    {statements : List Statement}
    (read : Statement.ofText text = .ok statements) :
    Statement.AreSettled statements := by
  simp only [Statement.ofText] at read
  split at read
  · cases read
  · next draft added =>
      have empty : Draft.Settles {} := ⟨.nil, fun _ => rfl, by simp⟩
      have settles := Draft.settles_addLines empty added
      simp only [Draft.finish] at read
      split at read
      · cases read
      · next closed =>
          cases read
          exact Draft.areSettled_flushed settles closed

namespace Draft

/-- A draft that holds exactly the given statements, the last of which may still wait. -/
structure Holds (draft : Draft) (statements : List Statement) : Prop where
  flushed : draft.flushed = statements
  quiet : draft.pending = [] → draft.blankBefore = false
  waits : draft.pending ≠ [] → ∀ last ∈ statements.getLast?, last.content.IsRemark

/-- A content is placed behind statements after which nothing waits. -/
private theorem holds_place
    (draft : Draft)
    (nothingWaits : draft.pending = [])
    {content : Content}
    (readable : content.IsReadable) :
    (draft.place content).Holds
      (draft.statements ++ [{ content, blankBefore := draft.blankBefore }]) := by
  cases content with
  | remark comments =>
      have notEmpty : comments ≠ [] := readable.1
      constructor <;> simp [place, Draft.flushed, nothingWaits, notEmpty, Content.IsRemark]
  | directive verb line =>
      constructor <;> simp [place, Draft.flushed, nothingWaits, Content.withLead]
  | block group =>
      constructor <;> simp [place, Draft.flushed, nothingWaits, Content.withLead]

/-- A statement that may follow others is placed behind them as it is. -/
private theorem holds_placeStatement
    {draft : Draft}
    {statements : List Statement}
    (holds : draft.Holds statements)
    (notEmpty : statements ≠ [])
    {statement : Statement}
    (readable : statement.content.IsReadable)
    (mayFollow : Statement.MayFollow statements statement.blankBefore) :
    (draft.placeStatement statement).Holds (statements ++ [statement]) := by
  obtain ⟨flushed, quiet, waits⟩ := holds
  simp only [placeStatement]
  cases blank : statement.blankBefore with
  | true =>
      have placed := holds_place (draft.addRemark none) rfl readable
      have behind : (draft.addRemark none).blankBefore = statement.blankBefore := by
        simp [addRemark, flushed, notEmpty, blank]
      rw [behind] at placed
      exact flushed ▸ placed
  | false =>
      have last := List.getLast?_eq_some_getLast notEmpty
      have nothingWaits : draft.pending = [] := by
        by_contra somethingWaits
        have isRemark := waits somethingWaits _ last
        rw [Statement.MayFollow, last, blank] at mayFollow
        cases mayFollow isRemark
      have placed := holds_place draft nothingWaits readable
      rw [quiet nothingWaits, ← blank] at placed
      rw [Draft.flushed, if_pos nothingWaits] at flushed
      exact flushed ▸ placed

end Draft

/-- Readable statements that have settled stay as they are. -/
theorem Statement.settled_of_areSettled
    {statements : List Statement}
    (areSettled : Statement.AreSettled statements)
    (readable : Statement.AreReadable statements) :
    Statement.settled statements = statements := by
  -- The draft that has placed every statement holds them; the first one is placed on its own.
  have placed :
      ∀ first following,
        statements = first :: following →
          Draft.Holds
            (following.foldl Draft.placeStatement (Draft.place {} first.content))
            statements := by
    induction areSettled with
    | nil => exact fun _ _ isCons => nomatch isCons
    | @concat earlier last _ mayFollow inductionHypothesis =>
        rintro first following isCons
        have lastReadable : last.content.IsReadable := readable last (by simp)
        have earlierReadable : AreReadable earlier :=
          fun other member => readable other (by simp [member])
        cases earlier with
        | nil =>
            obtain ⟨rfl, rfl⟩ := List.cons.inj isCons
            have noBlank : last.blankBefore = false := mayFollow
            have whole : { content := last.content, blankBefore := false } = last := by
              rw [← noBlank]
            exact whole ▸ Draft.holds_place {} rfl lastReadable
        | cons other others =>
            obtain ⟨rfl, rfl⟩ := List.cons.inj isCons
            rw [List.append_eq, List.foldl_append]
            exact Draft.holds_placeStatement (inductionHypothesis earlierReadable _ _ rfl)
              (by simp) lastReadable mayFollow
  cases statements with
  | nil => rfl
  | cons first following => exact (placed first following rfl).flushed

/--
Printing what a text was read as gives a text that is read as the same statements, with the same
verbs, tokens, comments and blank lines.  Only the numbers of the lines may differ.
-/
theorem Statement.print_reread
    {text : Text}
    {statements : List Statement}
    (read : Statement.ofText text = .ok statements) :
    ∃ again,
      Statement.ofText (Statement.print statements) = .ok again ∧
        again.map Statement.unnumbered = statements.map Statement.unnumbered := by
  have readable := Statement.areReadable_ofText read
  have settled :=
    Statement.settled_of_areSettled (Statement.areSettled_ofText read) readable
  obtain ⟨again, reread, same⟩ := Statement.ofText_print readable
  exact ⟨again, reread, settled ▸ same⟩

/-- Comments that stand free and that do not, blank lines in rows, and tokens without spaces. -/
private def crowdedText : Text :=
  ("\n\n// free\n\n\n// attached\nmodule m // last\nrequire ( // both\n\n\n\t// first\n" ++
    "\ta.io/a \"v1.0.0\"\n\n\t// closing\n)\nreplace a.io/a=>\"b c\" v1.0.0\n// end\n").toList

/-- What the crowded text is read as. -/
private def crowded : List Statement :=
  [{ content := .remark ["// free".toList], blankBefore := false },
    { content :=
        .directive .mainModule
          { arguments := ["m".toList]
            comments := { before := ["// attached".toList], trailing := some "// last".toList }
            number := 7 }
      blankBefore := true },
    { content :=
        .block
          { verb := .require
            lines :=
              [{ arguments := ["a.io/a".toList, "\"v1.0.0\"".toList]
                 comments := { before := [[], "// first".toList] }
                 number := 12 }]
            comments := { trailing := some "// both".toList }
            closing := [[], "// closing".toList]
            number := 8 }
      blankBefore := false },
    { content :=
        .directive .replace
          { arguments :=
              ["a.io/a".toList, Token.arrow, "\"b c\"".toList, "v1.0.0".toList]
            number := 16 }
      blankBefore := false },
    { content := .remark ["// end".toList], blankBefore := false }]

/-- The lines of the crowded text are numbered anew, since blank lines are left out. -/
theorem print_reread_crowded :
    Statement.ofText crowdedText = .ok crowded ∧
      Statement.ofText (Statement.print crowded) ≠ .ok crowded ∧
      ∃ again,
        Statement.ofText (Statement.print crowded) = .ok again ∧
          again.map Statement.unnumbered = crowded.map Statement.unnumbered := by
  have read : Statement.ofText crowdedText = .ok crowded := by decide +kernel
  exact ⟨read, by decide +kernel, Statement.print_reread read⟩

end ModuleUpdate
