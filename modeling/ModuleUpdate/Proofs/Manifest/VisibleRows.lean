import ModuleUpdate.Proofs.Manifest.Rereading

namespace ModuleUpdate

/-!
# Rows that reading and printing keep

The visible rows of a text are the tokens and the comments of its lines that are not blank.  Every
row that is read is kept by some field of a statement and printed again, but for the comment behind
the parenthesis that closes a block: no field of a block takes it.
-/

/-- The tokens and comments of the lines that are not blank; a line that cannot be read has none. -/
def Text.visibleRows (text : Text) : List (Option Token.Row) :=
  ((Text.lines text).map Token.readRow?).filter (· ≠ some blankRow)

/-- The row as a block keeps it: nothing behind a closing parenthesis. -/
def Token.Row.kept (row : Token.Row) : Token.Row :=
  if row.tokens = [Token.blockEnd] then { row with comment := none } else row

/-- The rows that hold a token or a comment. -/
def visible (rows : List Token.Row) : List Token.Row :=
  rows.filter (· ≠ blankRow)

/-- The visible rows of two texts follow each other. -/
@[simp] theorem visible_append
    (first second : List Token.Row) :
    visible (first ++ second) = visible first ++ visible second :=
  List.filter_append ..

theorem visible_flatMap
    (rows : α → List Token.Row)
    (elements : List α) :
    visible (elements.flatMap rows) = elements.flatMap fun element => visible (rows element) :=
  List.filter_flatMap

/-- A row that is kept is blank where it was blank. -/
theorem kept_eq_blankRow_iff {row : Token.Row} : row.kept = blankRow ↔ row = blankRow := by
  obtain ⟨tokens, comment⟩ := row
  simp only [Token.Row.kept]
  split
  · next closes =>
      obtain rfl : tokens = [Token.blockEnd] := closes
      constructor <;> rintro ⟨⟩
  · exact Iff.rfl

theorem visible_map_kept (rows : List Token.Row) :
    visible (rows.map Token.Row.kept) = (visible rows).map Token.Row.kept := by
  simp only [visible, List.filter_map]
  congr 1
  apply List.filter_congr
  intro row _
  simp [kept_eq_blankRow_iff]

theorem filter_map_some (rows : List Token.Row) :
    (rows.map some).filter (· ≠ some blankRow) = (visible rows).map some := by
  simp only [visible, List.filter_map]
  congr 1
  apply List.filter_congr
  simp

/-- The visible rows of printed statements, where blank lines no longer count. -/
theorem Statement.visible_printedRows (statements : List Statement) :
    visible (Statement.printedRows statements) =
      visible (statements.flatMap fun statement => statement.content.rows) := by
  have behind :
      ∀ statement : Statement, visible statement.rows = visible statement.content.rows := by
    intro statement
    simp only [Statement.rows, visible_append]
    split <;> rfl
  cases statements with
  | nil => rfl
  | cons first following =>
      simp [Statement.printedRows, visible_flatMap, behind]

/-- The rows of a block up to the line that closes it. -/
def OpenBlock.rows (opened : OpenBlock) : List Token.Row :=
  tokenRows [opened.block.verb.word, Token.blockStart] opened.block.comments ++
    opened.block.lines.flatMap (fun line => tokenRows line.arguments line.comments) ++
    opened.pending.map remarkRow

/-- A block that is closed shows the closing parenthesis behind its rows. -/
theorem OpenBlock.rows_close (opened : OpenBlock) :
    opened.close.content.rows = opened.rows ++ [{ tokens := [Token.blockEnd], comment := none }] :=
  rfl

/-- A block shows one more line behind its rows. -/
theorem OpenBlock.rows_addLine
    (opened : OpenBlock)
    (number : Nat)
    (row : Token.Row) :
    (opened.addLine number row).rows = opened.rows ++ [row] := by
  simp [rows, addLine, tokenRows]

/-- A comment that was read is the comment of its own row. -/
theorem remarkRow_of_isComment
    {comment : Text}
    (isComment : Token.IsComment comment) :
    remarkRow comment = { tokens := [], comment := some comment } := by
  simp [remarkRow, isComment.ne_nil]

/-- A comment in a block adds its row, and a blank line adds nothing that is visible. -/
theorem OpenBlock.visible_addRemark
    (opened : OpenBlock)
    {row : Token.Row}
    (spelled : row.IsSpelled)
    (noTokens : row.tokens = []) :
    visible (opened.addRemark row.comment).rows = visible opened.rows ++ visible [row] := by
  obtain ⟨tokens, comment⟩ := row
  obtain rfl : tokens = [] := noTokens
  cases comment with
  | some comment =>
      have isComment := spelled.comment comment rfl
      simp [addRemark, rows, remarkRow_of_isComment isComment]
  | none =>
      have blank : visible [{ tokens := [], comment := none }] = [] := rfl
      simp only [addRemark]
      split
      · simp [blank]
      · simp [rows, remarkRow, blank]

namespace Draft

/-- The rows that a draft was read from, as far as it keeps them. -/
def rows (draft : Draft) : List Token.Row :=
  draft.statements.flatMap (fun statement => statement.content.rows) ++
    (draft.openBlock.elim [] OpenBlock.rows ++ draft.pending.map remarkRow)

/-- A draft that amounts to the given visible rows; nothing waits while a block is open. -/
structure AmountsTo (draft : Draft) (rows : List Token.Row) : Prop where
  visible : ModuleUpdate.visible draft.rows = rows
  nothingWaits : draft.openBlock ≠ none → draft.pending = []

/-- The statements of a draft show its rows. -/
private theorem rows_flushed
    {draft : Draft}
    (closed : draft.openBlock = none) :
    draft.flushed.flatMap (fun statement => statement.content.rows) = draft.rows := by
  simp only [flushed, rows, closed]
  split
  · next nothingWaits => simp [nothingWaits]
  · simp [Content.rows]

/-- One more row inside a block is kept. -/
private theorem amountsTo_addInside
    {draft extended : Draft}
    {opened : OpenBlock}
    {number : Nat}
    {row : Token.Row}
    {rows : List Token.Row}
    (amounts : draft.AmountsTo rows)
    (isOpen : draft.openBlock = some opened)
    (spelled : row.IsSpelled)
    (added : draft.addInside opened number row = .ok extended) :
    extended.AmountsTo (rows ++ visible [row.kept]) := by
  obtain ⟨rfl, nothingWaits⟩ := amounts
  have noPending := nothingWaits (by simp [isOpen])
  simp only [addInside] at added
  split at added
  · next noTokens =>
      cases added
      refine ⟨?_, fun _ => noPending⟩
      have kept : row.kept = row := by simp [Token.Row.kept, noTokens]
      simp [Draft.rows, isOpen, noPending, kept, opened.visible_addRemark spelled noTokens]
  · split at added
    · next closes =>
        cases added
        refine ⟨?_, fun open' => absurd rfl open'⟩
        have kept : row.kept = { tokens := [Token.blockEnd], comment := none } := by
          simp [Token.Row.kept, closes]
        simp [Draft.rows, isOpen, noPending, kept, OpenBlock.rows_close]
    · next notEnd =>
        split at added
        · cases added
        · cases added
          refine ⟨?_, fun _ => noPending⟩
          have kept : row.kept = row := by simp [Token.Row.kept, notEnd]
          simp [Draft.rows, isOpen, noPending, kept, OpenBlock.rows_addLine]

/-- One more row between statements is kept. -/
private theorem amountsTo_addOutside
    {draft extended : Draft}
    {number : Nat}
    {row : Token.Row}
    {rows : List Token.Row}
    (amounts : draft.AmountsTo rows)
    (closed : draft.openBlock = none)
    (spelled : row.IsSpelled)
    (added : draft.addOutside number row = .ok extended) :
    extended.AmountsTo (rows ++ visible [row.kept]) := by
  obtain ⟨rfl, -⟩ := amounts
  obtain ⟨tokens, comment⟩ := row
  cases tokens with
  | nil =>
      cases added
      have kept : Token.Row.kept { tokens := [], comment } = { tokens := [], comment } := rfl
      rw [kept]
      cases comment with
      | some comment =>
          have isComment := spelled.comment comment rfl
          refine ⟨?_, fun isOpen => absurd closed isOpen⟩
          simp [Draft.rows, addRemark, closed, remarkRow_of_isComment isComment]
      | none =>
          refine ⟨?_, fun _ => rfl⟩
          have blank : visible [{ tokens := [], comment := none }] = [] := rfl
          simp [addRemark, Draft.rows, closed, rows_flushed closed, blank]
  | cons word arguments =>
      simp only [addOutside] at added
      split at added
      · cases added
      · next noParenthesis =>
          have kept :
              Token.Row.kept { tokens := word :: arguments, comment } =
                { tokens := word :: arguments, comment } := by
            rw [Token.Row.kept, if_neg]
            rintro ⟨⟩
            exact noParenthesis rfl
          rw [kept]
          split at added
          · cases added
          · next verb isVerb =>
              have isWord : verb.word = word := by
                simpa using List.find?_some isVerb
              simp only [addDirective] at added
              split at added
              · next opens =>
                  split at added
                  · cases added
                  · cases added
                    refine ⟨?_, fun _ => rfl⟩
                    simp [Draft.rows, closed, OpenBlock.rows, tokenRows, isWord, opens]
              · split at added
                · cases added
                · cases added
                  refine ⟨?_, fun isOpen => absurd closed isOpen⟩
                  simp [Draft.rows, closed, Content.rows, tokenRows, isWord]

/-- Every line is read as a row, which is kept. -/
private theorem amountsTo_addLines
    {draft extended : Draft}
    {number : Nat}
    {lines : List Text}
    {earlier : List Token.Row}
    (amounts : draft.AmountsTo earlier)
    (oneLine : ∀ line ∈ lines, '\n' ∉ line)
    (added : draft.addLines number lines = .ok extended) :
    ∃ rows : List Token.Row,
      lines.map Token.readRow? = rows.map some ∧
        extended.AmountsTo (earlier ++ visible (rows.map Token.Row.kept)) := by
  induction lines generalizing draft number earlier with
  | nil =>
      cases added
      exact ⟨[], rfl, by simpa [visible] using amounts⟩
  | cons line following inductionHypothesis =>
      simp only [addLines] at added
      split at added
      · cases added
      · next further step =>
          have kept :
              ∃ row,
                Token.readRow? line = some row ∧
                  further.AmountsTo (earlier ++ visible [row.kept]) := by
            simp only [addLine] at step
            split at step
            · cases step
            · next row opened read isOpen =>
                have spelled := Token.Row.isSpelled_of_readRow? read (oneLine line (by simp))
                exact ⟨row, read, amountsTo_addInside amounts isOpen spelled step⟩
            · next row read closed =>
                have spelled := Token.Row.isSpelled_of_readRow? read (oneLine line (by simp))
                exact ⟨row, read, amountsTo_addOutside amounts closed spelled step⟩
          obtain ⟨row, read, furtherAmounts⟩ := kept
          obtain ⟨rows, readOthers, extendedAmounts⟩ :=
            inductionHypothesis furtherAmounts (fun other member => oneLine other (by simp [member]))
              added
          refine ⟨row :: rows, by simp [read, readOthers], ?_⟩
          have whole :
              visible ((row :: rows).map Token.Row.kept) =
                visible [row.kept] ++ visible (rows.map Token.Row.kept) :=
            visible_append [row.kept] (rows.map Token.Row.kept)
          rw [whole, ← List.append_assoc]
          exact extendedAmounts

end Draft

namespace Statement

/-- The statements of a text hold its visible rows, as far as they are kept. -/
theorem rows_of_ofText
    {text : Text}
    {statements : List Statement}
    (read : Statement.ofText text = .ok statements) :
    ∃ rows : List Token.Row,
      (Text.lines text).map Token.readRow? = rows.map some ∧
        visible (statements.flatMap fun statement => statement.content.rows) =
          (visible rows).map Token.Row.kept := by
  simp only [Statement.ofText] at read
  split at read
  · cases read
  · next draft added =>
      have empty : Draft.AmountsTo {} [] := ⟨rfl, fun isOpen => absurd rfl isOpen⟩
      obtain ⟨rows, readRows, amounts⟩ :=
        Draft.amountsTo_addLines empty (fun _ => Text.lineFeed_not_mem_of_mem_lines) added
      simp only [Draft.finish] at read
      split at read
      · cases read
      · next closed =>
          cases read
          refine ⟨rows, readRows, ?_⟩
          rw [Draft.rows_flushed closed, amounts.visible, List.nil_append, visible_map_kept]

/-- Printed statements show the visible rows of their contents. -/
theorem visibleRows_print
    {statements : List Statement}
    (readable : Statement.AreReadable statements) :
    Text.visibleRows (Statement.print statements) =
      (visible (statements.flatMap fun statement => statement.content.rows)).map some := by
  obtain ⟨lines, printed, areLines, read⟩ := Statement.spells_print readable
  rw [Text.visibleRows, printed, Text.lines_unlines areLines, read, filter_map_some,
    Statement.visible_printedRows]

/--
Reading a text and printing what was read keeps the tokens and the comment of every visible row,
except that the comment behind a closing parenthesis is lost.  The rows are the same exactly if no
line that closes a block has a comment.
-/
theorem visibleRows_print_ofText
    {text : Text}
    {statements : List Statement}
    (read : Statement.ofText text = .ok statements) :
    Text.visibleRows (Statement.print statements) =
        (Text.visibleRows text).map (Option.map Token.Row.kept) ∧
      (Text.visibleRows (Statement.print statements) = Text.visibleRows text ↔
        ∀ row,
          some row ∈ Text.visibleRows text →
            row.tokens = [Token.blockEnd] → row.comment = none) := by
  obtain ⟨rows, readRows, held⟩ := rows_of_ofText read
  have shown : Text.visibleRows text = (visible rows).map some := by
    rw [Text.visibleRows, readRows, filter_map_some]
  have printed := visibleRows_print (Statement.areReadable_ofText read)
  rw [held] at printed
  refine ⟨by rw [printed, shown]; simp, ?_⟩
  have keptIff : ∀ row : Token.Row,
      row.kept = row ↔ (row.tokens = [Token.blockEnd] → row.comment = none) := by
    intro row
    simp only [Token.Row.kept]
    split
    · next closes =>
        constructor
        · intro same _
          rw [← same]
        · intro noComment
          rw [← noComment closes]
    · next notEnd => simp [notEnd]
  rw [printed, shown, List.map_map, List.map_inj_left]
  simp [keptIff]

/-- A block with a comment behind its closing parenthesis. -/
private def closingText : Text :=
  "module m // first\n\nrequire ( // opening\n\ta.io/a v1.0.0\n\t// last\n) // closing\n".toList

/-- What the text with the closing comment is read as. -/
private def closing : List Statement :=
  [{ content :=
       .directive .mainModule
         { arguments := ["m".toList]
           comments := { trailing := some "// first".toList }
           number := 1 }
     blankBefore := false },
    { content :=
        .block
          { verb := .require
            lines := [{ arguments := ["a.io/a".toList, "v1.0.0".toList], number := 4 }]
            comments := { trailing := some "// opening".toList }
            closing := ["// last".toList]
            number := 3 }
      blankBefore := true }]

/-- Of the four comments, only the one behind the closing parenthesis is lost. -/
theorem visibleRows_print_ofText_closing :
    Statement.ofText closingText = .ok closing ∧
      Text.visibleRows (Statement.print closing) =
        (Text.visibleRows closingText).map (Option.map Token.Row.kept) ∧
      some { tokens := [Token.blockEnd], comment := some "// closing".toList } ∈
        Text.visibleRows closingText ∧
      Text.visibleRows (Statement.print closing) ≠ Text.visibleRows closingText := by
  have read : Statement.ofText closingText = .ok closing := by decide +kernel
  obtain ⟨kept, sameIff⟩ := visibleRows_print_ofText read
  have lost :
      some { tokens := [Token.blockEnd], comment := some "// closing".toList } ∈
        Text.visibleRows closingText := by
    decide +kernel
  refine ⟨read, kept, lost, fun same => ?_⟩
  cases sameIff.mp same _ lost rfl

end Statement

end ModuleUpdate
