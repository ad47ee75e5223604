import ModuleUpdate.Proofs.Manifest.Readable

namespace ModuleUpdate

/-!
# Reading what was printed

Printing gives every statement as rows of tokens and comments, and reading takes rows.  A readable
statement that is read behind others is added to them as it was, except that free-standing
comments directly in front of it are attached to it and that its lines are numbered anew.
-/

namespace Line

/-- The line as if it was not read from a text. -/
def unnumbered (line : Line) : Line :=
  { line with number := 0 }

end Line

namespace Block

/-- The block as if it was not read from a text. -/
def unnumbered (block : Block) : Block :=
  { block with lines := block.lines.map Line.unnumbered, number := 0 }

end Block

namespace Content

/-- The content as if it was not read from a text. -/
def unnumbered : Content → Content
  | .directive verb line => .directive verb line.unnumbered
  | .block group => .block group.unnumbered
  | .remark comments => .remark comments

/-- The content with more comments in front. -/
def withLead (lead : List Text) : Content → Content
  | .directive verb line =>
      .directive verb
        { line with comments := { line.comments with before := lead ++ line.comments.before } }
  | .block group =>
      .block
        { group with comments := { group.comments with before := lead ++ group.comments.before } }
  | .remark comments => .remark (lead ++ comments)

end Content

namespace Statement

/-- The statement as if it was not read from a text. -/
def unnumbered (statement : Statement) : Statement :=
  { statement with content := statement.content.unnumbered }

end Statement

namespace Draft

/-- The draft as if its statements were not read from a text. -/
def unnumbered (draft : Draft) : Draft :=
  { draft with statements := draft.statements.map Statement.unnumbered }

/-- The draft with one more content behind its statements. -/
def place (draft : Draft) : Content → Draft
  | .remark comments => { draft with pending := draft.pending ++ comments }
  | content =>
      { draft with
        statements :=
          draft.statements ++
            [{ content := content.withLead draft.pending, blankBefore := draft.blankBefore }]
        pending := []
        blankBefore := false }

/-- The draft with one more statement behind its own. -/
def placeStatement (draft : Draft) (statement : Statement) : Draft :=
  (if statement.blankBefore then draft.addRemark none else draft).place statement.content

end Draft

/-- The statements that printed statements are read as, but for the numbers of their lines. -/
def Statement.settled : List Statement → List Statement
  | [] => []
  | first :: following =>
      (following.foldl Draft.placeStatement (Draft.place {} first.content)).flushed

/-- The row of a remark on a line of its own. -/
def remarkRow (remark : Text) : Token.Row :=
  { tokens := [], comment := if remark = [] then none else some remark }

/-- The row of a line without a remark. -/
def blankRow : Token.Row :=
  { tokens := [], comment := none }

/-- The rows of a line of tokens with its comments. -/
def tokenRows (tokens : List Token) (comments : Comments) : List Token.Row :=
  comments.before.map remarkRow ++ [{ tokens, comment := comments.trailing }]

namespace Block

/-- The rows of a block. -/
def rows (block : Block) : List Token.Row :=
  tokenRows [block.verb.word, Token.blockStart] block.comments ++
    block.lines.flatMap (fun line => tokenRows line.arguments line.comments) ++
    block.closing.map remarkRow ++ [{ tokens := [Token.blockEnd], comment := none }]

end Block

namespace Content

/-- The rows of a statement without the blank line in front of it. -/
def rows : Content → List Token.Row
  | .directive verb line => tokenRows (verb.word :: line.arguments) line.comments
  | .block group => group.rows
  | .remark comments => comments.map remarkRow

end Content

namespace Statement

/-- The rows of a statement behind another. -/
def rows (statement : Statement) : List Token.Row :=
  (if statement.blankBefore then [blankRow] else []) ++ statement.content.rows

/-- The rows of a manifest. -/
def printedRows : List Statement → List Token.Row
  | [] => []
  | first :: following => first.content.rows ++ following.flatMap rows

end Statement

/-- A text of whole lines, each of which is read as one row. -/
def Spells (text : Text) (rows : List Token.Row) : Prop :=
  ∃ lines,
    text = Text.unlines lines ∧
      (∀ line ∈ lines, Text.IsLine line) ∧ lines.map Token.readRow? = rows.map some

namespace Spells

/-- The empty text spells no row. -/
theorem nil : Spells [] [] :=
  ⟨[], rfl, by simp, rfl⟩

/-- Texts one after the other spell their rows one after the other. -/
theorem append
    {first second : Text}
    {firstRows secondRows : List Token.Row}
    (firstSpelled : Spells first firstRows)
    (secondSpelled : Spells second secondRows) :
    Spells (first ++ second) (firstRows ++ secondRows) := by
  obtain ⟨firstLines, rfl, areFirst, firstRead⟩ := firstSpelled
  obtain ⟨secondLines, rfl, areSecond, secondRead⟩ := secondSpelled
  refine ⟨firstLines ++ secondLines, by simp [Text.unlines], ?_, ?_⟩
  · intro line member
    rcases List.mem_append.mp member with inFirst | inSecond
    · exact areFirst line inFirst
    · exact areSecond line inSecond
  · rw [List.map_append, List.map_append, firstRead, secondRead]

/-- A line that is read as a row spells it. -/
theorem line
    {line : Text}
    {row : Token.Row}
    (isLine : Text.IsLine line)
    (read : Token.readRow? line = some row) :
    Spells (line ++ ['\n']) [row] :=
  ⟨[line], by simp [Text.unlines], by simp [isLine], by simp [read]⟩

/-- A text that is put together from parts spells their rows in order. -/
theorem flatMap
    {spell : α → Text}
    {rows : α → List Token.Row}
    {elements : List α}
    (each : ∀ element ∈ elements, Spells (spell element) (rows element)) :
    Spells (elements.flatMap spell) (elements.flatMap rows) := by
  induction elements with
  | nil => exact nil
  | cons element following inductionHypothesis =>
      rw [List.flatMap_cons, List.flatMap_cons]
      exact (each element (by simp)).append
        (inductionHypothesis fun other member => each other (by simp [member]))

end Spells

private theorem isLine_nil : Text.IsLine [] :=
  ⟨by simp, by simp⟩

/-- Indented text on one line that does not end in a separator. -/
private theorem isLine_append
    {indent text : Text}
    (indented : ∀ character ∈ indent, Token.isSeparator character = true)
    (oneLine : '\n' ∉ text)
    {last : Char}
    (isLast : text.getLast? = some last)
    (visible : Token.isSeparator last = false) :
    Text.IsLine (indent ++ text) := by
  constructor
  · intro member
    rcases List.mem_append.mp member with inIndent | inText
    · cases indented '\n' inIndent
    · exact oneLine inText
  · rw [List.getLast?_append, isLast]
    rintro ⟨⟩
    cases visible

/-- What a line is indented by is not read. -/
private theorem readRow?_indent
    {indent : Text}
    (indented : ∀ character ∈ indent, Token.isSeparator character = true)
    (text : Text) :
    Token.readRow? (indent ++ text) = Token.readRow? text := by
  induction indent with
  | nil => rfl
  | cons character others inductionHypothesis =>
      rw [List.cons_append, Token.readRow?_separator (indented character (by simp)),
        inductionHypothesis fun other member => indented other (by simp [member])]

private theorem isSeparator_of_not_isBlank
    {character : Char}
    (visible : Text.isBlank character = false) :
    Token.isSeparator character = false := by
  by_contra separates
  simp only [Token.isSeparator, Bool.not_eq_false, Bool.or_eq_true, beq_iff_eq] at separates
  rcases separates with (rfl | rfl) | rfl <;> cases visible

/-- A comment ends in a visible character. -/
private theorem exists_last_of_isComment
    {comment : Text}
    (isComment : Token.IsComment comment) :
    ∃ last, comment.getLast? = some last ∧ Token.isSeparator last = false := by
  have notEmpty := isComment.ne_nil
  refine ⟨comment.getLast notEmpty, List.getLast?_eq_some_getLast notEmpty, ?_⟩
  apply isSeparator_of_not_isBlank
  exact Text.isBlank_of_trimEnd_eq_self isComment.trimmed (List.getLast?_eq_some_getLast notEmpty)

/-- Printed remarks are read as a row each. -/
theorem spells_printRemarks
    {indent : Text}
    (indented : ∀ character ∈ indent, Token.isSeparator character = true)
    {remarks : List Text}
    (entries : ∀ remark ∈ remarks, remark = [] ∨ Token.IsComment remark) :
    Spells (printRemarks indent remarks) (remarks.map remarkRow) := by
  rw [List.map_eq_flatMap]
  apply Spells.flatMap
  intro remark member
  rcases entries remark member with rfl | isComment
  · exact Spells.line isLine_nil (by simp [Token.readRow?_nil, remarkRow])
  · obtain ⟨last, isLast, visible⟩ := exists_last_of_isComment isComment
    have notEmpty : remark ≠ [] := by
      rintro rfl
      cases isLast
    rw [if_neg notEmpty]
    refine Spells.line (isLine_append indented isComment.oneLine isLast visible) ?_
    rw [readRow?_indent indented, Token.readRow?_comment isComment, remarkRow, if_neg notEmpty]

/-- A printed row of tokens is read back, with the remarks above it. -/
theorem spells_printTokens
    {indent : Text}
    (indented : ∀ character ∈ indent, Token.isSeparator character = true)
    {tokens : List Token}
    (notEmpty : tokens ≠ [])
    (spelled : ∀ token ∈ tokens, Token.IsSpelled token)
    {comments : Comments}
    (entries : ∀ remark ∈ comments.before, remark = [] ∨ Token.IsComment remark)
    (trailing : ∀ comment ∈ comments.trailing, Token.IsComment comment) :
    Spells (printTokens indent tokens comments) (tokenRows tokens comments) := by
  have joinOneLine : '\n' ∉ Text.join [' '] tokens := by
    intro member
    rcases Text.mem_join member with inSeparator | ⟨token, isToken, within⟩
    · exact absurd inSeparator (by decide)
    · exact (spelled token isToken).oneLine within
  simp only [printTokens, tokenRows]
  rw [List.append_assoc, List.append_assoc]
  refine (spells_printRemarks indented entries).append ?_
  cases hasComment : comments.trailing with
  | some comment =>
      have isComment := trailing comment hasComment
      obtain ⟨last, isLast, visible⟩ := exists_last_of_isComment isComment
      have whole :
          indent ++ (Text.join [' '] tokens ++ printLineEnd (some comment)) =
            (indent ++ (Text.join [' '] tokens ++ ' ' :: comment)) ++ ['\n'] := by
        simp [printLineEnd]
      rw [whole]
      have endsSo : (Text.join [' '] tokens ++ ' ' :: comment).getLast? = some last := by
        simp [List.getLast?_append, List.getLast?_cons, isLast]
      refine Spells.line (isLine_append indented ?_ endsSo visible) ?_
      · simp [joinOneLine, isComment.oneLine]
      · rw [readRow?_indent indented,
          Token.readRow?_join spelled (Token.startsApart_space comment),
          Token.readRow?_separator rfl, Token.readRow?_comment isComment]
        simp
  | none =>
      obtain ⟨others, final, split⟩ := (List.eq_nil_or_concat tokens).resolve_left notEmpty
      rw [List.concat_eq_append] at split
      have finalSpelled := spelled final (by simp [split])
      have finalNotEmpty : final ≠ [] := by
        obtain ⟨character, rest, rfl, _⟩ := finalSpelled.readBack
        simp
      have isLast := List.getLast?_eq_some_getLast finalNotEmpty
      obtain ⟨front, joined⟩ := Text.join_append_singleton [' '] others final
      have whole :
          indent ++ (Text.join [' '] tokens ++ printLineEnd none) =
            (indent ++ Text.join [' '] tokens) ++ ['\n'] := by
        simp [printLineEnd]
      rw [whole]
      refine Spells.line
        (isLine_append indented joinOneLine ?_ (finalSpelled.isSeparator_last isLast)) ?_
      · rw [split, joined, List.getLast?_append, isLast]
        rfl
      · have read := Token.readRow?_join spelled Token.startsApart_nil
        rw [List.append_nil] at read
        rw [readRow?_indent indented, read]
        simp [Token.readRow?_nil]

/-- The word of a verb is spelled as it stands. -/
theorem isSpelled_word (verb : Verb) : Token.IsSpelled verb.word := by
  have word : Token.ofValue verb.word = verb.word := by
    cases verb <;> decide
  rw [← word]
  apply Token.isSpelled_ofValue
  cases verb <;> decide

private theorem isSpelled_blockStart : Token.IsSpelled Token.blockStart :=
  ⟨by decide, '(', [], rfl, fun _ _ => rfl⟩

private theorem isSpelled_blockEnd : Token.IsSpelled Token.blockEnd :=
  ⟨by decide, ')', [], rfl, fun _ _ => rfl⟩

private theorem indented_nil : ∀ character ∈ ([] : Text), Token.isSeparator character = true := by
  simp

theorem indented_blockIndent :
    ∀ character ∈ blockIndent, Token.isSeparator character = true :=
  List.all_eq_true.mp (by decide)

/-- A printed statement is read back as its rows. -/
theorem Content.spells_toText
    {content : Content}
    (readable : content.IsReadable) :
    Spells content.toText content.rows := by
  cases content with
  | directive verb line =>
      obtain ⟨lineReadable, before⟩ := readable
      refine spells_printTokens indented_nil (by simp) ?_
        (fun remark member => .inr (before remark member)) lineReadable.trailing
      intro token member
      rcases List.mem_cons.mp member with rfl | isArgument
      · exact isSpelled_word verb
      · exact lineReadable.arguments token isArgument
  | block group =>
      have closes : Spells (Token.blockEnd ++ ['\n']) [⟨[Token.blockEnd], none⟩] :=
        Spells.line ⟨by decide, by decide⟩
          (by simpa [Token.readRow?_nil] using
            Token.readRow?_token isSpelled_blockEnd Token.startsApart_nil)
      show Spells group.toText group.rows
      simp only [Block.toText]
      rw [List.append_assoc _ Token.blockEnd]
      refine ((Spells.append ?_ ?_).append ?_).append closes
      · refine spells_printTokens indented_nil (by simp) ?_
          (fun remark member => .inr (readable.before remark member)) readable.trailing
        intro token member
        simp only [List.mem_cons, List.not_mem_nil, or_false] at member
        rcases member with rfl | rfl
        · exact isSpelled_word group.verb
        · exact isSpelled_blockStart
      · apply Spells.flatMap
        intro line member
        have inside := readable.lines line member
        exact spells_printTokens indented_blockIndent inside.notEmpty inside.arguments
          inside.before.entries inside.trailing
      · exact spells_printRemarks indented_blockIndent readable.closing.entries
  | remark comments =>
      exact spells_printRemarks indented_nil
        fun remark member => .inr (readable.2 remark member)

/-- Printed statements spell their rows. -/
theorem Statement.spells_print
    {statements : List Statement}
    (readable : Statement.AreReadable statements) :
    Spells (Statement.print statements) (Statement.printedRows statements) := by
  cases statements with
  | nil => exact Spells.nil
  | cons first following =>
      refine (Content.spells_toText (readable first (by simp))).append (Spells.flatMap ?_)
      intro statement member
      refine Spells.append ?_ (Content.spells_toText (readable statement (by simp [member])))
      cases statement.blankBefore with
      | false => exact Spells.nil
      | true => exact Spells.line isLine_nil Token.readRow?_nil

namespace Draft

/-- Read one more row. -/
def addRow (draft : Draft) (number : Nat) (row : Token.Row) : Except ManifestError Draft :=
  match draft.openBlock with
  | some opened => draft.addInside opened number row
  | none => draft.addOutside number row

/-- Read rows in order, the first of which has the given number. -/
def addRows (draft : Draft) (number : Nat) : List Token.Row → Except ManifestError Draft
  | [] => .ok draft
  | row :: following =>
      match draft.addRow number row with
      | .error error => .error error
      | .ok extended => extended.addRows (number + 1) following

/-- Lines are read as the rows that they spell. -/
theorem addLines_eq_addRows
    {lines : List Text}
    {rows : List Token.Row}
    (read : lines.map Token.readRow? = rows.map some)
    (draft : Draft)
    (number : Nat) :
    draft.addLines number lines = draft.addRows number rows := by
  induction lines generalizing draft number rows with
  | nil =>
      cases rows with
      | nil => rfl
      | cons row following => cases read
  | cons line following inductionHypothesis =>
      cases rows with
      | nil => cases read
      | cons row others =>
          obtain ⟨first, rest⟩ := List.cons.inj read
          have step : draft.addLine number line = draft.addRow number row := by
            simp only [addLine, addRow]
            rw [first]
            cases draft.openBlock <;> rfl
          simp only [addLines, addRows]
          rw [step]
          cases draft.addRow number row with
          | error error => rfl
          | ok extended => exact inductionHypothesis rest extended (number + 1)

/-- Reading goes on behind rows that were read. -/
theorem addRows_append
    {draft extended : Draft}
    {number : Nat}
    {first : List Token.Row}
    (read : draft.addRows number first = .ok extended)
    (second : List Token.Row) :
    draft.addRows number (first ++ second) =
      extended.addRows (number + first.length) second := by
  induction first generalizing draft number with
  | nil =>
      cases read
      rfl
  | cons row following inductionHypothesis =>
      simp only [addRows] at read
      rw [List.cons_append, addRows]
      cases step : draft.addRow number row with
      | error error =>
          rw [step] at read
          cases read
      | ok further =>
          rw [step] at read
          dsimp only at read ⊢
          rw [inductionHypothesis read, List.length_cons, Nat.add_right_comm, Nat.add_assoc]

/-- Reading goes on with one more row. -/
theorem addRows_concat
    {draft extended : Draft}
    {number : Nat}
    {rows : List Token.Row}
    (read : draft.addRows number rows = .ok extended)
    (row : Token.Row) :
    draft.addRows number (rows ++ [row]) = extended.addRow (number + rows.length) row := by
  rw [addRows_append read, addRows]
  cases extended.addRow (number + rows.length) row <;> rfl

end Draft

/-- A printed manifest is read row by row. -/
theorem Statement.ofText_of_spells
    {text : Text}
    {rows : List Token.Row}
    (spells : Spells text rows) :
    Statement.ofText text =
      match Draft.addRows {} 1 rows with
      | .error error => .error error
      | .ok draft => draft.finish := by
  obtain ⟨lines, rfl, areLines, read⟩ := spells
  have sameDraft := Draft.addLines_eq_addRows read {} 1
  cases drafted : Draft.addRows {} 1 rows <;>
    simp only [Statement.ofText, Text.lines_unlines areLines, sameDraft, drafted]

/-- The open block with more lines. -/
def OpenBlock.withLines (opened : OpenBlock) (lines : List Line) : OpenBlock :=
  { opened with block := { opened.block with lines := opened.block.lines ++ lines } }

namespace Draft

/-- Comments between statements wait for the next one. -/
private theorem addRows_comments
    (draft : Draft)
    (closed : draft.openBlock = none)
    {comments : List Text}
    (areComments : ∀ comment ∈ comments, Token.IsComment comment)
    (number : Nat) :
    draft.addRows number (comments.map remarkRow) =
      .ok { draft with pending := draft.pending ++ comments } := by
  induction comments generalizing draft number with
  | nil => simp [addRows]
  | cons comment following inductionHypothesis =>
      have notEmpty := (areComments comment (by simp)).ne_nil
      have step :
          draft.addRow number (remarkRow comment) =
            .ok { draft with pending := draft.pending ++ [comment] } := by
        simp [addRow, closed, remarkRow, notEmpty, addOutside, addRemark]
      rw [List.map_cons, addRows, step]
      dsimp only
      rw [inductionHypothesis _ (by exact closed) fun other member =>
        areComments other (by simp [member])]
      simp

/-- Remarks inside a block wait for the next line. -/
private theorem addRows_margin
    (draft : Draft)
    {opened : OpenBlock}
    (isOpen : draft.openBlock = some opened)
    {remarks : List Text}
    (margin : IsMargin (opened.pending ++ remarks))
    (number : Nat) :
    draft.addRows number (remarks.map remarkRow) =
      .ok
        { draft with
          openBlock := some { opened with pending := opened.pending ++ remarks } } := by
  induction remarks generalizing draft opened number with
  | nil => simp [addRows, ← isOpen]
  | cons remark following inductionHypothesis =>
      have added :
          opened.addRemark (remarkRow remark).comment =
            { opened with pending := opened.pending ++ [remark] } := by
        by_cases blank : remark = []
        · have lastNotBlank : opened.pending.getLast? ≠ some [] := by
            intro isLast
            have apart := margin.blanksApart
            rw [List.isChain_append] at apart
            exact apart.2.2 [] isLast remark rfl rfl blank
          simp [OpenBlock.addRemark, remarkRow, blank, lastNotBlank]
        · simp [OpenBlock.addRemark, remarkRow, blank]
      have step :
          draft.addRow number (remarkRow remark) =
            .ok
              { draft with
                openBlock := some { opened with pending := opened.pending ++ [remark] } } := by
        rw [← added]
        simp [addRow, isOpen, addInside, remarkRow]
      rw [List.map_cons, addRows, step]
      dsimp only
      have rest : IsMargin ((opened.pending ++ [remark]) ++ following) := by
        simpa using margin
      rw [inductionHypothesis { draft with openBlock := some _ } rfl rest]
      simp

/-- The word of a verb is no parenthesis. -/
private theorem isParenthesis_word (verb : Verb) : isParenthesis verb.word = false := by
  cases verb <;> decide

/-- The row of a single directive ends a statement. -/
private theorem addRow_directive
    (draft : Draft)
    (closed : draft.openBlock = none)
    (verb : Verb)
    {arguments : List Token}
    (noParenthesis : arguments.any isParenthesis = false)
    (comment : Option Text)
    (number : Nat) :
    draft.addRow number { tokens := verb.word :: arguments, comment } =
      .ok
        { draft with
          statements :=
            draft.statements ++
              [{ content :=
                   .directive verb
                     { arguments, number
                       comments := { before := draft.pending, trailing := comment } }
                 blankBefore := draft.blankBefore }]
          pending := []
          blankBefore := false } := by
  have noBlock : arguments ≠ [Token.blockStart] := by
    rintro rfl
    cases noParenthesis
  simp [addRow, closed, addOutside, isParenthesis_word, Verb.ofWord?_word, addDirective,
    noBlock, noParenthesis]

/-- The row that opens a block. -/
private theorem addRow_blockStart
    (draft : Draft)
    (closed : draft.openBlock = none)
    {verb : Verb}
    (mayOpen : verb.standsAlone = false)
    (comment : Option Text)
    (number : Nat) :
    draft.addRow number { tokens := [verb.word, Token.blockStart], comment } =
      .ok
        { draft with
          pending := []
          blankBefore := false
          openBlock :=
            some
              { block :=
                  { verb, number
                    comments := { before := draft.pending, trailing := comment } }
                blankBefore := draft.blankBefore } } := by
  simp [addRow, closed, addOutside, isParenthesis_word, Verb.ofWord?_word, addDirective,
    mayOpen]

/-- The row of a line inside a block. -/
private theorem addRow_line
    (draft : Draft)
    {opened : OpenBlock}
    (isOpen : draft.openBlock = some opened)
    {tokens : List Token}
    (notEmpty : tokens ≠ [])
    (noParenthesis : tokens.any isParenthesis = false)
    (comment : Option Text)
    (number : Nat) :
    draft.addRow number { tokens, comment } =
      .ok
        { draft with
          openBlock := some (opened.addLine number { tokens, comment }) } := by
  have notEnd : tokens ≠ [Token.blockEnd] := by
    rintro rfl
    cases noParenthesis
  simp [addRow, isOpen, addInside, notEmpty, notEnd, noParenthesis]

/-- The row that closes a block ends a statement. -/
private theorem addRow_blockEnd
    (draft : Draft)
    {opened : OpenBlock}
    (isOpen : draft.openBlock = some opened)
    (number : Nat) :
    draft.addRow number { tokens := [Token.blockEnd], comment := none } =
      .ok
        { draft with
          statements := draft.statements ++ [opened.close]
          openBlock := none } := by
  simp [addRow, isOpen, addInside]

/-- A line of a block is read back inside the block. -/
private theorem addRows_line
    (draft : Draft)
    {opened : OpenBlock}
    (isOpen : draft.openBlock = some opened)
    (nothingWaits : opened.pending = [])
    {line : Line}
    (inside : line.IsReadableInside)
    (number : Nat) :
    draft.addRows number (tokenRows line.arguments line.comments) =
      .ok
        { draft with
          openBlock :=
            some
              (opened.withLines
                [{ line with number := number + line.comments.before.length }]) } := by
  have margin :=
    addRows_margin draft isOpen (by simpa [nothingWaits] using inside.before) number
  rw [nothingWaits, List.nil_append] at margin
  rw [tokenRows, addRows_concat margin, addRow_line _ rfl inside.notEmpty inside.noParenthesis]
  simp [OpenBlock.addLine, OpenBlock.withLines, nothingWaits]

/-- The lines of a block are read back inside the block. -/
private theorem addRows_lines
    (draft : Draft)
    {opened : OpenBlock}
    (isOpen : draft.openBlock = some opened)
    (nothingWaits : opened.pending = [])
    {lines : List Line}
    (readable : ∀ line ∈ lines, line.IsReadableInside)
    (number : Nat) :
    ∃ again,
      again.map Line.unnumbered = lines.map Line.unnumbered ∧
        draft.addRows number
            (lines.flatMap fun line => tokenRows line.arguments line.comments) =
          .ok { draft with openBlock := some (opened.withLines again) } := by
  induction lines generalizing draft opened number with
  | nil => exact ⟨[], rfl, by simp [addRows, OpenBlock.withLines, ← isOpen]⟩
  | cons line following inductionHypothesis =>
      have first := addRows_line draft isOpen nothingWaits (readable line (by simp)) number
      obtain ⟨again, sameLines, rest⟩ :=
        inductionHypothesis
          { draft with openBlock := some (opened.withLines _) } rfl nothingWaits
          (fun other member => readable other (by simp [member]))
          (number + (tokenRows line.arguments line.comments).length)
      refine
        ⟨{ line with number := number + line.comments.before.length } :: again,
          by simp [sameLines, Line.unnumbered], ?_⟩
      rw [List.flatMap_cons, addRows_append first, rest]
      simp [OpenBlock.withLines]

/-- The first rows of a block open it. -/
private theorem addRows_blockStart
    (draft : Draft)
    (closed : draft.openBlock = none)
    {group : Block}
    (readable : group.IsReadable)
    (number : Nat) :
    ∃ opened : OpenBlock,
      opened =
          { block :=
              { verb := group.verb
                number := number + group.comments.before.length
                comments :=
                  { before := draft.pending ++ group.comments.before
                    trailing := group.comments.trailing } }
            blankBefore := draft.blankBefore } ∧
        draft.addRows number (tokenRows [group.verb.word, Token.blockStart] group.comments) =
          .ok { draft with pending := [], blankBefore := false, openBlock := some opened } := by
  refine ⟨_, rfl, ?_⟩
  rw [tokenRows, addRows_concat (addRows_comments draft closed readable.before number),
    addRow_blockStart _ (by exact closed) readable.verb, List.length_map]

/-- The rows of a readable statement are read as the statement. -/
theorem addRows_rows
    {draft : Draft}
    (closed : draft.openBlock = none)
    {content : Content}
    (readable : content.IsReadable)
    (number : Nat) :
    ∃ extended,
      draft.addRows number content.rows = .ok extended ∧
        extended.openBlock = none ∧ extended.unnumbered = (draft.place content).unnumbered := by
  cases content with
  | directive verb line =>
      obtain ⟨lineReadable, before⟩ := readable
      have comments := addRows_comments draft closed before number
      have row := addRow_directive { draft with pending := draft.pending ++ line.comments.before }
        closed verb lineReadable.noParenthesis line.comments.trailing
      refine ⟨_, (addRows_concat comments _).trans (row _), closed, ?_⟩
      simp [unnumbered, place, Content.withLead, Statement.unnumbered, Content.unnumbered,
        Line.unnumbered]
  | block group =>
      obtain ⟨opened, isOpened, start⟩ := addRows_blockStart draft closed readable number
      have nothingWaits : opened.pending = [] := by rw [isOpened]
      obtain ⟨again, sameLines, lines⟩ := addRows_lines
        { draft with pending := [], blankBefore := false, openBlock := some opened }
        rfl nothingWaits readable.lines
        (number + (tokenRows [group.verb.word, Token.blockStart] group.comments).length)
      have body := (addRows_append start _).trans lines
      have margin := addRows_margin
        { draft with
          pending := [], blankBefore := false, openBlock := some (opened.withLines again) }
        rfl (by simpa [OpenBlock.withLines, nothingWaits] using readable.closing)
      have whole := addRows_concat ((addRows_append body _).trans (margin _))
        { tokens := [Token.blockEnd], comment := none }
      refine ⟨_, whole.trans (addRow_blockEnd _ rfl _), rfl, ?_⟩
      simp [unnumbered, place, Content.withLead, Statement.unnumbered, Content.unnumbered,
        Block.unnumbered, OpenBlock.close, OpenBlock.withLines, sameLines, isOpened, closed]
  | remark comments =>
      exact ⟨_, addRows_comments draft closed readable.2 number, closed, rfl⟩

/-- Leaving out numbers leaves them out of the statements of a draft. -/
theorem flushed_unnumbered (draft : Draft) :
    draft.unnumbered.flushed = draft.flushed.map Statement.unnumbered := by
  unfold flushed unnumbered
  dsimp only
  split <;> simp [Statement.unnumbered, Content.unnumbered]

/-- Leaving out numbers leaves them out of a placed statement. -/
private theorem place_unnumbered (draft : Draft) (content : Content) :
    (draft.place content).unnumbered = draft.unnumbered.place content.unnumbered := by
  cases content with
  | remark comments => rfl
  | directive verb line =>
      simp [place, unnumbered, Statement.unnumbered, Content.unnumbered, Content.withLead,
        Line.unnumbered]
  | block group =>
      simp [place, unnumbered, Statement.unnumbered, Content.unnumbered, Content.withLead,
        Block.unnumbered]

private theorem addRemark_unnumbered (draft : Draft) :
    (draft.addRemark none).unnumbered = draft.unnumbered.addRemark none := by
  have flushed := flushed_unnumbered draft
  simp only [addRemark, flushed]
  simp [unnumbered]

/-- Placing a statement does not depend on the numbers of earlier lines. -/
private theorem placeStatement_unnumbered
    (draft : Draft)
    (statement : Statement) :
    (draft.placeStatement statement).unnumbered =
      draft.unnumbered.placeStatement statement.unnumbered := by
  simp only [placeStatement]
  rw [place_unnumbered]
  cases blank : statement.blankBefore with
  | false => simp [Statement.unnumbered, blank]
  | true => simp [Statement.unnumbered, blank, addRemark_unnumbered]

/-- The rows of a readable statement behind others are read as the statement. -/
private theorem addRows_statement
    {draft : Draft}
    (closed : draft.openBlock = none)
    {statement : Statement}
    (readable : statement.content.IsReadable)
    (number : Nat) :
    ∃ extended,
      draft.addRows number statement.rows = .ok extended ∧
        extended.openBlock = none ∧
        extended.unnumbered = (draft.placeStatement statement).unnumbered := by
  simp only [Statement.rows, placeStatement]
  cases statement.blankBefore with
  | false => exact addRows_rows closed readable number
  | true =>
      have blank : draft.addRows number [blankRow] = .ok (draft.addRemark none) := by
        simp [addRows, addRow, closed, addOutside, blankRow]
      have stillClosed : (draft.addRemark none).openBlock = none := closed
      obtain ⟨extended, read, isClosed, same⟩ := addRows_rows stillClosed readable (number + 1)
      exact ⟨extended, (addRows_append blank _).trans read, isClosed, same⟩

/-- Drafts that differ in numbers only are filled alike. -/
private theorem foldl_placeStatement_unnumbered
    (statements : List Statement)
    {first second : Draft}
    (same : first.unnumbered = second.unnumbered) :
    (statements.foldl placeStatement first).unnumbered =
      (statements.foldl placeStatement second).unnumbered := by
  induction statements generalizing first second with
  | nil => exact same
  | cons statement following inductionHypothesis =>
      apply inductionHypothesis
      rw [placeStatement_unnumbered, placeStatement_unnumbered, same]

/-- The rows of readable statements behind others are read as the statements. -/
private theorem addRows_statements
    {draft : Draft}
    (closed : draft.openBlock = none)
    {statements : List Statement}
    (readable : Statement.AreReadable statements)
    (number : Nat) :
    ∃ extended,
      draft.addRows number (statements.flatMap Statement.rows) = .ok extended ∧
        extended.openBlock = none ∧
        extended.unnumbered = (statements.foldl placeStatement draft).unnumbered := by
  induction statements generalizing draft number with
  | nil => exact ⟨draft, rfl, closed, rfl⟩
  | cons statement following inductionHypothesis =>
      obtain ⟨further, read, stillClosed, same⟩ :=
        addRows_statement closed (readable statement (by simp)) number
      obtain ⟨extended, rest, isClosed, sameRest⟩ :=
        inductionHypothesis stillClosed (fun other member => readable other (by simp [member]))
          (number + statement.rows.length)
      refine ⟨extended, (addRows_append read _).trans rest, isClosed, sameRest.trans ?_⟩
      exact foldl_placeStatement_unnumbered following same

end Draft

/-- Readable statements that are printed are read back as the statements that they settle to. -/
theorem Statement.ofText_print
    {statements : List Statement}
    (readable : Statement.AreReadable statements) :
    ∃ again,
      Statement.ofText (Statement.print statements) = .ok again ∧
        again.map Statement.unnumbered =
          (Statement.settled statements).map Statement.unnumbered := by
  rw [Statement.ofText_of_spells (Statement.spells_print readable)]
  cases statements with
  | nil => exact ⟨[], rfl, rfl⟩
  | cons first following =>
      have nothingOpen : ({} : Draft).openBlock = none := rfl
      have othersReadable : AreReadable following :=
        fun other member => readable other (by simp [member])
      obtain ⟨started, readFirst, startedClosed, sameStart⟩ :=
        Draft.addRows_rows nothingOpen (readable first (by simp)) 1
      obtain ⟨extended, readOthers, closed, same⟩ :=
        Draft.addRows_statements startedClosed othersReadable (1 + first.content.rows.length)
      refine ⟨extended.flushed, ?_, ?_⟩
      · rw [printedRows, Draft.addRows_append readFirst, readOthers]
        simp [Draft.finish, closed]
      · rw [settled, ← Draft.flushed_unnumbered, ← Draft.flushed_unnumbered, same,
          Draft.foldl_placeStatement_unnumbered following sameStart]

end ModuleUpdate
