import ModuleUpdate.Proofs.Source.Header

namespace ModuleUpdate

/-!
# A move changes the source

A source in which an import moves does not stay as it is, whatever the two module paths are.  The
first literal that is replaced reads otherwise than its replacement.  Only where the new path holds
a raw mark may the replacement of a raw literal start as the literal does, and then the replaced
literals together hold more of these marks than before.
-/

namespace Text

/-- Resolving escapes keeps every raw mark. -/
theorem count_mark_unescape (text : Text) :
    (unescape text).count (Quote.mark .raw) = text.count (Quote.mark .raw) := by
  fun_induction unescape text with
  | case1 => rfl
  | case2 rest inductionHypothesis => simpa [Quote.mark] using inductionHypothesis
  | case3 rest inductionHypothesis => simpa [Quote.mark] using inductionHypothesis
  | case4 character rest _ _ inductionHypothesis =>
      simp [List.count_cons, Quote.mark] at inductionHypothesis ⊢
      omega
  | case5 => rfl
  | case6 character rest _ _ _ _ inductionHypothesis =>
      simp only [List.count_cons, inductionHypothesis]

/-- A quoted text holds the raw marks of the text. -/
theorem count_mark_quoted (text : Text) :
    (quoted text).count (Quote.mark .raw) = text.count (Quote.mark .raw) := by
  have unescaped := count_mark_unescape (escape text)
  rw [unescape_escape] at unescaped
  simp [quoted, Quote.mark, List.count_append] at unescaped ⊢
  omega

end Text

namespace Source

/-- A literal has the raw marks of its value and those of its style. -/
theorem count_mark_literal (quote : Quote) (value : Text) :
    (quote.literal value).count (Quote.mark .raw) =
      value.count (Quote.mark .raw) + (quote.literal []).count (Quote.mark .raw) := by
  cases quote with
  | interpreted => exact Text.count_mark_quoted value
  | raw => simp [Quote.literal, List.count_append, Nat.add_assoc]

/-- A literal that was read has the raw marks with which its value is written. -/
theorem count_mark_of_readLexeme
    {character : Char}
    {rest spelling behind : Text}
    {quote : Quote}
    {value : Text}
    (read : readLexeme character rest = .lexeme (.literal quote value) spelling behind) :
    spelling.count (Quote.mark .raw) = (quote.literal value).count (Quote.mark .raw) := by
  simp only [readLexeme] at read
  split at read
  · cases read
  · split at read
    · next isMark =>
        split at read
        · next inside _ found =>
            cases read
            have unescaped := Text.count_mark_unescape inside
            rw [count_mark_literal, unescaped, isMark]
            simp [Quote.literal, Text.quoted, Text.escape, Quote.mark, List.count_append]
        · cases read
    · split at read
      · next isMark =>
          split at read
          · next found =>
              cases read
              rw [isMark]
              rfl
          · cases read
      · cases read

/-- A literal reads otherwise than the replacement with another value, if that can be spelled. -/
theorem literal_append_ne
    {rest spelling behind value changed : Text}
    {quote : Quote}
    (read : readLexeme quote.mark rest = .lexeme (.literal quote value) spelling behind)
    (isChanged : changed ≠ value)
    (spelled : quote = .raw → quote.Spells changed)
    (left : Text) :
    quote.literal changed ++ left ≠ spelling ++ behind := by
  intro same
  rw [readLexeme_append read] at same
  by_cases isSpelled : quote.Spells changed
  · obtain ⟨others, split, readAgain⟩ := readLexeme_literal isSpelled left
    obtain rfl : others = rest := by
      simpa using split.symm.trans same
    rw [read] at readAgain
    cases readAgain
    exact isChanged rfl
  · cases quote with
    | raw => exact isSpelled (spelled rfl)
    | interpreted =>
        obtain ⟨others, split, refused⟩ :=
          readLexeme_literal_of_lineFeed (not_not.mp isSpelled) left
        obtain rfl : others = rest := by
          simpa using split.symm.trans same
        rw [read] at refused
        cases refused

namespace Cursor

/-- Imports whose literals are met, in order, on the way from a cursor to another. -/
inductive Meets : Cursor → List Import → Cursor → Prop where
  | refl (cursor : Cursor) : Meets cursor [] cursor
  | lexeme
      {cursor behind last : Cursor}
      {lexeme : Lexeme}
      {specs : List Import}
      (step : cursor.next = .lexeme lexeme behind)
      (others : Meets behind specs last) :
      Meets cursor specs last
  | literal
      {cursor behind last : Cursor}
      {lexeme : Lexeme}
      {spec : Import}
      {specs : List Import}
      (step : cursor.next = .lexeme lexeme behind)
      (isLiteral : lexeme.kind = .literal spec.quote spec.path)
      (start : spec.start = lexeme.start)
      (stop : spec.stop = lexeme.stop)
      (line : spec.line = lexeme.line)
      (others : Meets behind specs last) :
      Meets cursor (spec :: specs) last

/-- Imports that are met one after the other are met together. -/
theorem Meets.trans
    {cursor behind last : Cursor}
    {specs others : List Import}
    (first : Meets cursor specs behind)
    (second : Meets behind others last) :
    Meets cursor (specs ++ others) last := by
  induction first with
  | refl cursor => exact second
  | lexeme step _ inductionHypothesis => exact .lexeme step (inductionHypothesis second)
  | literal step isLiteral start stop line _ inductionHypothesis =>
      exact .literal step isLiteral start stop line (inductionHypothesis second)

section Readers

variable {cursor behind : Cursor} {spec : Import} {specs : List Import}

/-- A path that is read is that of an import that is met. -/
theorem meets_of_readPath
    {localName : Option Text}
    (read : cursor.readPath localName = .ok (spec, behind)) :
    Meets cursor [spec] behind := by
  obtain ⟨lexeme, step, isLiteral, origin⟩ := readPath_eq_ok read
  refine .literal step isLiteral ?_ ?_ ?_ (.refl behind)
  · rw [origin]
  · rw [origin]
  · rw [origin]

/-- An import that is read is met. -/
theorem meets_of_readImport
    (read : cursor.readImport = .ok (spec, behind)) :
    Meets cursor [spec] behind := by
  rcases readImport_eq_ok read with ⟨lexeme, left, name, step, _, readPath⟩ | readPath
  · exact .lexeme step (meets_of_readPath readPath)
  · exact meets_of_readPath readPath

theorem meets_pastSemicolons (cursor : Cursor) :
    Meets cursor [] cursor.pastSemicolons := by
  fun_induction pastSemicolons cursor with
  | case1 cursor lexeme behind step _ inductionHypothesis => exact .lexeme step inductionHypothesis
  | case2 cursor => exact .refl cursor
  | case3 cursor => exact .refl cursor
  | case4 cursor => exact .refl cursor

/-- The imports of a group that is read are met in order. -/
theorem meets_of_readGroup
    (read : cursor.readGroup = .ok (specs, behind)) :
    Meets cursor specs behind := by
  fun_induction readGroup cursor generalizing specs with
  | case1 => cases read
  | case2 => cases read
  | case3 cursor lexeme left step _ =>
      cases read
      exact (meets_pastSemicolons cursor).trans (.lexeme step (.refl _))
  | case4 => cases read
  | case5 => cases read
  | case6 cursor _ _ _ _ spec following found specs left rest inductionHypothesis =>
      cases read
      have first := (meets_pastSemicolons cursor).trans (meets_of_readImport found)
      exact first.trans (inductionHypothesis rest)

/-- The imports of a declaration that is read are met in order. -/
theorem meets_of_readDeclaration
    (read : cursor.readDeclaration = .ok (specs, behind)) :
    Meets cursor specs behind := by
  rcases readDeclaration_eq_ok read with ⟨lexeme, inside, step, _, readGroup⟩ | ⟨spec, rfl, found⟩
  · exact .lexeme step (meets_of_readGroup readGroup)
  · exact meets_of_readImport found

/-- All imports that are read are met in order. -/
theorem exists_meets_of_readImports
    (read : cursor.readImports = .ok specs) :
    ∃ last, Meets cursor specs last := by
  fun_induction readImports cursor generalizing specs with
  | case1 => cases read
  | case2 cursor =>
      cases read
      exact ⟨cursor, .refl cursor⟩
  | case3 => cases read
  | case4 => cases read
  | case5 cursor lexeme behind step _ specs following declared others rest inductionHypothesis =>
      cases read
      obtain ⟨last, meetsOthers⟩ := inductionHypothesis rest
      have first := (meets_pastSemicolons cursor).trans (.lexeme step (.refl _))
      exact ⟨last, first.trans ((meets_of_readDeclaration declared).trans meetsOthers)⟩
  | case6 cursor =>
      cases read
      exact ⟨cursor, .refl cursor⟩

end Readers

/-- The imports of a header are met on the way through its source. -/
theorem exists_meets_of_ofText
    {text : Text}
    {header : Header}
    (read : Header.ofText text = .ok header) :
    ∃ last, Meets (Cursor.ofText text) header.imports last := by
  obtain ⟨cursor, clause, declared⟩ := Header.ofText_eq_ok read
  obtain ⟨first, left, second, step, _, named, _⟩ := readPackage_eq_ok clause
  obtain ⟨last, meets⟩ := exists_meets_of_readImports declared
  exact ⟨last, .lexeme step (.lexeme named meets)⟩

section Edits

variable {old new : Text} {cursor behind last : Cursor} {specs : List Import}

/-- What a step passes over stands in front of what is left, in the edited source as well. -/
private theorem edited_of_next
    {lexeme : Lexeme}
    {edits : List Edit}
    (step : cursor.next = .lexeme lexeme behind)
    (awaits : behind.Awaits edits) :
    ∃ front,
      cursor.text = front ++ behind.text ∧ cursor.edited edits = front ++ behind.edited edits := by
  obtain ⟨trivia, _, _, spelling, _, _, spans⟩ := next_eq_lexeme step
  exact ⟨trivia ++ spelling, spans.text, edited_of_past spans.text spans.position awaits⟩

private theorem editsOf_literal
    {lexeme : Lexeme}
    {spec : Import}
    (start : spec.start = lexeme.start)
    (stop : spec.stop = lexeme.stop)
    (specs : List Import) :
    editsOf old new (spec :: specs) =
      ((ModulePath.move? spec.path old new).map (lexeme.rewriting spec.quote)).toList ++
        editsOf old new specs := by
  rw [editsOf_cons, Import.edit?, start, stop]
  rfl

/-- In front of imports that are met, their edits are still to come. -/
theorem Meets.awaits
    (meets : Meets cursor specs last) :
    cursor.Awaits (editsOf old new specs) := by
  induction meets with
  | refl cursor => exact cursor.awaits_nil
  | lexeme step _ inductionHypothesis => exact awaits_of_next step inductionHypothesis
  | @literal _ _ _ _ spec _ step isLiteral start stop _ _ inductionHypothesis =>
      rw [editsOf_literal start stop]
      cases ModulePath.move? spec.path old new with
      | none => exact awaits_of_next step inductionHypothesis
      | some moved => exact awaits_of_rewriting step isLiteral moved _

/-- Where the new module brings raw marks in, every edit adds one. -/
private theorem count_mark_edited
    (meets : Meets cursor specs last)
    (noneBefore : Quote.mark .raw ∉ old)
    (someAfter : Quote.mark .raw ∈ new) :
    cursor.text.count (Quote.mark .raw) + (editsOf old new specs).length ≤
      (cursor.edited (editsOf old new specs)).count (Quote.mark .raw) := by
  induction meets with
  | refl cursor => exact Nat.le_refl _
  | lexeme step others inductionHypothesis =>
      obtain ⟨front, text, edited⟩ := edited_of_next step others.awaits
      rw [text, edited, List.count_append, List.count_append]
      omega
  | @literal cursor behind _ lexeme spec specs step isLiteral start stop _ others
      inductionHypothesis =>
      rw [editsOf_literal start stop]
      cases isMoved : ModulePath.move? spec.path old new with
      | none =>
          obtain ⟨front, text, edited⟩ := edited_of_next step others.awaits
          simp only [Option.map_none, Option.toList_none, List.nil_append]
          rw [text, edited, List.count_append, List.count_append]
          omega
      | some moved =>
          obtain ⟨trivia, rest, spelling, _, read, spans, edited⟩ :=
            edited_rewriting step isLiteral moved (editsOf old new specs)
          have marks := count_mark_of_readLexeme read
          rw [count_mark_literal] at marks
          have marksThere := count_mark_literal spec.quote moved
          obtain ⟨ending, path, rfl⟩ := ModulePath.exists_of_move? isMoved
          rw [path, List.count_append, List.count_eq_zero.mpr noneBefore] at marks
          rw [List.count_append] at marksThere
          have someMark := List.count_pos_iff.mpr someAfter
          simp only [Option.map_some, Option.toList_some, List.singleton_append, List.length_cons]
          rw [edited, spans.text]
          simp only [List.count_append]
          omega

/-- Where the new module brings no raw marks in, the first literal that is replaced differs. -/
private theorem edited_ne_of_marks
    (meets : Meets cursor specs last)
    (marks : Quote.mark .raw ∈ new → Quote.mark .raw ∈ old)
    (someMoves : editsOf old new specs ≠ []) :
    cursor.edited (editsOf old new specs) ≠ cursor.text := by
  induction meets with
  | refl cursor => exact absurd rfl someMoves
  | lexeme step others inductionHypothesis =>
      obtain ⟨front, text, edited⟩ := edited_of_next step others.awaits
      rw [text, edited]
      exact fun same => inductionHypothesis someMoves (List.append_cancel_left same)
  | @literal cursor behind _ lexeme spec specs step isLiteral start stop _ others
      inductionHypothesis =>
      rw [editsOf_literal start stop] at someMoves ⊢
      cases isMoved : ModulePath.move? spec.path old new with
      | none =>
          rw [isMoved] at someMoves
          obtain ⟨front, text, edited⟩ := edited_of_next step others.awaits
          simp only [Option.map_none, Option.toList_none, List.nil_append]
          rw [text, edited]
          exact fun same => inductionHypothesis someMoves (List.append_cancel_left same)
      | some moved =>
          obtain ⟨trivia, rest, spelling, _, read, spans, edited⟩ :=
            edited_rewriting step isLiteral moved (editsOf old new specs)
          have isChanged : moved ≠ spec.path := by
            rintro rfl
            rw [ModulePath.move?_eq_none_of_move? isMoved] at isMoved
            cases isMoved
          have spelled : spec.quote = .raw → spec.quote.Spells moved := by
            intro isRaw
            rw [isRaw] at read ⊢
            have noMark := (of_readLexeme_literal read).2.1
            obtain ⟨ending, path, rfl⟩ := ModulePath.exists_of_move? isMoved
            rw [path, List.mem_append, not_or] at noMark
            show Quote.mark .raw ∉ new ++ ending
            rw [List.mem_append, not_or]
            exact ⟨fun inNew => noMark.1 (marks inNew), noMark.2⟩
          simp only [Option.map_some, Option.toList_some, List.singleton_append]
          rw [edited, spans.text, List.append_assoc]
          exact fun same =>
            literal_append_ne read isChanged spelled _ (List.append_cancel_left same)

/-- A source in which an import moves is changed by the edits. -/
theorem Meets.edited_ne
    (meets : Meets cursor specs last)
    (someMoves : editsOf old new specs ≠ []) :
    cursor.edited (editsOf old new specs) ≠ cursor.text := by
  by_cases marks : Quote.mark .raw ∈ new → Quote.mark .raw ∈ old
  · exact edited_ne_of_marks meets marks someMoves
  · obtain ⟨someAfter, noneBefore⟩ := Classical.not_imp.mp marks
    have more := count_mark_edited meets noneBefore someAfter
    have someEdit := List.length_pos_iff.mpr someMoves
    intro same
    rw [same] at more
    omega

end Edits

end Cursor

/-- Moving the imports of a source, where any moves, gives another text. -/
theorem ne_of_moveImports?
    {text old new moved : Text}
    {header : Header}
    (read : Header.ofText text = .ok header)
    (isMoved : moveImports? text header old new = some moved) :
    moved ≠ text := by
  obtain ⟨last, meets⟩ := Cursor.exists_meets_of_ofText read
  have someMoves : editsOf old new header.imports ≠ [] := by
    intro noMoves
    have noEdits : header.edits old new = [] := noMoves
    simp only [moveImports?, noEdits] at isMoved
    cases isMoved
  have edited : moved = applyEdits 0 (header.edits old new) text := by
    rw [← moveImports?_getD, isMoved, Option.getD_some]
  have awaits : (Cursor.ofText text).Awaits (header.edits old new) := meets.awaits
  obtain ⟨isAt, front, isBehind, isBehindThere⟩ := Cursor.ofText_isAt awaits
  have whole := isBehindThere.text
  rw [isAt.text] at whole
  intro same
  rw [edited, whole] at same
  exact meets.edited_ne someMoves (List.append_cancel_left (same.trans isBehind.text))

end Source

end ModuleUpdate
