import ModuleUpdate.Proofs.Source.Lexeme
import ModuleUpdate.Source.Move

namespace ModuleUpdate

/-!
# Cursors in an edited source

Edits that replace literals keep the rest of a source.  A cursor in the source therefore has a
counterpart in the edited one, as long as the edits that are still to come start where it stands
or behind it.  A step over a lexeme that no edit touches is a step over the same lexeme there,
and a step over a literal is a step over its replacement.
-/

namespace Text

theorem splitAtByte_zero (text : Text) :
    splitAtByte 0 text = ([], text) := by
  cases text <;> rfl

/-- Behind as many bytes as a front has, a text is cut in what follows the front. -/
theorem splitAtByte_append_of_le
    {offset : Nat}
    {front : Text}
    (reaches : byteLength front ≤ offset)
    (rest : Text) :
    splitAtByte offset (front ++ rest) =
      (front ++ (splitAtByte (offset - byteLength front) rest).1,
        (splitAtByte (offset - byteLength front) rest).2) := by
  induction front generalizing offset with
  | nil => rfl
  | cons character following inductionHypothesis =>
      have someBytes := character.utf8Size_pos
      rw [byteLength] at reaches
      have isInside : offset ≠ 0 := by omega
      have within : byteLength following ≤ offset - character.utf8Size := by omega
      have left :
          offset - character.utf8Size - byteLength following =
            offset - (character.utf8Size + byteLength following) := by
        omega
      rw [List.cons_append, splitAtByte, if_neg isInside, inductionHypothesis within, left,
        byteLength]
      rfl

/-- A text is cut behind a front by its number of bytes. -/
theorem splitAtByte_byteLength (front rest : Text) :
    splitAtByte (byteLength front) (front ++ rest) = (front, rest) := by
  rw [splitAtByte_append_of_le (Nat.le_refl _), Nat.sub_self, splitAtByte_zero, List.append_nil]

end Text

namespace Source

/-- A text in front of the first edit is kept. -/
theorem applyEdits_append
    {offset : Nat}
    {edits : List Edit}
    {front : Text}
    (ahead : ∀ edit, edits.head? = some edit → offset + Text.byteLength front ≤ edit.start)
    (rest : Text) :
    applyEdits offset edits (front ++ rest) =
      front ++ applyEdits (offset + Text.byteLength front) edits rest := by
  cases edits with
  | nil => rfl
  | cons edit following =>
      have start := ahead edit rfl
      have reaches : Text.byteLength front ≤ edit.start - offset := by omega
      have left :
          edit.start - offset - Text.byteLength front =
            edit.start - (offset + Text.byteLength front) := by
        omega
      simp only [applyEdits, Text.splitAtByte_append_of_le reaches, left, List.append_assoc]

/-- An edit replaces the text that it spans. -/
theorem applyEdits_cons
    (offset : Nat)
    (front spelling replacement rest : Text)
    (following : List Edit) :
    let start := offset + Text.byteLength front
    let stop := start + Text.byteLength spelling
    applyEdits offset ({ start, stop, replacement } :: following) (front ++ spelling ++ rest) =
      front ++ replacement ++ applyEdits stop following rest := by
  intro start stop
  have before : start - offset = Text.byteLength front := by omega
  have spanned : stop - start = Text.byteLength spelling := by omega
  simp only [applyEdits, before, spanned, List.append_assoc, Text.splitAtByte_byteLength]

/-- The edit that writes another value in the place of a literal. -/
def Lexeme.rewriting (lexeme : Lexeme) (quote : Quote) (value : Text) : Edit :=
  { start := lexeme.start, stop := lexeme.stop, replacement := quote.literal value }

/-- Two texts are passed by passing both at once. -/
theorem Position.past_past (position : Position) (front rest : Text) :
    (position.past front).past rest = position.past (front ++ rest) := by
  simp only [past, Text.byteLength_append, List.count_append, Nat.add_assoc]

namespace Cursor

/-- A lexeme with its spelling stands behind trivia, and another cursor behind the lexeme. -/
structure Spans
    (cursor : Cursor)
    (trivia spelling : Text)
    (lexeme : Lexeme)
    (behind : Cursor) :
    Prop where
  text : cursor.text = trivia ++ spelling ++ behind.text
  start : lexeme.start = cursor.position.offset + Text.byteLength trivia
  stop : lexeme.stop = lexeme.start + Text.byteLength spelling
  line : lexeme.line = (cursor.position.past trivia).line
  position : behind.position = cursor.position.past (trivia ++ spelling)

/-- The end of a lexeme is where the cursor behind it stands. -/
theorem Spans.offset
    {cursor behind : Cursor}
    {trivia spelling : Text}
    {lexeme : Lexeme}
    (spans : cursor.Spans trivia spelling lexeme behind) :
    behind.position.offset = lexeme.stop := by
  rw [spans.position, spans.stop, spans.start, ← Position.past_past]
  rfl

/-- A step over a lexeme goes over trivia and the spelling of the lexeme. -/
theorem next_eq_lexeme
    {cursor behind : Cursor}
    {lexeme : Lexeme}
    (step : cursor.next = .lexeme lexeme behind) :
    ∃ trivia character rest spelling,
      skipTrivia cursor.text = .clear trivia (character :: rest) ∧
        readLexeme character rest = .lexeme lexeme.kind spelling behind.text ∧
        cursor.Spans trivia spelling lexeme behind := by
  simp only [next] at step
  split at step
  · cases step
  · cases step
  · next trivia character rest skipped =>
      split at step
      · cases step
      · next kind spelling left read =>
          cases step
          have whole : cursor.text = trivia ++ spelling ++ left := by
            rw [List.append_assoc, readLexeme_append read, skipTrivia_append skipped]
          exact
            ⟨trivia, character, rest, spelling, skipped, read, whole, rfl, rfl, rfl,
              Position.past_past _ _ _⟩

/-- What stands behind trivia is stepped over. -/
theorem next_of_readLexeme
    {cursor : Cursor}
    {trivia rest spelling left : Text}
    {character : Char}
    {kind : Kind}
    (skipped : skipTrivia cursor.text = .clear trivia (character :: rest))
    (read : readLexeme character rest = .lexeme kind spelling left) :
    ∃ lexeme behind,
      cursor.next = .lexeme lexeme behind ∧
        lexeme.kind = kind ∧ behind.text = left ∧ cursor.Spans trivia spelling lexeme behind := by
  have step :
      cursor.next =
        .lexeme
          { kind
            start := (cursor.position.past trivia).offset
            stop := ((cursor.position.past trivia).past spelling).offset
            line := (cursor.position.past trivia).line }
          { position := (cursor.position.past trivia).past spelling, text := left } := by
    simp only [next, skipped, read]
  have whole : cursor.text = trivia ++ spelling ++ left := by
    rw [List.append_assoc, readLexeme_append read, skipTrivia_append skipped]
  exact ⟨_, _, step, rfl, rfl, whole, rfl, rfl, rfl, Position.past_past _ _ _⟩

/-- A lexeme that cannot be read is told of with its line. -/
theorem next_of_fault
    {cursor : Cursor}
    {trivia rest : Text}
    {character : Char}
    {fault : ScanFault}
    (skipped : skipTrivia cursor.text = .clear trivia (character :: rest))
    (read : readLexeme character rest = .fault fault) :
    cursor.next = .broken { line := (cursor.position.past trivia).line, fault } := by
  simp only [next, skipped, read]

/-- The text from a cursor on with edits behind it carried out. -/
def edited (cursor : Cursor) (edits : List Edit) : Text :=
  applyEdits cursor.position.offset edits cursor.text

/-- Edits that start at a cursor or behind it and keep the character that stands there. -/
structure Awaits (cursor : Cursor) (edits : List Edit) : Prop where
  ahead : ∀ edit, edits.head? = some edit → cursor.position.offset ≤ edit.start
  sameHead : (cursor.edited edits).head? = cursor.text.head?

/-- The counterpart of a cursor in the edited source stands on the same line. -/
structure IsAt (cursor : Cursor) (edits : List Edit) (other : Cursor) : Prop where
  text : other.text = cursor.edited edits
  line : other.position.line = cursor.position.line

theorem awaits_nil (cursor : Cursor) : cursor.Awaits [] where
  ahead := fun _ isFirst => nomatch isFirst
  sameHead := rfl

/-- What stands between a cursor and one in front of the edits is kept. -/
theorem edited_of_past
    {cursor behind : Cursor}
    {front : Text}
    {edits : List Edit}
    (whole : cursor.text = front ++ behind.text)
    (position : behind.position = cursor.position.past front)
    (awaits : behind.Awaits edits) :
    cursor.edited edits = front ++ behind.edited edits := by
  have place : behind.position.offset = cursor.position.offset + Text.byteLength front := by
    rw [position]
    rfl
  have ahead := awaits.ahead
  rw [place] at ahead
  rw [edited, edited, whole, place]
  exact applyEdits_append ahead behind.text

section UntouchedLexeme

variable {cursor behind : Cursor} {lexeme : Lexeme} {edits : List Edit}

/-- Edits behind a lexeme are behind its start. -/
theorem awaits_of_next
    (step : cursor.next = .lexeme lexeme behind)
    (awaits : behind.Awaits edits) :
    cursor.Awaits edits := by
  obtain ⟨trivia, character, rest, spelling, _, read, spans⟩ := next_eq_lexeme step
  constructor
  · intro edit isFirst
    have start := awaits.ahead edit isFirst
    rw [spans.position] at start
    exact Nat.le_trans (Nat.le_add_right _ _) start
  · have someFront : trivia ++ spelling ≠ [] := by
      simp [readLexeme_spelling_ne_nil read]
    obtain ⟨first, others, front⟩ := List.exists_cons_of_ne_nil someFront
    rw [edited_of_past spans.text spans.position awaits, spans.text, front]
    rfl

/-- A lexeme that no edit touches stands in the edited source as well, spelled as it is. -/
theorem next_of_isAt
    (step : cursor.next = .lexeme lexeme behind)
    (awaits : behind.Awaits edits)
    {other : Cursor}
    (isAt : cursor.IsAt edits other) :
    ∃ shown following trivia spelling,
      other.next = .lexeme shown following ∧
        shown.kind = lexeme.kind ∧
        shown.line = lexeme.line ∧
        behind.IsAt edits following ∧
        cursor.Spans trivia spelling lexeme behind ∧
        other.Spans trivia spelling shown following := by
  obtain ⟨trivia, character, rest, spelling, skipped, read, spans⟩ := next_eq_lexeme step
  obtain ⟨others, split, readAgain⟩ := readLexeme_behind read awaits.sameHead
  have sameHead : others.head? = rest.head? := by
    have original := readLexeme_append read
    obtain ⟨first, later, rfl⟩ :=
      List.exists_cons_of_ne_nil (readLexeme_spelling_ne_nil read)
    rw [List.cons_append, List.cons.injEq] at original split
    rw [← original.2, ← split.2]
    cases later with
    | nil => exact awaits.sameHead
    | cons => rfl
  have skippedAgain : skipTrivia other.text = .clear trivia (character :: others) := by
    rw [isAt.text, edited_of_past spans.text spans.position awaits, List.append_assoc, split]
    exact skipTrivia_behind skipped fun _ => sameHead
  obtain ⟨shown, following, shows, kind, text, spansThere⟩ :=
    next_of_readLexeme skippedAgain readAgain
  refine ⟨shown, following, trivia, spelling, shows, kind, ?_, ⟨text, ?_⟩, spans, spansThere⟩
  · simp only [spansThere.line, spans.line, Position.past, isAt.line]
  · simp only [spansThere.position, spans.position, Position.past, isAt.line]

end UntouchedLexeme

section EditedLiteral

variable
  {cursor behind : Cursor}
  {lexeme : Lexeme}
  {quote : Quote}
  {value : Text}

/-- A literal is edited where it stands, with the same text in front of it. -/
theorem edited_rewriting
    (step : cursor.next = .lexeme lexeme behind)
    (isLiteral : lexeme.kind = .literal quote value)
    (changed : Text)
    (following : List Edit) :
    ∃ trivia rest spelling,
      skipTrivia cursor.text = .clear trivia (quote.mark :: rest) ∧
        readLexeme quote.mark rest = .lexeme (.literal quote value) spelling behind.text ∧
        cursor.Spans trivia spelling lexeme behind ∧
        cursor.edited (lexeme.rewriting quote changed :: following) =
          trivia ++ (quote.literal changed ++ behind.edited following) := by
  obtain ⟨trivia, character, rest, spelling, skipped, read, spans⟩ := next_eq_lexeme step
  rw [isLiteral] at read
  obtain ⟨rfl, _⟩ := of_readLexeme_literal read
  refine ⟨trivia, rest, spelling, skipped, read, spans, ?_⟩
  have replaced :=
    applyEdits_cons cursor.position.offset trivia spelling (quote.literal changed) behind.text
      following
  rw [edited, spans.text, Lexeme.rewriting, spans.stop, spans.start, edited, spans.offset,
    spans.stop, spans.start, ← List.append_assoc]
  exact replaced

private theorem mark_ne_slash (quote : Quote) :
    quote.mark ≠ '/' := by
  cases quote <;> decide

private theorem head?_literal_append (quote : Quote) (value rest : Text) :
    (quote.literal value ++ rest).head? = some quote.mark := by
  cases quote <;> rfl

/-- Edits behind a literal, and one of the literal itself, are behind its start. -/
theorem awaits_of_rewriting
    (step : cursor.next = .lexeme lexeme behind)
    (isLiteral : lexeme.kind = .literal quote value)
    (changed : Text)
    (following : List Edit) :
    cursor.Awaits (lexeme.rewriting quote changed :: following) := by
  obtain ⟨trivia, rest, spelling, skipped, _, spans, replaced⟩ :=
    edited_rewriting step isLiteral changed following
  constructor
  · intro edit isFirst
    cases isFirst
    exact Nat.le.intro spans.start.symm
  · rw [replaced, ← skipTrivia_append skipped]
    cases trivia with
    | nil => exact head?_literal_append quote changed _
    | cons => rfl

/-- A rewritten literal has as many line feeds as the one that was read. -/
private theorem count_literal
    {rest spelling left changed : Text}
    (read : readLexeme quote.mark rest = .lexeme (.literal quote value) spelling left)
    (spelled : quote.Spells changed)
    (sameLines : changed.count '\n' = value.count '\n') :
    (quote.literal changed).count '\n' = spelling.count '\n' := by
  obtain ⟨_, origin⟩ := of_readLexeme_literal read
  cases quote with
  | interpreted =>
      have written : '\n' ∉ Quote.literal .interpreted changed := by
        have escaped := Text.lineFeed_not_mem_escape spelled
        simp [Quote.literal, Text.quoted, escaped]
      have noneInValue : value.count '\n' = 0 := by
        rw [← sameLines]
        exact List.count_eq_zero.mpr spelled
      have noneInSpelling := origin (List.count_eq_zero.mp noneInValue)
      rw [List.count_eq_zero.mpr written, List.count_eq_zero.mpr noneInSpelling]
  | raw =>
      obtain ⟨_, rfl⟩ := origin
      simp [Quote.literal, List.count_append, List.count_cons, sameLines]

/-- A raw literal has no mark in its value. -/
theorem mark_not_mem_of_next
    (step : cursor.next = .lexeme lexeme behind)
    (isLiteral : lexeme.kind = .literal .raw value) :
    Quote.mark .raw ∉ value := by
  obtain ⟨_, _, _, _, _, read, _⟩ := next_eq_lexeme step
  rw [isLiteral] at read
  exact (of_readLexeme_literal read).2.1

/-- A rewritten literal is read with its new value, in front of the rest of the edited source. -/
theorem next_of_spelled
    (step : cursor.next = .lexeme lexeme behind)
    (isLiteral : lexeme.kind = .literal quote value)
    {changed : Text}
    {following : List Edit}
    {other : Cursor}
    (text : other.text = cursor.edited (lexeme.rewriting quote changed :: following))
    (spelled : quote.Spells changed) :
    ∃ shown left trivia rest spelling,
      other.next = .lexeme shown left ∧
        shown.kind = .literal quote changed ∧
        left.text = behind.edited following ∧
        readLexeme quote.mark rest = .lexeme (.literal quote value) spelling behind.text ∧
        cursor.Spans trivia spelling lexeme behind ∧
        other.Spans trivia (quote.literal changed) shown left := by
  obtain ⟨trivia, rest, spelling, skipped, read, spans, replaced⟩ :=
    edited_rewriting step isLiteral changed following
  obtain ⟨others, split, readAgain⟩ :=
    readLexeme_literal spelled (behind.edited following)
  have skippedAgain : skipTrivia other.text = .clear trivia (quote.mark :: others) := by
    rw [text, replaced, split]
    exact skipTrivia_behind skipped fun isSlash => absurd isSlash (mark_ne_slash quote)
  obtain ⟨shown, left, shows, kind, textThere, spansThere⟩ :=
    next_of_readLexeme skippedAgain readAgain
  exact ⟨shown, left, trivia, rest, spelling, shows, kind, textThere, read, spans, spansThere⟩

/-- A rewritten literal with as many line feeds leaves the lines behind it as they are. -/
theorem next_of_rewriting
    (step : cursor.next = .lexeme lexeme behind)
    (isLiteral : lexeme.kind = .literal quote value)
    {changed : Text}
    {following : List Edit}
    {other : Cursor}
    (isAt : cursor.IsAt (lexeme.rewriting quote changed :: following) other)
    (spelled : quote.Spells changed)
    (sameLines : changed.count '\n' = value.count '\n') :
    ∃ shown left trivia spelling,
      other.next = .lexeme shown left ∧
        shown.kind = .literal quote changed ∧
        shown.line = lexeme.line ∧
        behind.IsAt following left ∧
        cursor.Spans trivia spelling lexeme behind ∧
        other.Spans trivia (quote.literal changed) shown left := by
  obtain ⟨shown, left, trivia, rest, spelling, shows, kind, text, read, spans, spansThere⟩ :=
    next_of_spelled step isLiteral isAt.text spelled
  refine ⟨shown, left, trivia, spelling, shows, kind, ?_, ⟨text, ?_⟩, spans, spansThere⟩
  · simp only [spansThere.line, spans.line, Position.past, isAt.line]
  · simp only [spansThere.position, spans.position, Position.past, isAt.line, List.count_append,
      count_literal read spelled sameLines]

/-- An interpreted literal cannot be rewritten with a line feed. -/
theorem next_of_rewriting_of_lineFeed
    (step : cursor.next = .lexeme lexeme behind)
    (isLiteral : lexeme.kind = .literal .interpreted value)
    {changed : Text}
    {following : List Edit}
    {other : Cursor}
    (isAt : cursor.IsAt (lexeme.rewriting .interpreted changed :: following) other)
    (hasLineFeed : '\n' ∈ changed) :
    ∃ error, other.next = .broken error := by
  obtain ⟨trivia, rest, spelling, skipped, _, _, replaced⟩ :=
    edited_rewriting step isLiteral changed following
  obtain ⟨others, split, readAgain⟩ :=
    readLexeme_literal_of_lineFeed hasLineFeed (behind.edited following)
  have skippedAgain :
      skipTrivia other.text = .clear trivia (Quote.mark .interpreted :: others) := by
    rw [isAt.text, replaced, split]
    exact skipTrivia_behind skipped fun isSlash => absurd isSlash (mark_ne_slash .interpreted)
  exact ⟨_, next_of_fault skippedAgain readAgain⟩

end EditedLiteral

end Cursor

end Source

end ModuleUpdate
