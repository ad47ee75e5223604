import ModuleUpdate.Proofs.Source.Changes

namespace ModuleUpdate

/-!
# Where imports stand

Each import of a header stands in its source where it says: its span holds a literal in its style
that is read as its path, its line counts the line feeds in front of that, and the spans follow one
another.  Every step over a lexeme keeps the place of the cursor true to the text that was passed
over, from which all of this is read off at the literals.
-/

/-- A literal as it stands in a source: what is inside it, between two marks. -/
def Quote.enclose (quote : Quote) (inside : Text) : Text :=
  quote.mark :: (inside ++ [quote.mark])

namespace Source

/-- A literal that was read stands between two marks and is read alike in front of any text. -/
theorem exists_enclose_of_readLexeme
    {character : Char}
    {rest spelling behind : Text}
    {quote : Quote}
    {value : Text}
    (read : readLexeme character rest = .lexeme (.literal quote value) spelling behind) :
    ∃ inside,
      spelling = quote.enclose inside ∧
        ∀ other,
          readLexeme quote.mark (inside ++ quote.mark :: other) =
            .lexeme (.literal quote value) (quote.enclose inside) other := by
  obtain ⟨rfl, origin⟩ := of_readLexeme_literal read
  cases quote with
  | interpreted =>
      have notWord : ¬startsWord (Quote.mark .interpreted) = true := by decide
      rw [readLexeme, if_neg notWord, if_pos rfl] at read
      split at read
      · next inside _ found =>
          cases read
          exact ⟨inside, rfl, readLexeme_of_isInside (isInside_of_readInterpreted? found)⟩
      · cases read
  | raw =>
      obtain ⟨markless, rfl⟩ := origin
      refine ⟨value, rfl, fun other => ?_⟩
      have spelled : Quote.Spells .raw value := markless
      obtain ⟨others, whole, readAgain⟩ := readLexeme_literal spelled other
      obtain rfl : others = value ++ Quote.mark .raw :: other := by
        simpa [Quote.literal] using whole.symm
      exact readAgain

/-- An import stands behind a text with its literal, and the literal is read as its path. -/
structure Import.StandsBehind (spec : Import) (before inside : Text) : Prop where
  start : spec.start = Text.byteLength before
  stop : spec.stop = spec.start + Text.byteLength (spec.quote.enclose inside)
  line : spec.line = 1 + before.count '\n'
  isRead : ∀ behind,
    readLexeme spec.quote.mark (inside ++ spec.quote.mark :: behind) =
      .lexeme (.literal spec.quote spec.path) (spec.quote.enclose inside) behind

/-- The span of an import is not empty. -/
theorem Import.StandsBehind.start_lt_stop
    {spec : Import}
    {before inside : Text}
    (stands : spec.StandsBehind before inside) :
    spec.start < spec.stop := by
  have someBytes := spec.quote.mark.utf8Size_pos
  rw [stands.stop, Quote.enclose, Text.byteLength]
  omega

namespace Cursor

variable
  {cursor behind last : Cursor}
  {front text : Text}
  {specs : List Import}

/-- The start of a source is behind a byte order mark, or behind nothing. -/
theorem exists_isBehind_ofText (text : Text) :
    ∃ front, (Cursor.ofText text).IsBehind front text := by
  obtain ⟨_, front, isBehind, _⟩ := ofText_isAt (awaits_nil (Cursor.ofText text))
  exact ⟨front, isBehind⟩

/-- A step over a lexeme keeps the place true to the text that was passed over. -/
theorem IsBehind.step
    {trivia spelling : Text}
    {lexeme : Lexeme}
    (isBehind : cursor.IsBehind front text)
    (spans : cursor.Spans trivia spelling lexeme behind) :
    behind.IsBehind (front ++ (trivia ++ spelling)) text where
  text := by rw [isBehind.text, spans.text, List.append_assoc front]
  position := by rw [spans.position, isBehind.position, Position.past_past]

/-- The span of a lexeme is not empty. -/
theorem start_lt_stop_of_next
    {lexeme : Lexeme}
    (step : cursor.next = .lexeme lexeme behind) :
    lexeme.start < lexeme.stop := by
  obtain ⟨_, _, _, spelling, _, read, spans⟩ := next_eq_lexeme step
  obtain ⟨first, others, rfl⟩ := List.exists_cons_of_ne_nil (readLexeme_spelling_ne_nil read)
  have someBytes := first.utf8Size_pos
  rw [spans.stop, Text.byteLength]
  omega

/-- Imports stand behind the cursor from which they are met. -/
theorem Meets.offset_le
    (meets : Meets cursor specs last) :
    ∀ spec ∈ specs, cursor.position.offset ≤ spec.start := by
  induction meets with
  | refl => simp
  | lexeme step _ inductionHypothesis =>
      obtain ⟨trivia, _, _, spelling, _, _, spans⟩ := next_eq_lexeme step
      intro spec member
      have further := inductionHypothesis spec member
      have start := spans.start
      have stop := spans.stop
      rw [spans.offset] at further
      omega
  | literal step _ isStart isStop _ _ inductionHypothesis =>
      obtain ⟨trivia, _, _, spelling, _, _, spans⟩ := next_eq_lexeme step
      have start := spans.start
      have stop := spans.stop
      intro spec member
      rcases List.mem_cons.mp member with rfl | inOthers
      · omega
      · have further := inductionHypothesis spec inOthers
        rw [spans.offset] at further
        omega

/-- The spans of imports follow one another. -/
theorem Meets.pairwise_spans
    (meets : Meets cursor specs last) :
    specs.Pairwise fun earlier later => earlier.stop ≤ later.start := by
  induction meets with
  | refl => exact .nil
  | lexeme _ _ inductionHypothesis => exact inductionHypothesis
  | literal step _ _ isStop _ others inductionHypothesis =>
      obtain ⟨_, _, _, _, _, _, spans⟩ := next_eq_lexeme step
      refine List.pairwise_cons.mpr ⟨fun later member => ?_, inductionHypothesis⟩
      rw [isStop, ← spans.offset]
      exact others.offset_le later member

/-- Imports that are met stand in the text. -/
theorem Meets.exists_standsBehind
    (meets : Meets cursor specs last)
    (isBehind : cursor.IsBehind front text) :
    ∀ spec ∈ specs,
      ∃ before inside left,
        text = before ++ spec.quote.enclose inside ++ left ∧ spec.StandsBehind before inside := by
  induction meets generalizing front with
  | refl => simp
  | lexeme step _ inductionHypothesis =>
      obtain ⟨_, _, _, _, _, _, spans⟩ := next_eq_lexeme step
      exact inductionHypothesis (isBehind.step spans)
  | @literal cursor behind _ _ _ _ step isLiteral isStart isStop isLine _ inductionHypothesis =>
      obtain ⟨trivia, character, rest, spelling, _, read, spans⟩ := next_eq_lexeme step
      intro spec member
      rcases List.mem_cons.mp member with rfl | inOthers
      · rw [isLiteral] at read
        obtain ⟨inside, rfl, readAlike⟩ := exists_enclose_of_readLexeme read
        refine ⟨front ++ trivia, inside, behind.text, ?_, ?_⟩
        · rw [isBehind.text, spans.text]
          simp only [List.append_assoc]
        · constructor
          · rw [isStart, spans.start, isBehind.position, Text.byteLength_append, Position.past,
              Nat.zero_add]
          · rw [isStop, spans.stop, isStart]
          · rw [isLine, spans.line, isBehind.position, Position.past_past]
            rfl
          · exact readAlike
      · exact inductionHypothesis (isBehind.step spans) spec inOthers

end Cursor

/--
The imports of a source stand in it one behind the other.  The span of each starts and ends between
characters and holds a literal in its style, which is read as its path whatever follows; its line is
the one on which the literal starts.
-/
theorem spans_of_imports
    {text : Text}
    {header : Header}
    (read : Header.ofText text = .ok header) :
    (header.imports.Pairwise fun earlier later => earlier.stop ≤ later.start) ∧
      ∀ spec ∈ header.imports,
        spec.start < spec.stop ∧
          String.Pos.Raw.IsValid (String.ofList text) ⟨spec.start⟩ ∧
          String.Pos.Raw.IsValid (String.ofList text) ⟨spec.stop⟩ ∧
          ∃ before inside behind,
            text = before ++ spec.quote.enclose inside ++ behind ∧
              spec.StandsBehind before inside := by
  obtain ⟨last, meets⟩ := Cursor.exists_meets_of_ofText read
  obtain ⟨front, isBehind⟩ := Cursor.exists_isBehind_ofText text
  refine ⟨meets.pairwise_spans, fun spec member => ?_⟩
  obtain ⟨before, inside, behind, whole, stands⟩ := meets.exists_standsBehind isBehind spec member
  refine ⟨stands.start_lt_stop, ?_, ?_, before, inside, behind, whole, stands⟩
  · rw [whole, List.append_assoc, stands.start]
    exact Text.isValid_byteLength before _
  · rw [whole, stands.stop, stands.start, ← Text.byteLength_append]
    exact Text.isValid_byteLength _ behind

/-- A source with a byte order mark, comments, a group and literals of both styles. -/
private def spannedText : Text :=
  (Char.ofNat 0xFEFF) ::
    ("/* ü\n\"x\" */ package p\n\nimport (\n\tß \"m.io/a\\\"\\tb\"\"é\"\n\t. " ++
      "\u0060m.io/\nc\u0060; _ \"d\"\n)\n\nvar x = \"").toList

/-- The import of the raw literal in it. -/
private def rawImport : Import where
  localName := some ['.']
  path := "m.io/\nc".toList
  start := 61
  stop := 70
  quote := .raw
  line := 6

/-- What is read of it. -/
private def spannedHeader : Header where
  package := ['p']
  imports :=
    [{ localName := some ['ß'], path := "m.io/a\"\tb".toList, start := 40, stop := 53,
       quote := .interpreted, line := 5 },
      { localName := none, path := ['é'], start := 53, stop := 57, quote := .interpreted,
        line := 5 },
      rawImport,
      { localName := some ['_'], path := ['d'], start := 74, stop := 77, quote := .interpreted,
        line := 7 }]

/-- Its imports are apart, and the raw literal is found on the line it starts on. -/
theorem spans_of_imports_mixed :
    Header.ofText spannedText = .ok spannedHeader ∧
      (spannedHeader.imports.Pairwise fun earlier later => earlier.stop ≤ later.start) ∧
      rawImport ∈ spannedHeader.imports ∧
      ∃ before inside behind,
        spannedText = before ++ Quote.enclose .raw inside ++ behind ∧
          Text.byteLength before = 61 ∧ before.count '\n' = 5 := by
  have scanned : Header.ofText spannedText = .ok spannedHeader := by decide +kernel
  have isImport : rawImport ∈ spannedHeader.imports := .tail _ (.tail _ (.head _))
  obtain ⟨apart, stand⟩ := spans_of_imports scanned
  obtain ⟨_, _, _, before, inside, behind, whole, stands⟩ := stand rawImport isImport
  have line : 6 = 1 + before.count '\n' := stands.line
  exact
    ⟨scanned, apart, isImport, before, inside, behind, whole, stands.start.symm, by omega⟩

end Source

end ModuleUpdate
