import ModuleUpdate.Proofs.Source.Spans

namespace ModuleUpdate

/-!
# Writing and reading literals

There are many spellings of one path, and of these one is written.  A literal of a source is the
one that is written for its path if it is raw or escapes no more than it has to.  Where another
value is written in its place, a reader meets the same lexemes but for this one, so it reads the
same imports but for one path.
-/

/-- A text in which backslashes stand in front of backslashes and quotes only. -/
inductive Text.EscapesSpecials : Text → Prop where
  | nil : EscapesSpecials []
  | escaped
      {character : Char}
      {rest : Text}
      (isSpecial : character = '\\' ∨ character = '"')
      (others : EscapesSpecials rest) :
      EscapesSpecials ('\\' :: character :: rest)
  | plain
      {character : Char}
      {rest : Text}
      (notEscape : character ≠ '\\')
      (others : EscapesSpecials rest) :
      EscapesSpecials (character :: rest)

namespace Source

/-- An escape stands for one character, which is special only where the escaped one is. -/
private theorem exists_unescape_escaped (character : Char) (rest : Text) :
    ∃ value,
      Text.unescape ('\\' :: character :: rest) = value :: Text.unescape rest ∧
        (character = '\\' ∨ character = '"' → value = character) ∧
        (value = '\\' ∨ value = '"' → character = '\\' ∨ character = '"') := by
  by_cases isLineFeed : character = 'n'
  · subst isLineFeed
    exact ⟨'\n', rfl, by decide, by decide⟩
  · by_cases isTab : character = 't'
    · subst isTab
      exact ⟨'\t', rfl, by decide, by decide⟩
    · refine ⟨character, ?_, fun _ => rfl, id⟩
      rw [Text.unescape]
      · exact isLineFeed
      · exact isTab

/-- What is inside a literal is written again as it stands if it escapes specials only. -/
theorem escape_unescape_eq_self_iff
    {inside : Text}
    (isInside : IsInside inside) :
    Text.escape (Text.unescape inside) = inside ↔ Text.EscapesSpecials inside := by
  induction isInside with
  | nil => exact ⟨fun _ => .nil, fun _ => rfl⟩
  | @escaped character rest _ inductionHypothesis =>
      obtain ⟨value, resolved, kept, onlyFrom⟩ := exists_unescape_escaped character rest
      rw [resolved]
      by_cases isSpecial : character = '\\' ∨ character = '"'
      · rw [kept isSpecial, Text.escape_cons_of_special isSpecial]
        constructor
        · intro same
          simp only [List.cons.injEq, true_and] at same
          exact .escaped isSpecial (inductionHypothesis.mp same)
        · intro escapes
          cases escapes with
          | escaped _ others => rw [inductionHypothesis.mpr others]
          | plain notEscape _ => exact absurd rfl notEscape
      · rw [Text.escape_cons_of_plain fun special => isSpecial (onlyFrom special)]
        constructor
        · intro same
          rw [List.cons.injEq] at same
          exact absurd (onlyFrom (.inl same.1)) isSpecial
        · intro escapes
          cases escapes with
          | escaped special _ => exact absurd special isSpecial
          | plain notEscape _ => exact absurd rfl notEscape
  | @plain character rest notQuote _ notEscape _ inductionHypothesis =>
      have isPlain : ¬(character = '\\' ∨ character = '"') := not_or.mpr ⟨notEscape, notQuote⟩
      have resolved : Text.unescape (character :: rest) = character :: Text.unescape rest := by
        rw [Text.unescape]
        all_goals simp [notEscape]
      rw [resolved, Text.escape_cons_of_plain isPlain, List.cons_inj_right, inductionHypothesis]
      constructor
      · exact .plain notEscape
      · intro escapes
        cases escapes with
        | escaped _ _ => exact absurd rfl notEscape
        | plain _ others => exact others

/-- An interpreted literal is read as what is inside it with the escapes resolved. -/
private theorem path_of_isRead
    {inside path : Text}
    (read :
      readLexeme (Quote.mark .interpreted) (inside ++ Quote.mark .interpreted :: []) =
        .lexeme (.literal .interpreted path) (Quote.enclose .interpreted inside) []) :
    IsInside inside ∧ path = Text.unescape inside := by
  have notWord : ¬startsWord (Quote.mark .interpreted) = true := by decide
  rw [readLexeme, if_neg notWord, if_pos rfl] at read
  split at read
  · next found =>
      simp only [Reading.lexeme.injEq, Kind.literal.injEq, true_and, Quote.enclose,
        List.cons_append, List.cons.injEq, List.append_cancel_right_eq] at read
      obtain ⟨rfl, rfl, -⟩ := read
      exact ⟨isInside_of_readInterpreted? found, rfl⟩
  · cases read

/-- A literal is what is written for its path if it is raw or escapes specials only. -/
theorem Import.StandsBehind.literal_eq_enclose_iff
    {spec : Import}
    {before inside : Text}
    (stands : spec.StandsBehind before inside) :
    spec.quote.literal spec.path = spec.quote.enclose inside ↔
      spec.quote = .raw ∨ Text.EscapesSpecials inside := by
  have read := stands.isRead []
  cases isQuote : spec.quote with
  | raw =>
      rw [isQuote] at read
      exact ⟨fun _ => .inl rfl, fun _ => (of_readLexeme_literal read).2.2.symm⟩
  | interpreted =>
      rw [isQuote] at read
      obtain ⟨isInside, resolved⟩ := path_of_isRead read
      have written := escape_unescape_eq_self_iff isInside
      rw [resolved]
      simp only [Quote.literal, Text.quoted, Quote.enclose, Quote.mark, List.cons_append,
        List.cons.injEq, true_and, List.append_cancel_right_eq, written, reduceCtorEq, false_or]

/-- Whether a kind is that of literals. -/
def Kind.isLiteral : Kind → Bool
  | literal _ _ => true
  | _ => false

/-- The kind of a lexeme, with another value if it is the literal at a place. -/
def Lexeme.kindWith (place : Nat) (value : Text) (lexeme : Lexeme) : Kind :=
  match lexeme.kind with
  | .literal quote earlier => .literal quote (if lexeme.start = place then value else earlier)
  | kind => kind

section Kinds

variable (place : Nat) (value : Text) {lexeme : Lexeme}

theorem Lexeme.kindWith_of_literal
    {quote : Quote}
    {earlier : Text}
    (isLiteral : lexeme.kind = .literal quote earlier) :
    lexeme.kindWith place value =
      .literal quote (if lexeme.start = place then value else earlier) := by
  rw [kindWith, isLiteral]

theorem Lexeme.kindWith_of_start_ne
    (isElsewhere : lexeme.start ≠ place) :
    lexeme.kindWith place value = lexeme.kind := by
  rw [kindWith]
  split
  · next isLiteral => rw [if_neg isElsewhere, isLiteral]
  · rfl

/-- Only literals get another value. -/
theorem Lexeme.kindWith_eq_iff
    {kind : Kind}
    (notLiteral : kind.isLiteral = false) :
    lexeme.kindWith place value = kind ↔ lexeme.kind = kind := by
  rw [kindWith]
  split
  · next isLiteral =>
      rw [isLiteral]
      constructor
      · rintro rfl
        cases notLiteral
      · rintro rfl
        cases notLiteral
  · rfl

end Kinds

namespace Cursor

/--
Two cursors from which the same lexemes are met, but for the value of one literal.  Behind that
literal the texts are the same.
-/
inductive Parallel (place : Nat) (value : Text) : Cursor → Cursor → Prop where
  | same
      {cursor other : Cursor}
      (text : other.text = cursor.text)
      (isPast : place < cursor.position.offset) :
      Parallel place value cursor other
  | lexeme
      {cursor behind other left : Cursor}
      {lexeme shown : Lexeme}
      (step : cursor.next = .lexeme lexeme behind)
      (shows : other.next = .lexeme shown left)
      (kind : shown.kind = lexeme.kindWith place value)
      (others : Parallel place value behind left) :
      Parallel place value cursor other

namespace Parallel

variable
  {place : Nat}
  {value : Text}
  {cursor behind other left : Cursor}
  {lexeme : Lexeme}

/-- A step over a lexeme is taken on both sides. -/
theorem next
    (parallel : Parallel place value cursor other)
    (step : cursor.next = .lexeme lexeme behind) :
    ∃ shown left,
      other.next = .lexeme shown left ∧
        shown.kind = lexeme.kindWith place value ∧ Parallel place value behind left := by
  cases parallel with
  | same text isPast =>
      obtain ⟨trivia, character, rest, spelling, skipped, read, spans⟩ := next_eq_lexeme step
      rw [← text] at skipped
      obtain ⟨shown, left, shows, kind, textThere, _⟩ := next_of_readLexeme skipped read
      have start := spans.start
      have stop := spans.stop
      refine ⟨shown, left, shows, ?_, .same textThere ?_⟩
      · rw [kind, Lexeme.kindWith_of_start_ne]
        omega
      · rw [spans.offset]
        omega
  | lexeme stepThere shows kind others =>
      cases stepThere.symm.trans step
      exact ⟨_, _, shows, kind, others⟩

/-- The end of the source is met on both sides. -/
theorem finished
    (parallel : Parallel place value cursor other)
    {line : Nat}
    (step : cursor.next = .finished line) :
    ∃ lineThere, other.next = .finished lineThere := by
  cases parallel with
  | same text _ => exact finished_of_text step text
  | lexeme stepThere _ _ _ => cases stepThere.symm.trans step

/-- A lexeme that is no literal is met on both sides. -/
theorem next_of_kind
    (parallel : Parallel place value cursor other)
    (step : cursor.next = .lexeme lexeme behind)
    {kind : Kind}
    (isKind : lexeme.kind = kind)
    (notLiteral : kind.isLiteral = false) :
    ∃ shown left,
      other.next = .lexeme shown left ∧
        shown.kind = kind ∧ Parallel place value behind left := by
  obtain ⟨shown, left, shows, sameKind, others⟩ := parallel.next step
  have isKindThere := (Lexeme.kindWith_eq_iff place value notLiteral).mpr isKind
  exact ⟨shown, left, shows, sameKind.trans isKindThere, others⟩

/-- A lexeme of another kind, not that of literals, is met on both sides. -/
theorem next_of_kind_ne
    (parallel : Parallel place value cursor other)
    (step : cursor.next = .lexeme lexeme behind)
    {kind : Kind}
    (isOther : lexeme.kind ≠ kind)
    (notLiteral : kind.isLiteral = false) :
    ∃ shown left, other.next = .lexeme shown left ∧ shown.kind ≠ kind := by
  obtain ⟨shown, left, shows, sameKind, _⟩ := parallel.next step
  refine ⟨shown, left, shows, ?_⟩
  rw [sameKind, Ne, Lexeme.kindWith_eq_iff place value notLiteral]
  exact isOther

end Parallel

end Cursor

/-- An import and the same import where the literal at a place spells another path. -/
structure Import.IsRespelled (place : Nat) (value : Text) (earlier later : Import) : Prop where
  localName : later.localName = earlier.localName
  quote : later.quote = earlier.quote
  path : later.path = if earlier.start = place then value else earlier.path

namespace Cursor.Parallel

variable
  {place : Nat}
  {value : Text}
  {cursor behind other : Cursor}
  {spec : Import}
  {specs : List Import}

theorem pastSemicolons
    (parallel : Parallel place value cursor other)
    (sound : ∀ error, cursor.pastSemicolons.next ≠ .broken error) :
    Parallel place value cursor.pastSemicolons other.pastSemicolons := by
  fun_induction Cursor.pastSemicolons cursor generalizing other with
  | case1 cursor lexeme behind step isSemicolon inductionHypothesis =>
      obtain ⟨shown, left, shows, kind, others⟩ := parallel.next_of_kind step isSemicolon rfl
      rw [pastSemicolons_of_semicolon shows kind]
      exact inductionHypothesis others sound
  | case2 cursor lexeme behind step notSemicolon =>
      obtain ⟨shown, left, shows, avoids⟩ := parallel.next_of_kind_ne step notSemicolon rfl
      rwa [pastSemicolons_of_avoidsSemicolon (avoidsSemicolon_of_next shows avoids)]
  | case3 cursor line step =>
      obtain ⟨lineThere, finished⟩ := parallel.finished step
      have avoids : other.AvoidsSemicolon := by
        intro shown left same
        cases finished.symm.trans same
      rwa [pastSemicolons_of_avoidsSemicolon avoids]
  | case4 cursor error step => exact absurd step (sound error)

theorem readPath
    (parallel : Parallel place value cursor other)
    {localName : Option Text}
    (read : cursor.readPath localName = .ok (spec, behind)) :
    ∃ found left,
      other.readPath localName = .ok (found, left) ∧
        spec.IsRespelled place value found ∧ Parallel place value behind left := by
  obtain ⟨lexeme, step, isLiteral, origin⟩ := readPath_eq_ok read
  obtain ⟨shown, left, shows, kind, others⟩ := parallel.next step
  have sameName : spec.localName = localName := congrArg Import.localName origin
  have start : spec.start = lexeme.start := congrArg Import.start origin
  rw [Lexeme.kindWith_of_literal place value isLiteral, ← start] at kind
  exact ⟨_, left, readPath_of_literal shows kind localName, ⟨sameName.symm, rfl, rfl⟩, others⟩

theorem readImport
    (parallel : Parallel place value cursor other)
    (read : cursor.readImport = .ok (spec, behind)) :
    ∃ found left,
      other.readImport = .ok (found, left) ∧
        spec.IsRespelled place value found ∧ Parallel place value behind left := by
  rcases readImport_eq_ok read with ⟨lexeme, between, name, step, names, readPath⟩ | readPath
  · rcases names with isWord | ⟨isDot, isName⟩
    · obtain ⟨shown, left, shows, kind, others⟩ := parallel.next_of_kind step isWord rfl
      rw [readImport_of_names shows (Or.inl kind)]
      exact others.readPath readPath
    · obtain ⟨shown, left, shows, kind, others⟩ := parallel.next_of_kind step isDot rfl
      rw [readImport_of_names shows (Or.inr ⟨kind, isName⟩)]
      exact others.readPath readPath
  · obtain ⟨found, left, readThere, isRespelled, others⟩ := parallel.readPath readPath
    obtain ⟨shown, shows, isLiteral, _⟩ := readPath_eq_ok readThere
    rw [readImport_of_literal shows isLiteral]
    exact ⟨found, left, readThere, isRespelled, others⟩

theorem readGroup
    (parallel : Parallel place value cursor other)
    (read : cursor.readGroup = .ok (specs, behind)) :
    ∃ found left,
      other.readGroup = .ok (found, left) ∧
        List.Forall₂ (Import.IsRespelled place value) specs found ∧
          Parallel place value behind left := by
  fun_induction Cursor.readGroup cursor generalizing specs other with
  | case1 => cases read
  | case2 => cases read
  | case3 cursor lexeme last step isClosing =>
      cases read
      have passed := parallel.pastSemicolons (by simp [step])
      obtain ⟨shown, left, shows, kind, others⟩ := passed.next_of_kind step isClosing rfl
      refine ⟨[], left, ?_, .nil, others⟩
      rw [readGroup_of_lexeme shows, if_pos kind]
  | case4 => cases read
  | case5 => cases read
  | case6 cursor lexeme _ step _ spec following found specs last rest inductionHypothesis =>
      cases read
      have passed := parallel.pastSemicolons (by simp [step])
      obtain ⟨first, left, readFirst, isRespelled, others⟩ := passed.readImport found
      obtain ⟨later, leftLast, readLater, areRespelled, behindAll⟩ :=
        inductionHypothesis others rest
      refine ⟨first :: later, leftLast, ?_, .cons isRespelled areRespelled, behindAll⟩
      rw [readGroup_of_readImport readFirst, readLater]
      rfl

theorem readDeclaration
    (parallel : Parallel place value cursor other)
    (read : cursor.readDeclaration = .ok (specs, behind)) :
    ∃ found left,
      other.readDeclaration = .ok (found, left) ∧
        List.Forall₂ (Import.IsRespelled place value) specs found ∧
          Parallel place value behind left := by
  rcases readDeclaration_eq_ok read with
    ⟨lexeme, inside, step, isOpening, readGroup⟩ | ⟨spec, rfl, readImport⟩
  · obtain ⟨shown, left, shows, kind, others⟩ := parallel.next_of_kind step isOpening rfl
    rw [readDeclaration_of_opening shows kind]
    exact others.readGroup readGroup
  · obtain ⟨found, left, readThere, isRespelled, others⟩ := parallel.readImport readImport
    refine ⟨[found], left, ?_, .cons isRespelled .nil, others⟩
    rw [readDeclaration_of_opensImport (opensImport_of_readImport readThere), readThere]
    rfl

theorem readImports
    (parallel : Parallel place value cursor other)
    (read : cursor.readImports = .ok specs) :
    ∃ found,
      other.readImports = .ok found ∧
        List.Forall₂ (Import.IsRespelled place value) specs found := by
  fun_induction Cursor.readImports cursor generalizing specs other with
  | case1 => cases read
  | case2 cursor line step =>
      cases read
      have passed := parallel.pastSemicolons (by simp [step])
      obtain ⟨lineThere, finished⟩ := passed.finished step
      exact ⟨[], readImports_of_finished finished, .nil⟩
  | case3 => cases read
  | case4 => cases read
  | case5 cursor lexeme behind step isImport specs left declared later rest inductionHypothesis =>
      cases read
      have passed := parallel.pastSemicolons (by simp [step])
      obtain ⟨shown, inside, shows, kind, others⟩ := passed.next_of_kind step isImport rfl
      obtain ⟨found, leftThere, readFirst, areRespelled, behindFirst⟩ :=
        others.readDeclaration declared
      obtain ⟨foundLater, readLater, laterRespelled⟩ := inductionHypothesis behindFirst rest
      refine ⟨found ++ foundLater, ?_, List.rel_append areRespelled laterRespelled⟩
      rw [readImports_of_lexeme shows, if_pos kind, readFirst]
      simp only [Except.bind, readLater]
      rfl
  | case6 cursor lexeme behind step isOther =>
      cases read
      have passed := parallel.pastSemicolons (by simp [step])
      obtain ⟨shown, left, shows, isOtherThere⟩ := passed.next_of_kind_ne step isOther rfl
      refine ⟨[], ?_, .nil⟩
      rw [readImports_of_lexeme shows, if_neg isOtherThere]

/-- Sources that start side by side have the same header but for one path. -/
theorem exists_header
    {text changed : Text}
    {header : Header}
    (parallel : Parallel place value (Cursor.ofText text) (Cursor.ofText changed))
    (read : Header.ofText text = .ok header) :
    ∃ found,
      Header.ofText changed = .ok found ∧
        found.package = header.package ∧
          List.Forall₂ (Import.IsRespelled place value) header.imports found.imports := by
  obtain ⟨cursor, clause, declared⟩ := Header.ofText_eq_ok read
  obtain ⟨first, between, second, step, isPackage, named, isName⟩ := readPackage_eq_ok clause
  obtain ⟨_, _, shows, kind, others⟩ := parallel.next_of_kind step isPackage rfl
  obtain ⟨_, _, showsName, nameKind, behindName⟩ := others.next_of_kind named isName rfl
  obtain ⟨found, readThere, areRespelled⟩ := behindName.readImports declared
  have clauseThere := readPackage_of_next shows kind showsName nameKind
  refine ⟨{ package := header.package, imports := found }, ?_, rfl, areRespelled⟩
  simp only [Header.ofText]
  rw [clauseThere]
  simp only [readThere]

end Cursor.Parallel

/-- The edit that writes another path in the place of an import's literal. -/
def Import.rewriting (spec : Import) (path : Text) : Edit :=
  { start := spec.start, stop := spec.stop, replacement := spec.quote.literal path }

namespace Cursor

variable
  {cursor behind other last : Cursor}
  {lexeme : Lexeme}
  {spec : Import}
  {specs : List Import}
  {path : Text}

/-- A lexeme in front of an edited literal is met on both sides. -/
private theorem parallel_of_next
    {edits : List Edit}
    {place : Nat}
    (step : cursor.next = .lexeme lexeme behind)
    (awaits : behind.Awaits edits)
    (isAhead : behind.position.offset ≤ place)
    (parallel : ∀ left, behind.IsAt edits left → Parallel place path behind left)
    (isAt : cursor.IsAt edits other) :
    Parallel place path cursor other := by
  obtain ⟨shown, left, trivia, spelling, shows, kind, _, stays, spans, _⟩ :=
    next_of_isAt step awaits isAt
  refine .lexeme step shows ?_ (parallel left stays)
  have isElsewhere : lexeme.start ≠ place := by
    have shorter := start_lt_stop_of_next step
    rw [← spans.offset] at shorter
    omega
  rw [kind, Lexeme.kindWith_of_start_ne place path isElsewhere]

/-- With another path in the place of a literal on the way, cursors start side by side. -/
theorem Meets.parallel
    (meets : Meets cursor specs last)
    (member : spec ∈ specs)
    (spelled : spec.quote.Spells path) :
    cursor.Awaits [spec.rewriting path] ∧
      ∀ other,
        cursor.IsAt [spec.rewriting path] other → Parallel spec.start path cursor other := by
  induction meets with
  | refl => cases member
  | lexeme step others inductionHypothesis =>
      obtain ⟨awaits, parallel⟩ := inductionHypothesis member
      exact
        ⟨awaits_of_next step awaits, fun other =>
          parallel_of_next step awaits (others.offset_le spec member) parallel⟩
  | @literal cursor behind _ lexeme first _ step isLiteral isStart isStop _ others
      inductionHypothesis =>
      rcases List.mem_cons.mp member with rfl | inOthers
      · have edit : spec.rewriting path = lexeme.rewriting spec.quote path := by
          rw [Import.rewriting, Lexeme.rewriting, isStart, isStop]
        rw [edit]
        refine ⟨awaits_of_rewriting step isLiteral path [], fun other isAt => ?_⟩
        obtain ⟨shown, left, _, _, _, shows, kind, text, _, spans, _⟩ :=
          next_of_spelled step isLiteral isAt.text spelled
        -- Behind the literal the lines may differ, since the new path may hold other line feeds.
        refine .lexeme step shows ?_ (.same text ?_)
        · rw [kind, Lexeme.kindWith_of_literal _ _ isLiteral, if_pos isStart.symm]
        · rw [isStart, spans.offset]
          exact start_lt_stop_of_next step
      · obtain ⟨awaits, parallel⟩ := inductionHypothesis inOthers
        exact
          ⟨awaits_of_next step awaits, fun other =>
            parallel_of_next step awaits (others.offset_le spec inOthers) parallel⟩

end Cursor

/--
The literal of an import and the one that is written for its path are the same exactly if it is raw
or escapes specials only.  Any path that its style writes readably may be written in its place: the
source is read with the same package and the same imports, and the import has the new path.
-/
theorem literals_of_imports
    {text : Text}
    {header : Header}
    (read : Header.ofText text = .ok header)
    {spec : Import}
    (member : spec ∈ header.imports) :
    ∃ before inside behind,
      text = before ++ spec.quote.enclose inside ++ behind ∧
        spec.StandsBehind before inside ∧
        (spec.quote.literal spec.path = spec.quote.enclose inside ↔
          spec.quote = .raw ∨ Text.EscapesSpecials inside) ∧
        ∀ path,
          spec.quote.Spells path →
            ∃ changed,
              Header.ofText (before ++ spec.quote.literal path ++ behind) = .ok changed ∧
                changed.package = header.package ∧
                List.Forall₂ (Import.IsRespelled spec.start path) header.imports
                  changed.imports := by
  obtain ⟨last, meets⟩ := Cursor.exists_meets_of_ofText read
  obtain ⟨front, isBehind⟩ := Cursor.exists_isBehind_ofText text
  obtain ⟨before, inside, behind, whole, stands⟩ := meets.exists_standsBehind isBehind spec member
  refine
    ⟨before, inside, behind, whole, stands, stands.literal_eq_enclose_iff,
      fun path spelled => ?_⟩
  obtain ⟨awaits, parallel⟩ := meets.parallel member spelled
  obtain ⟨isAt, _⟩ := Cursor.ofText_isAt awaits
  have replaced :
      applyEdits 0 [spec.rewriting path] text =
        before ++ spec.quote.literal path ++ behind := by
    rw [whole, Import.rewriting, stands.stop, stands.start, ← Nat.zero_add (Text.byteLength before)]
    exact applyEdits_cons 0 before (spec.quote.enclose inside) _ behind []
  rw [replaced] at isAt
  exact (parallel _ isAt).exists_header read

/-- A source with an escaped quote in the path of an import. -/
private def escapedText : Text :=
  "package p\n\nimport (\n\t\"m.io/a\\\"b\"\n\t. \u0060c\u0060\n)\n".toList

/-- The import of that path. -/
private def escapedImport : Import where
  localName := none
  path := "m.io/a\"b".toList
  start := 21
  stop := 32
  quote := .interpreted
  line := 4

/-- What is read of that source. -/
private def escapedHeader : Header where
  package := ['p']
  imports :=
    [escapedImport,
      { localName := some ['.'], path := ['c'], start := 36, stop := 39, quote := .raw, line := 5 }]

/-- Another path with a quote and a backslash may be written in its place. -/
theorem literals_of_imports_escaped :
    Header.ofText escapedText = .ok escapedHeader ∧
      escapedImport ∈ escapedHeader.imports ∧
      ∃ before inside behind changed,
        escapedText = before ++ Quote.enclose .interpreted inside ++ behind ∧
          (Quote.literal .interpreted escapedImport.path = Quote.enclose .interpreted inside ↔
            Quote.interpreted = .raw ∨ Text.EscapesSpecials inside) ∧
          Header.ofText (before ++ Quote.literal .interpreted "n\\n\"".toList ++ behind) =
            .ok changed ∧
          List.Forall₂ (Import.IsRespelled 21 "n\\n\"".toList) escapedHeader.imports
            changed.imports := by
  have scanned : Header.ofText escapedText = .ok escapedHeader := by decide +kernel
  have isImport : escapedImport ∈ escapedHeader.imports := .head _
  obtain ⟨before, inside, behind, whole, _, isWritten, respelled⟩ :=
    literals_of_imports scanned isImport
  obtain ⟨changed, readAgain, _, areRespelled⟩ := respelled "n\\n\"".toList (by decide)
  exact
    ⟨scanned, isImport, before, inside, behind, changed, whole, isWritten, readAgain,
      areRespelled⟩

/--
An escaped slash is not written again as it stands, and the raw literal of a path with a raw mark
is read as another path.
-/
theorem other_spelling_of_literal :
    let text := "package p\n\nimport \"m.io\\/a\"\n".toList
    let marked := "a\u0060b".toList
    (Header.ofText text).toOption.map Header.imports =
        some
          [{ localName := none, path := "m.io/a".toList, start := 18, stop := 27,
             quote := .interpreted, line := 3 }] ∧
      (Text.splitAtByte (27 - 18) (Text.splitAtByte 18 text).2).1 ≠
        Quote.literal .interpreted "m.io/a".toList ∧
      ((Header.ofText ("package p\n\nimport ".toList ++ Quote.literal .raw marked)).toOption.map
        fun header => header.imports.map Import.path) =
        some ["a".toList] := by
  decide +kernel

end Source

end ModuleUpdate
