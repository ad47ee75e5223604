import ModuleUpdate.Proofs.Source.Header
import ModuleUpdate.Proofs.Source.Written

namespace ModuleUpdate.Source

/-!
# Outlines of headers

An outline is what a header says, in the order in which the header says it.  It can be laid out
with any white space and comments between its lexemes, as long as words are kept apart.  Reading
a source gives the outline back that is laid out at its start, whatever stands behind the first
lexeme that belongs to no header.
-/

/-- A letter or an underscore, and letters, digits and underscores behind it. -/
structure Word where
  first : Char
  others : Text := []
  starts : startsWord first = true
  continues : ∀ character ∈ others, continuesWord character = true

/-- The characters of a word. -/
def Word.text (word : Word) : Text :=
  word.first :: word.others

/-- The name that an import is given. -/
inductive LocalName where
  | word (name : Word)
  | dot

/-- An import as a header spells it. -/
structure Spec where
  localName : Option LocalName := none
  quote : Quote := .interpreted
  path : Text
  isSpelled : quote.Spells path

/-- One import, or a group of imports; numbers of semicolons stand in front and at its end. -/
inductive Declaration where
  | single (spec : Spec)
  | group (specs : List (Nat × Spec)) (semicolons : Nat)

/-- The package and the declarations of a header, with the numbers of semicolons between them. -/
structure Outline where
  package : Word
  declarations : List (Nat × Declaration) := []
  semicolons : Nat := 0

namespace LocalName

/-- The text of a name. -/
def text : LocalName → Text
  | word name => name.text
  | dot => ['.']

/-- The lexeme that a name is. -/
def kind : LocalName → Kind
  | word name => .word name.text
  | dot => .mark '.'

end LocalName

/-- The lexemes of items, with their semicolons in front of them. -/
def behindSemicolons (kinds : Item → List Kind) (items : List (Nat × Item)) : List Kind :=
  items.flatMap fun (number, item) => List.replicate number semicolon ++ kinds item

/-- The lexemes of an import. -/
def Spec.kinds (spec : Spec) : List Kind :=
  (spec.localName.map LocalName.kind).toList ++ [.literal spec.quote spec.path]

namespace Declaration

/-- The lexemes behind the word that starts a declaration. -/
def kinds : Declaration → List Kind
  | single spec => spec.kinds
  | group specs semicolons =>
      .mark '(' ::
        (behindSemicolons Spec.kinds specs ++ (List.replicate semicolons semicolon ++ [.mark ')']))

/-- The imports of a declaration. -/
def specs : Declaration → List Spec
  | single spec => [spec]
  | group specs _ => specs.map Prod.snd

end Declaration

namespace Outline

/-- The lexemes of a header. -/
def kinds (outline : Outline) : List Kind :=
  packageWord :: .word outline.package.text ::
    (behindSemicolons (fun declaration => importWord :: declaration.kinds) outline.declarations ++
      List.replicate outline.semicolons semicolon)

/-- The imports of a header. -/
def specs (outline : Outline) : List Spec :=
  outline.declarations.flatMap fun (_, declaration) => declaration.specs

end Outline

/-- An import that was read says what it was written to say. -/
structure Import.Says (found : Import) (spec : Spec) : Prop where
  localName : found.localName = spec.localName.map LocalName.text
  quote : found.quote = spec.quote
  path : found.path = spec.path

namespace Kind

/-- The text of a lexeme; a literal has no more escapes than it needs. -/
def spelling : Kind → Text
  | word name => name
  | literal quote value => quote.literal value
  | mark character => [character]

/-- Whether a lexeme is a word. -/
def isWord : Kind → Bool
  | word _ => true
  | _ => false

/-- The lexemes that headers are made of. -/
inductive IsPlain : Kind → Prop where
  | word (name : Word) : IsPlain (.word name.text)
  | literal {quote : Quote} {value : Text} : quote.Spells value → IsPlain (.literal quote value)
  | mark {character : Char} : character ∈ ['.', '(', ')', ';'] → IsPlain (.mark character)

variable {kind : Kind}

theorem IsPlain.isSpelled
    (isPlain : kind.IsPlain) :
    kind.IsSpelled kind.spelling := by
  cases isPlain with
  | word name => exact .word name.starts name.continues
  | literal spelled => exact isSpelled_literal spelled
  | @mark character isMark =>
      have notQuote : ∀ quote, character ≠ Quote.mark quote := by
        rintro (_ | _) rfl <;> exact absurd isMark (by decide)
      simp only [List.mem_cons, List.not_mem_nil, or_false] at isMark
      rcases isMark with rfl | rfl | rfl | rfl <;>
        exact .mark (by decide) (by decide +kernel) notQuote

/-- A word does not go on with a lexeme that is none. -/
theorem IsPlain.ends
    (isPlain : kind.IsPlain)
    (notWord : kind.isWord = false)
    (behind : Text) :
    ∀ character ∈ (kind.spelling ++ behind).head?, continuesWord character = false := by
  cases isPlain with
  | word name => cases notWord
  | @literal quote value _ =>
      cases quote <;> simp [spelling, Quote.literal, Text.quoted] <;> decide +kernel
  | @mark character isMark =>
      have ends : continuesWord character = false := by
        simp only [List.mem_cons, List.not_mem_nil, or_false] at isMark
        rcases isMark with rfl | rfl | rfl | rfl <;> decide +kernel
      simpa [spelling] using ends

end Kind

/-- White space and comments. -/
structure Trivia where
  text : Text
  isTrivia : IsTrivia text

namespace Trivia

variable {trivia : Trivia} {behind : Text}

/-- White space and comments, where there are any, start with a blank or with a slash. -/
theorem opens_cases
    {first : Char}
    (opens : first ∈ (trivia.text ++ behind).head?) :
    (trivia.text = [] ∧ first ∈ behind.head?) ∨ Text.isBlank first = true ∨ first = '/' := by
  obtain ⟨text, isTrivia⟩ := trivia
  cases isTrivia with
  | nil => exact .inl ⟨rfl, opens⟩
  | blank blank _ =>
      cases opens
      exact .inr (.inl blank)
  | lineComment _ _ =>
      cases opens
      exact .inr (.inr rfl)
  | blockComment _ _ =>
      cases opens
      exact .inr (.inr rfl)

/-- White space and comments, where there are any, end a word. -/
theorem ends
    (some : trivia.text ≠ [])
    (behind : Text) :
    ∀ character ∈ (trivia.text ++ behind).head?, continuesWord character = false := by
  intro character opens
  rcases opens_cases opens with ⟨nothing, _⟩ | blank | rfl
  · exact absurd nothing some
  · exact continuesWord_of_isBlank blank
  · decide +kernel

end Trivia

/-- Lexemes one after the other, each with its white space and comments in front. -/
def written (lexemes : List (Trivia × Kind)) : Text :=
  lexemes.flatMap fun (trivia, kind) => trivia.text ++ kind.spelling

/-- The lexemes of an outline with white space and comments, which keep words apart. -/
structure Layout (outline : Outline) where
  lexemes : List (Trivia × Kind)
  spells : lexemes.map Prod.snd = outline.kinds
  separates :
    lexemes.IsChain fun first second =>
      first.2.isWord = true → second.2.isWord = true → second.1.text ≠ []

namespace Layout

variable {outline : Outline}

/-- The text of a layout. -/
def text (layout : Layout outline) : Text :=
  written layout.lexemes

/-- The last word of a layout, if a word is the last, does not go on in the text behind it. -/
def StopsBefore (layout : Layout outline) (tail : Text) : Prop :=
  ∀ last ∈ layout.lexemes.getLast?, last.2.StopsBefore tail

end Layout

/--
What may follow a header: white space and comments, possibly with a text behind them that starts
with a lexeme other than a semicolon and the word that starts a declaration.
-/
inductive EndsHeader : Text → Prop where
  | finished {trivia : Text} : IsTrivia trivia → EndsHeader trivia
  | lexeme {trivia spelling behind : Text} {kind : Kind} :
      IsTrivia trivia →
        kind.IsSpelled spelling →
          kind.StopsBefore behind →
            kind ≠ semicolon → kind ≠ importWord → EndsHeader (trivia ++ spelling ++ behind)

/-- The mark that a source may start with. -/
def byteOrderMark : Text :=
  [Char.ofNat 0xFEFF]

namespace Cursor

/-- Lexemes are stepped over from one cursor to another. -/
inductive Passes : Cursor → List Kind → Cursor → Prop where
  | refl (cursor : Cursor) : Passes cursor [] cursor
  | step {cursor behind last : Cursor} {lexeme : Lexeme} {kinds : List Kind} :
      cursor.next = .lexeme lexeme behind →
        Passes behind kinds last → Passes cursor (lexeme.kind :: kinds) last

variable {cursor behind last : Cursor} {kind : Kind} {kinds others : List Kind}

theorem Passes.exists_of_cons
    (passes : Passes cursor (kind :: kinds) last) :
    ∃ lexeme behind,
      cursor.next = .lexeme lexeme behind ∧ lexeme.kind = kind ∧ Passes behind kinds last := by
  cases passes with
  | step step passes => exact ⟨_, _, step, rfl, passes⟩

theorem Passes.exists_of_append
    (passes : Passes cursor (kinds ++ others) last) :
    ∃ middle, Passes cursor kinds middle ∧ Passes middle others last := by
  induction kinds generalizing cursor with
  | nil => exact ⟨cursor, .refl cursor, passes⟩
  | cons kind kinds inductionHypothesis =>
      obtain ⟨lexeme, behind, step, rfl, rest⟩ := passes.exists_of_cons
      obtain ⟨middle, first, second⟩ := inductionHypothesis rest
      exact ⟨middle, .step step first, second⟩

/-- A lexeme of a layout stops before the next one, or before the text behind the last one. -/
private theorem stopsBefore_written
    {lexeme : Trivia × Kind}
    {lexemes : List (Trivia × Kind)}
    {tail : Text}
    (arePlain : ∀ lexeme ∈ lexemes, lexeme.2.IsPlain)
    (isPlain : lexeme.2.IsPlain)
    (separates :
      (lexeme :: lexemes).IsChain fun first second =>
        first.2.isWord = true → second.2.isWord = true → second.1.text ≠ [])
    (stops : ∀ last ∈ (lexeme :: lexemes).getLast?, last.2.StopsBefore tail) :
    lexeme.2.StopsBefore (written lexemes ++ tail) := by
  obtain ⟨trivia, kind⟩ := lexeme
  cases lexemes with
  | nil => exact stops _ rfl
  | cons second others =>
      cases isPlain with
      | word name =>
          have behind :
              written (second :: others) ++ tail =
                second.1.text ++ (second.2.spelling ++ (written others ++ tail)) := by
            simp [written]
          rw [behind]
          by_cases noTrivia : second.1.text = []
          · have notWord : second.2.isWord = false :=
              Bool.eq_false_iff.mpr fun isWord =>
                (List.isChain_cons_cons.mp separates).1 rfl isWord noTrivia
            rw [noTrivia, List.nil_append]
            exact (arePlain second List.mem_cons_self).ends notWord _
          · exact second.1.ends noTrivia _
      | literal _ => exact trivial
      | mark isMark =>
          rintro rfl
          exact absurd isMark (by decide)

/-- The lexemes of a layout are stepped over. -/
theorem passes_written
    {lexemes : List (Trivia × Kind)}
    {tail : Text}
    (arePlain : ∀ lexeme ∈ lexemes, lexeme.2.IsPlain)
    (separates :
      lexemes.IsChain fun first second =>
        first.2.isWord = true → second.2.isWord = true → second.1.text ≠ [])
    (stops : ∀ last ∈ lexemes.getLast?, last.2.StopsBefore tail)
    (text : cursor.text = written lexemes ++ tail) :
    ∃ last, Passes cursor (lexemes.map Prod.snd) last ∧ last.text = tail := by
  induction lexemes generalizing cursor with
  | nil => exact ⟨cursor, .refl cursor, text⟩
  | cons lexeme lexemes inductionHypothesis =>
      have isPlain := arePlain lexeme List.mem_cons_self
      have othersPlain : ∀ other ∈ lexemes, other.2.IsPlain :=
        fun other member => arePlain other (List.mem_cons_of_mem _ member)
      have stopsThere := stopsBefore_written othersPlain isPlain separates stops
      have whole :
          cursor.text = lexeme.1.text ++ lexeme.2.spelling ++ (written lexemes ++ tail) := by
        rw [text]
        simp [written]
      obtain ⟨found, behind, step, isKind, behindText⟩ :=
        next_of_isSpelled lexeme.1.isTrivia isPlain.isSpelled stopsThere whole
      have stopsLater : ∀ last ∈ lexemes.getLast?, last.2.StopsBefore tail := by
        intro last isLast
        refine stops last ?_
        rw [Option.mem_def] at isLast ⊢
        rw [List.getLast?_cons, isLast]
        rfl
      obtain ⟨last, passes, lastText⟩ :=
        inductionHypothesis othersPlain separates.of_cons stopsLater behindText
      refine ⟨last, ?_, lastText⟩
      rw [List.map_cons, ← isKind]
      exact .step step passes

/-- Semicolons are passed up to a cursor at which there is none. -/
theorem pastSemicolons_of_passes
    {number : Nat}
    (passes : Passes cursor (List.replicate number semicolon) behind)
    (avoids : behind.AvoidsSemicolon) :
    cursor.pastSemicolons = behind := by
  induction number generalizing cursor with
  | zero =>
      cases passes
      exact pastSemicolons_of_avoidsSemicolon avoids
  | succ number inductionHypothesis =>
      obtain ⟨lexeme, left, step, isSemicolon, rest⟩ := passes.exists_of_cons
      rw [pastSemicolons_of_semicolon step isSemicolon]
      exact inductionHypothesis rest

/-- A literal is read as the path of an import. -/
private theorem readPath_of_passes
    {quote : Quote}
    {path : Text}
    (passes : Passes cursor [.literal quote path] behind)
    (localName : Option Text) :
    ∃ found,
      cursor.readPath localName = .ok (found, behind) ∧
        found.localName = localName ∧ found.quote = quote ∧ found.path = path := by
  obtain ⟨lexeme, left, step, isLiteral, rest⟩ := passes.exists_of_cons
  cases rest
  exact ⟨_, readPath_of_literal step isLiteral localName, rfl, rfl, rfl⟩

/-- An import is read off its lexemes. -/
theorem readImport_of_passes
    {spec : Spec}
    (passes : Passes cursor spec.kinds behind) :
    ∃ found, cursor.readImport = .ok (found, behind) ∧ found.Says spec := by
  obtain ⟨localName, quote, path, isSpelled⟩ := spec
  cases localName with
  | none =>
      obtain ⟨lexeme, left, step, isLiteral, _⟩ := passes.exists_of_cons
      obtain ⟨found, read, sameName, sameQuote, samePath⟩ := readPath_of_passes passes none
      rw [readImport_of_literal step isLiteral]
      exact ⟨found, read, sameName, sameQuote, samePath⟩
  | some localName =>
      obtain ⟨lexeme, left, step, isName, rest⟩ := passes.exists_of_cons
      obtain ⟨found, read, sameName, sameQuote, samePath⟩ :=
        readPath_of_passes rest (some localName.text)
      have named : cursor.readImport = left.readPath (some localName.text) := by
        cases localName with
        | word name => exact readImport_of_names step (.inl isName)
        | dot => exact readImport_of_names step (.inr ⟨isName, rfl⟩)
      rw [named]
      exact ⟨found, read, sameName, sameQuote, samePath⟩

/-- The imports of a group are read up to its end. -/
theorem readGroup_of_passes
    {items : List (Nat × Spec)}
    {number : Nat}
    (passes :
      Passes cursor
        (behindSemicolons Spec.kinds items ++ (List.replicate number semicolon ++ [.mark ')']))
        behind) :
    ∃ found,
      cursor.readGroup = .ok (found, behind) ∧
        List.Forall₂ Import.Says found (items.map Prod.snd) := by
  induction items generalizing cursor with
  | nil =>
      have closing : Passes cursor (List.replicate number semicolon ++ [.mark ')']) behind := passes
      obtain ⟨middle, first, second⟩ := closing.exists_of_append
      obtain ⟨lexeme, left, step, isClosing, rest⟩ := second.exists_of_cons
      cases rest
      have avoids := avoidsSemicolon_of_next step (ne_of_eq_of_ne isClosing (by decide))
      rw [← pastSemicolons_of_passes first avoids] at step
      exact ⟨[], by rw [readGroup_of_lexeme step, if_pos isClosing], .nil⟩
  | cons item items inductionHypothesis =>
      obtain ⟨before, spec⟩ := item
      have split :
          behindSemicolons Spec.kinds ((before, spec) :: items) =
            List.replicate before semicolon ++
              (spec.kinds ++ behindSemicolons Spec.kinds items) := by
        simp [behindSemicolons]
      rw [split, List.append_assoc, List.append_assoc] at passes
      obtain ⟨start, passesFirst, fromStart⟩ := passes.exists_of_append
      obtain ⟨left, passesSpec, rest⟩ := fromStart.exists_of_append
      obtain ⟨found, read, isSaid⟩ := readImport_of_passes passesSpec
      have avoids := avoidsSemicolon_of_opensImport (opensImport_of_readImport read)
      rw [← pastSemicolons_of_passes passesFirst avoids] at read
      obtain ⟨others, othersRead, othersSaid⟩ := inductionHypothesis rest
      refine ⟨found :: others, ?_, .cons isSaid othersSaid⟩
      rw [readGroup_of_readImport read, othersRead]
      rfl

/-- A declaration is read off its lexemes. -/
theorem readDeclaration_of_passes
    {declaration : Declaration}
    (passes : Passes cursor declaration.kinds behind) :
    ∃ found,
      cursor.readDeclaration = .ok (found, behind) ∧
        List.Forall₂ Import.Says found declaration.specs := by
  cases declaration with
  | single spec =>
      obtain ⟨found, read, isSaid⟩ := readImport_of_passes passes
      rw [readDeclaration_of_opensImport (opensImport_of_readImport read), read]
      exact ⟨[found], rfl, .cons isSaid .nil⟩
  | group specs number =>
      obtain ⟨lexeme, left, step, isOpening, rest⟩ := passes.exists_of_cons
      rw [readDeclaration_of_opening step isOpening]
      exact readGroup_of_passes rest

/-- Neither a semicolon nor another import declaration stands at the cursor. -/
def EndsImports (cursor : Cursor) : Prop :=
  (∃ line, cursor.next = .finished line) ∨
    ∃ lexeme behind,
      cursor.next = .lexeme lexeme behind ∧ lexeme.kind ≠ semicolon ∧ lexeme.kind ≠ importWord

theorem EndsImports.avoidsSemicolon
    (ends : cursor.EndsImports) :
    cursor.AvoidsSemicolon := by
  rcases ends with ⟨line, finished⟩ | ⟨lexeme, behind, step, notSemicolon, _⟩
  · intro shown left same
    cases finished.symm.trans same
  · exact avoidsSemicolon_of_next step notSemicolon

/-- Import declarations are read up to where they end. -/
theorem readImports_of_passes
    {declarations : List (Nat × Declaration)}
    {number : Nat}
    (passes :
      Passes cursor
        (behindSemicolons (fun declaration => importWord :: declaration.kinds) declarations ++
          List.replicate number semicolon)
        last)
    (ends : last.EndsImports) :
    ∃ found,
      cursor.readImports = .ok found ∧
        List.Forall₂ Import.Says found
          (declarations.flatMap fun (_, declaration) => declaration.specs) := by
  induction declarations generalizing cursor with
  | nil =>
      have passed := pastSemicolons_of_passes passes ends.avoidsSemicolon
      refine ⟨[], ?_, .nil⟩
      rcases ends with ⟨line, finished⟩ | ⟨lexeme, behind, step, _, isOther⟩
      · rw [← passed] at finished
        exact readImports_of_finished finished
      · rw [← passed] at step
        rw [readImports_of_lexeme step, if_neg isOther]
  | cons item declarations inductionHypothesis =>
      obtain ⟨before, declaration⟩ := item
      have split :
          behindSemicolons (fun declaration => importWord :: declaration.kinds)
              ((before, declaration) :: declarations) =
            List.replicate before semicolon ++
              (importWord :: (declaration.kinds ++
                behindSemicolons (fun declaration => importWord :: declaration.kinds)
                  declarations)) := by
        simp [behindSemicolons]
      rw [split, List.append_assoc, List.cons_append, List.append_assoc] at passes
      obtain ⟨start, passesFirst, fromStart⟩ := passes.exists_of_append
      obtain ⟨lexeme, inside, step, isImport, fromInside⟩ := fromStart.exists_of_cons
      obtain ⟨left, passesDeclaration, rest⟩ := fromInside.exists_of_append
      have avoids := avoidsSemicolon_of_next step (ne_of_eq_of_ne isImport (by decide))
      rw [← pastSemicolons_of_passes passesFirst avoids] at step
      obtain ⟨found, declared, isSaid⟩ := readDeclaration_of_passes passesDeclaration
      obtain ⟨others, othersRead, othersSaid⟩ := inductionHypothesis rest
      refine ⟨found ++ others, ?_, ?_⟩
      · rw [readImports_of_lexeme step, if_pos isImport, declared]
        simp only [Except.bind, othersRead]
        rfl
      · rw [List.flatMap_cons]
        exact List.rel_append isSaid othersSaid

/-- Where a header ends, the import declarations end. -/
theorem endsImports_of_endsHeader
    {tail : Text}
    (ends : EndsHeader tail)
    (text : cursor.text = tail) :
    cursor.EndsImports := by
  cases ends with
  | finished isTrivia =>
      rw [← text] at isTrivia
      exact .inl (next_of_isTrivia isTrivia)
  | lexeme isTrivia isSpelled stops notSemicolon notImport =>
      obtain ⟨lexeme, left, step, rfl, _⟩ := next_of_isSpelled isTrivia isSpelled stops text
      exact .inr ⟨lexeme, left, step, notSemicolon, notImport⟩

/-- A byte order mark is passed over where it stands in front of another text. -/
theorem text_ofText
    {front text : Text}
    (isFront : front = [] ∨ front = byteOrderMark)
    (unmarked : ∀ first ∈ text.head?, first ≠ Char.ofNat 0xFEFF) :
    (Cursor.ofText (front ++ text)).text = text := by
  rcases isFront with rfl | rfl
  · cases text with
    | nil => rfl
    | cons first rest => rw [List.nil_append, ofText, if_neg (unmarked first rfl)]
  · rw [byteOrderMark, List.singleton_append, ofText, if_pos rfl]

end Cursor

namespace Outline

variable {outline : Outline}

private theorem isPlain_of_mem_spec
    {spec : Spec}
    {kind : Kind}
    (member : kind ∈ spec.kinds) :
    kind.IsPlain := by
  obtain ⟨localName, quote, path, isSpelled⟩ := spec
  simp only [Spec.kinds, List.mem_append, Option.mem_toList, Option.map_eq_some_iff,
    List.mem_singleton] at member
  rcases member with ⟨name, _, rfl⟩ | rfl
  · cases name with
    | word name => exact .word name
    | dot => exact .mark (by decide)
  · exact .literal isSpelled

private theorem isPlain_of_mem_semicolons
    {number : Nat}
    {kind : Kind}
    (member : kind ∈ List.replicate number semicolon) :
    kind.IsPlain := by
  rw [List.eq_of_mem_replicate member]
  exact .mark (by decide)

private theorem isPlain_of_mem_behindSemicolons
    {kinds : Item → List Kind}
    {items : List (Nat × Item)}
    {kind : Kind}
    (arePlain : ∀ item, ∀ kind ∈ kinds item, kind.IsPlain)
    (member : kind ∈ behindSemicolons kinds items) :
    kind.IsPlain := by
  obtain ⟨⟨number, item⟩, _, within⟩ := List.mem_flatMap.mp member
  rcases List.mem_append.mp within with isSemicolon | ofItem
  · exact isPlain_of_mem_semicolons isSemicolon
  · exact arePlain item kind ofItem

private theorem isPlain_of_mem_declaration
    {declaration : Declaration}
    {kind : Kind}
    (member : kind ∈ declaration.kinds) :
    kind.IsPlain := by
  cases declaration with
  | single spec => exact isPlain_of_mem_spec member
  | group specs number =>
      simp only [Declaration.kinds, List.mem_cons, List.mem_append, List.not_mem_nil,
        or_false] at member
      rcases member with rfl | ofSpecs | isSemicolon | rfl
      · exact .mark (by decide)
      · exact isPlain_of_mem_behindSemicolons (fun _ _ => isPlain_of_mem_spec) ofSpecs
      · exact isPlain_of_mem_semicolons isSemicolon
      · exact .mark (by decide)

/-- Headers are made of plain lexemes. -/
theorem isPlain_of_mem_kinds
    {kind : Kind}
    (member : kind ∈ outline.kinds) :
    kind.IsPlain := by
  simp only [kinds, List.mem_cons, List.mem_append] at member
  rcases member with rfl | rfl | ofDeclarations | isSemicolon
  · exact .word ⟨'p', "ackage".toList, by decide +kernel, List.all_eq_true.mp (by decide +kernel)⟩
  · exact .word outline.package
  · refine isPlain_of_mem_behindSemicolons (fun declaration kind inDeclaration => ?_) ofDeclarations
    rcases List.mem_cons.mp inDeclaration with rfl | ofDeclaration
    · exact .word ⟨'i', "mport".toList, by decide +kernel, List.all_eq_true.mp (by decide +kernel)⟩
    · exact isPlain_of_mem_declaration ofDeclaration
  · exact isPlain_of_mem_semicolons isSemicolon

/-- A layout starts with white space, with a comment or with a word. -/
private theorem unmarked_layout
    (layout : Layout outline)
    (tail : Text) :
    ∀ first ∈ (layout.text ++ tail).head?, first ≠ Char.ofNat 0xFEFF := by
  obtain ⟨⟨trivia, kind⟩, others, split, isPackage, _⟩ := List.map_eq_cons_iff.mp layout.spells
  have whole :
      layout.text ++ tail = trivia.text ++ (kind.spelling ++ (written others ++ tail)) := by
    rw [Layout.text, split]
    simp [written]
  rw [whole]
  rintro first opens rfl
  rcases Trivia.opens_cases opens with ⟨_, opensKind⟩ | blank | isSlash
  · cases isPackage
    have isLetter : 'p' = Char.ofNat 0xFEFF := Option.some.inj opensKind
    exact absurd isLetter (by decide)
  · exact absurd blank (by decide)
  · exact absurd isSlash (by decide)

/--
A source that starts with a layout of an outline is read, with the package and the imports of the
outline in order, if the header ends there and its last word does not go on.
-/
theorem exists_header_of_layout
    (outline : Outline)
    (layout : Layout outline)
    {front tail : Text}
    (isFront : front = [] ∨ front = byteOrderMark)
    (ends : EndsHeader tail)
    (stops : layout.StopsBefore tail) :
    ∃ header,
      Header.ofText (front ++ layout.text ++ tail) = .ok header ∧
        header.package = outline.package.text ∧
        List.Forall₂ Import.Says header.imports outline.specs := by
  have arePlain : ∀ lexeme ∈ layout.lexemes, lexeme.2.IsPlain := by
    intro lexeme member
    have isKind : lexeme.2 ∈ outline.kinds := by
      rw [← layout.spells]
      exact List.mem_map_of_mem member
    exact isPlain_of_mem_kinds isKind
  have starts := Cursor.text_ofText isFront (unmarked_layout layout tail)
  obtain ⟨last, passes, lastText⟩ :=
    Cursor.passes_written arePlain layout.separates stops starts
  rw [layout.spells] at passes
  obtain ⟨first, left, step, isPackage, fromName⟩ := passes.exists_of_cons
  obtain ⟨second, behind, named, isName, fromDeclarations⟩ := fromName.exists_of_cons
  have clause := Cursor.readPackage_of_next step isPackage named isName
  obtain ⟨found, declared, areSaid⟩ :=
    Cursor.readImports_of_passes fromDeclarations
      (Cursor.endsImports_of_endsHeader ends lastText)
  refine ⟨{ package := outline.package.text, imports := found }, ?_, rfl, areSaid⟩
  rw [List.append_assoc, Header.ofText, clause]
  simp only [declared]

/-- Nothing between two lexemes. -/
private def nothing : Trivia where
  text := []
  isTrivia := .nil

/-- A blank between two lexemes. -/
private def blank : Trivia where
  text := [' ']
  isTrivia := .blank (by decide) .nil

/-- A comment up to the end of its line, which looks like an import. -/
private def lineComment : Trivia where
  text := "// import \"c\"\n".toList
  isTrivia := @IsTrivia.lineComment " import \"c\"".toList [] (by decide) .nil

/-- A comment that a star stands at the end of. -/
private def blockComment : Trivia where
  text := "/* x **/".toList
  isTrivia := @IsTrivia.blockComment " x *".toList [] (by decide) .nil

/-- A named import, and a group of an import under a dot and one in the raw style. -/
private def mixedOutline : Outline where
  package := ⟨'p', [], by decide +kernel, List.forall_mem_nil _⟩
  declarations :=
    [(1, .single
        { localName := some (.word ⟨'_', [], by decide +kernel, List.forall_mem_nil _⟩)
          path := "m.io/a".toList
          isSpelled := by decide }),
      (0, .group
        [(0, { localName := some .dot, path := "m.io/\"b".toList, isSpelled := by decide }),
          (2, { quote := .raw, path := "m.io\n/c".toList, isSpelled := by decide })]
        1)]

/-- That outline with comments between its lexemes, and with nothing where that is possible. -/
private def mixedLayout : Layout mixedOutline where
  lexemes :=
    [(lineComment, packageWord), (blockComment, .word ['p']), (nothing, semicolon),
      (nothing, importWord), (blank, .word ['_']), (nothing, .literal .interpreted "m.io/a".toList),
      (nothing, importWord), (nothing, .mark '('), (lineComment, .mark '.'),
      (nothing, .literal .interpreted "m.io/\"b".toList), (blockComment, semicolon),
      (nothing, semicolon), (nothing, .literal .raw "m.io\n/c".toList), (nothing, semicolon),
      (blank, .mark ')')]
  spells := by rfl
  separates := by decide

/-- The mixed layout is read behind a byte order mark and in front of what looks like an import. -/
theorem exists_header_of_layout_mixed :
    ∃ header,
      Header.ofText
          (byteOrderMark ++ mixedLayout.text ++ "// import \"c\"\nimports ( \"d".toList) =
        .ok header ∧
        header.package = ['p'] ∧
        List.Forall₂ Import.Says header.imports mixedOutline.specs := by
  have stops : (Kind.word "imports".toList).StopsBefore " ( \"d".toList := by
    intro character opens
    cases opens
    decide +kernel
  refine exists_header_of_layout mixedOutline mixedLayout (.inr rfl) ?_ ?_
  · exact
      @EndsHeader.lexeme lineComment.text "imports".toList " ( \"d".toList (.word "imports".toList)
        lineComment.isTrivia
        (.word (by decide +kernel) (List.all_eq_true.mp (by decide +kernel))) stops (by decide)
        (by decide)
  · intro last isLast
    cases isLast
    exact fun isSlash => absurd isSlash (by decide)

/-- A header that names its package and imports nothing. -/
private def shortOutline : Outline where
  package := ⟨'p', [], by decide +kernel, List.forall_mem_nil _⟩

private def shortLayout : Layout shortOutline where
  lexemes := [(nothing, packageWord), (blank, .word ['p'])]
  spells := by rfl
  separates := by decide

/-- A digit is no word, but directly behind the package name it goes on with that. -/
theorem digit_goes_on_with_package :
    ¬∀ (outline : Outline) (layout : Layout outline) (tail : Text),
        EndsHeader tail →
          (∀ first ∈ tail.head?, startsWord first = false) →
            ∃ header,
              Header.ofText (layout.text ++ tail) = .ok header ∧
                header.package = outline.package.text := by
  intro isRead
  have ends : EndsHeader ['1'] :=
    @EndsHeader.lexeme [] ['1'] [] (.mark '1') .nil
      (.mark (by decide) (by decide +kernel) (by rintro (_ | _) <;> decide))
      (fun isSlash => absurd isSlash (by decide)) (by decide) (by decide)
  have noWord : ∀ first ∈ ['1'].head?, startsWord first = false := by
    intro first opens
    cases opens
    decide +kernel
  obtain ⟨header, read, package⟩ := isRead _ shortLayout ['1'] ends noWord
  have joined :
      Header.ofText (shortLayout.text ++ ['1']) =
        .ok { package := ['p', '1'], imports := [] } := by
    decide +kernel
  cases joined.symm.trans read
  cases package

end Outline

end ModuleUpdate.Source
