import ModuleUpdate.Proofs.Source.Edits

namespace ModuleUpdate

namespace Source

/-!
# Written lexemes

How white space, comments and lexemes are written, said without a reader.  A reader finds each of
them again, whatever stands behind it, as long as that does not go on with the lexeme: a word ends
in front of the first character that does not belong to one, and two slashes, or a slash and an
asterisk, open a comment.
-/

/-- White space, line comments up to their line feed, and block comments up to their end. -/
inductive IsTrivia : Text → Prop where
  | nil : IsTrivia []
  | blank {character : Char} {rest : Text} :
      Text.isBlank character = true → IsTrivia rest → IsTrivia (character :: rest)
  | lineComment {comment rest : Text} :
      '\n' ∉ comment → IsTrivia rest → IsTrivia ('/' :: '/' :: (comment ++ '\n' :: rest))
  | blockComment {comment rest : Text} :
      ¬['*', '/'] <:+: comment →
        IsTrivia rest → IsTrivia ('/' :: '*' :: (comment ++ '*' :: '/' :: rest))

private theorem after_nil (skipped : Skipped) :
    skipped.after [] = skipped := by
  cases skipped <;> rfl

private theorem after_after (earlier later : Text) (skipped : Skipped) :
    (skipped.after later).after earlier = skipped.after (earlier ++ later) := by
  cases skipped <;> simp [Skipped.after]

private theorem skipTrivia_blank
    {character : Char}
    (blank : Text.isBlank character = true)
    (rest : Text) :
    skipTrivia (character :: rest) = (skipTrivia rest).after [character] := by
  have notSlash : character ≠ '/' := by
    rintro rfl
    cases blank
  rw [skipTrivia, if_pos blank]
  · exact fun _ isSlash => absurd isSlash notSlash
  · exact fun _ isSlash => absurd isSlash notSlash

/-- A block comment is read up to the first end in it. -/
private theorem readBlockComment?_of_not_infix
    {comment : Text}
    (isOpen : ¬['*', '/'] <:+: comment)
    (behind : Text) :
    readBlockComment? (comment ++ '*' :: '/' :: behind) = some (comment ++ ['*', '/'], behind) := by
  induction comment with
  | nil => rfl
  | cons character rest inductionHypothesis =>
      have restOpen : ¬['*', '/'] <:+: rest :=
        fun inRest => isOpen (inRest.trans (List.suffix_cons character rest).isInfix)
      rw [List.cons_append, readBlockComment?, inductionHypothesis restOpen]
      · rfl
      · rintro others rfl same
        cases rest with
        | nil => cases same
        | cons second following =>
            cases same
            exact isOpen ⟨[], following, rfl⟩

/-- Trivia is skipped as a whole. -/
theorem skipTrivia_of_isTrivia
    {trivia : Text}
    (isTrivia : IsTrivia trivia)
    (text : Text) :
    skipTrivia (trivia ++ text) = (skipTrivia text).after trivia := by
  induction isTrivia with
  | nil => exact (after_nil _).symm
  | blank blank _ inductionHypothesis =>
      rw [List.cons_append, skipTrivia_blank blank, inductionHypothesis, after_after]
      rfl
  | @lineComment comment rest oneLine _ inductionHypothesis =>
      have stays : ∀ character ∈ comment, staysOnLine character = true := by
        intro character member
        simp only [staysOnLine, bne_iff_ne]
        rintro rfl
        exact oneLine member
      have ends :
          ∀ character ∈ ('\n' :: (rest ++ text)).head?, staysOnLine character = false := by
        simp [staysOnLine]
      obtain ⟨line, left⟩ := Text.takeWhile_of_stops stays ends
      have whole :
          '/' :: '/' :: (comment ++ '\n' :: rest) ++ text =
            '/' :: '/' :: (comment ++ '\n' :: (rest ++ text)) := by
        simp
      rw [whole, skipTrivia, line, left, skipTrivia_blank Text.isBlank_lineFeed,
        inductionHypothesis, after_after, after_after]
      simp
  | @blockComment comment rest isOpen _ inductionHypothesis =>
      have read := readBlockComment?_of_not_infix isOpen (rest ++ text)
      have whole :
          '/' :: '*' :: (comment ++ '*' :: '/' :: rest) ++ text =
            '/' :: '*' :: (comment ++ '*' :: '/' :: (rest ++ text)) := by
        simp
      rw [whole, skipTrivia]
      split
      · next found =>
          rw [read, Option.some_inj, Prod.mk.injEq] at found
          obtain ⟨rfl, rfl⟩ := found
          rw [inductionHypothesis, after_after]
          simp
      · next nothing =>
          rw [read] at nothing
          cases nothing

/-- Nothing is skipped in front of a visible character that opens no comment. -/
private theorem skipTrivia_visible
    {character : Char}
    {rest : Text}
    (visible : Text.isBlank character = false)
    (noComment : character = '/' → ∀ second ∈ rest.head?, second ≠ '/' ∧ second ≠ '*') :
    skipTrivia (character :: rest) = .clear [] (character :: rest) := by
  rw [skipTrivia, visible]
  · rfl
  · rintro following isSlash rfl
    exact (noComment isSlash '/' rfl).1 rfl
  · rintro following isSlash rfl
    exact (noComment isSlash '*' rfl).2 rfl

/-- A character that may start a word may go on one as well. -/
theorem continuesWord_of_startsWord
    {character : Char}
    (starts : startsWord character = true) :
    continuesWord character = true := by
  simp only [startsWord, continuesWord, Text.isAlphanumeric, Bool.or_eq_true] at starts ⊢
  exact starts.imp_right .inl

/-- White space ends a word. -/
theorem continuesWord_of_isBlank
    {character : Char}
    (blank : Text.isBlank character = true) :
    continuesWord character = false := by
  have notUnderscore : character ≠ '_' := by
    rintro rfl
    cases blank
  simp [continuesWord, Text.isAlphanumeric_of_isBlank blank, notUnderscore]

namespace Kind

/-- How a lexeme is written.  Any other visible character is a mark of its own. -/
inductive IsSpelled : Kind → Text → Prop where
  | word {first : Char} {others : Text} :
      startsWord first = true →
        (∀ character ∈ others, continuesWord character = true) →
          IsSpelled (.word (first :: others)) (first :: others)
  | interpreted {inside : Text} :
      IsInside inside →
        IsSpelled (.literal .interpreted (Text.unescape inside)) ('"' :: (inside ++ ['"']))
  | raw {value : Text} :
      Quote.mark .raw ∉ value →
        IsSpelled (.literal .raw value) (Quote.mark .raw :: (value ++ [Quote.mark .raw]))
  | mark {character : Char} :
      Text.isBlank character = false →
        startsWord character = false →
          (∀ quote, character ≠ Quote.mark quote) → IsSpelled (.mark character) [character]

/-- A text that does not go on with a lexeme in front of it, nor makes a comment with it. -/
def StopsBefore (kind : Kind) (behind : Text) : Prop :=
  match kind with
  | .word _ => ∀ character ∈ behind.head?, continuesWord character = false
  | .literal _ _ => True
  | .mark character =>
      character = '/' → ∀ second ∈ behind.head?, second ≠ '/' ∧ second ≠ '*'

end Kind

/-- A literal is written by its style. -/
theorem isSpelled_literal
    {quote : Quote}
    {value : Text}
    (spelled : quote.Spells value) :
    (Kind.literal quote value).IsSpelled (quote.literal value) := by
  cases quote with
  | interpreted =>
      have written : Kind.IsSpelled _ _ := .interpreted (isInside_escape spelled)
      rwa [Text.unescape_escape] at written
  | raw => exact .raw spelled

/-- A written lexeme is read in front of any text that does not go on with it. -/
theorem readLexeme_of_isSpelled
    {kind : Kind}
    {spelling behind : Text}
    (isSpelled : kind.IsSpelled spelling)
    (stops : kind.StopsBefore behind) :
    ∃ character rest,
      spelling ++ behind = character :: rest ∧
        skipTrivia (character :: rest) = .clear [] (character :: rest) ∧
        readLexeme character rest = .lexeme kind spelling behind := by
  cases isSpelled with
  | @word first others starts continues =>
      have visible : Text.isBlank first = false := by
        rw [Bool.eq_false_iff]
        intro blank
        have goesOn := continuesWord_of_startsWord starts
        rw [continuesWord_of_isBlank blank] at goesOn
        cases goesOn
      have notSlash : first ≠ '/' := by
        rintro rfl
        exact absurd starts (by decide +kernel)
      obtain ⟨word, left⟩ := Text.takeWhile_of_stops continues stops
      refine ⟨first, others ++ behind, rfl,
        skipTrivia_visible visible fun isSlash => absurd isSlash notSlash, ?_⟩
      rw [readLexeme, if_pos starts, word, left]
  | @interpreted inside isInside =>
      exact ⟨Quote.mark .interpreted, inside ++ '"' :: behind, by simp [Quote.mark],
        skipTrivia_visible (by decide) fun isSlash => absurd isSlash (by decide),
        readLexeme_of_isInside isInside behind⟩
  | @raw value markless =>
      have spelled : Quote.Spells .raw value := markless
      obtain ⟨rest, whole, read⟩ := readLexeme_literal spelled behind
      exact ⟨Quote.mark .raw, rest, whole,
        skipTrivia_visible (by decide) fun isSlash => absurd isSlash (by decide), read⟩
  | @mark character visible notWord notQuote =>
      refine ⟨character, behind, rfl, skipTrivia_visible visible stops, ?_⟩
      rw [readLexeme, if_neg (Bool.eq_false_iff.mp notWord), if_neg (notQuote .interpreted),
        if_neg (notQuote .raw)]

namespace Cursor

variable {cursor : Cursor}

/-- A written lexeme behind trivia is stepped over. -/
theorem next_of_isSpelled
    {trivia spelling behind : Text}
    {kind : Kind}
    (isTrivia : IsTrivia trivia)
    (isSpelled : kind.IsSpelled spelling)
    (stops : kind.StopsBefore behind)
    (text : cursor.text = trivia ++ spelling ++ behind) :
    ∃ lexeme left,
      cursor.next = .lexeme lexeme left ∧ lexeme.kind = kind ∧ left.text = behind := by
  obtain ⟨character, rest, whole, visible, read⟩ := readLexeme_of_isSpelled isSpelled stops
  have skipped : skipTrivia cursor.text = .clear trivia (character :: rest) := by
    rw [text, List.append_assoc, whole, skipTrivia_of_isTrivia isTrivia, visible, Skipped.after,
      List.append_nil]
  obtain ⟨lexeme, left, step, isKind, isText, _⟩ := next_of_readLexeme skipped read
  exact ⟨lexeme, left, step, isKind, isText⟩

/-- A source is finished where only trivia stands. -/
theorem next_of_isTrivia
    (isTrivia : IsTrivia cursor.text) :
    ∃ line, cursor.next = .finished line := by
  have skipped := skipTrivia_of_isTrivia isTrivia []
  rw [List.append_nil, skipTrivia, Skipped.after, List.append_nil] at skipped
  exact ⟨_, by simp only [next, skipped]; rfl⟩

end Cursor

end Source

end ModuleUpdate
