import Mathlib.Data.List.TakeWhile
import ModuleUpdate.Proofs.Text
import ModuleUpdate.Source.Cursor

namespace ModuleUpdate

/--
The values that a style writes as a literal that is read as them.  An interpreted literal may spell
a line feed by an escape, but none is written so: a line feed is written as it stands.
-/
def Quote.Spells : Quote → Text → Prop
  | .interpreted, value => '\n' ∉ value
  | .raw, value => Quote.mark .raw ∉ value

instance (quote : Quote) (value : Text) : Decidable (quote.Spells value) :=
  match quote with
  | .interpreted => inferInstanceAs (Decidable ('\n' ∉ value))
  | .raw => inferInstanceAs (Decidable (Quote.mark .raw ∉ value))

namespace Source

/-!
# Lexemes with another text behind them

What a text starts with is read without a look at what is behind it, except for the character
that ends a word or follows a slash.  So trivia and lexemes are read alike in front of any other
text that starts with the same character.
-/

/-- A block comment is not empty. -/
private theorem ne_nil_of_readBlockComment?
    {text comment behind : Text}
    (found : readBlockComment? text = some (comment, behind)) :
    comment ≠ [] := by
  unfold readBlockComment? at found
  split at found
  · cases found
  · cases found
    simp
  · obtain ⟨_, _, same⟩ := Option.map_eq_some_iff.mp found
    cases same
    simp

/-- A block comment is read alike whatever stands behind it. -/
theorem readBlockComment?_behind
    {text comment behind : Text}
    (found : readBlockComment? text = some (comment, behind))
    (other : Text) :
    readBlockComment? (comment ++ other) = some (comment, other) := by
  fun_induction readBlockComment? text generalizing comment with
  | case1 => cases found
  | case2 rest =>
      cases found
      rfl
  | case3 character rest notEnd inductionHypothesis =>
      obtain ⟨⟨inner, left⟩, within, same⟩ := Option.map_eq_some_iff.mp found
      cases same
      have read := inductionHypothesis within
      have whole := readBlockComment?_append within
      obtain ⟨first, others, rfl⟩ :=
        List.exists_cons_of_ne_nil (ne_nil_of_readBlockComment? within)
      rw [List.cons_append, readBlockComment?, read]
      · rfl
      · intro later isStar same
        rw [List.cons_append, List.cons.injEq] at same
        apply notEnd (others ++ _) isStar
        rw [← whole, same.1]
        rfl

/-- A run of characters ends alike in front of the same character. -/
private theorem takeWhile_behind
    {keeps : Char → Bool}
    {text other : Text}
    (sameHead : other.head? = (text.dropWhile keeps).head?) :
    (text.takeWhile keeps ++ other).takeWhile keeps = text.takeWhile keeps ∧
      (text.takeWhile keeps ++ other).dropWhile keeps = other := by
  refine Text.takeWhile_of_stops (fun character member => List.mem_takeWhile_imp member) ?_
  intro first isFirst
  have ends := List.head?_dropWhile_not keeps text
  rw [← sameHead, isFirst] at ends
  simpa using ends

private theorem after_eq_clear
    {earlier trivia behind : Text}
    {skipped : Skipped}
    (isClear : skipped.after earlier = .clear trivia behind) :
    ∃ later, skipped = .clear later behind ∧ trivia = earlier ++ later := by
  cases skipped with
  | clear later left =>
      simp only [Skipped.after, Skipped.clear.injEq] at isClear
      exact ⟨later, by rw [isClear.2], isClear.1.symm⟩
  | openComment later => cases isClear

/-- Trivia is read alike in front of the same character, behind a slash of the same two. -/
theorem skipTrivia_behind
    {text trivia rest other : Text}
    {character : Char}
    (skipped : skipTrivia text = .clear trivia (character :: rest))
    (sameHead : character = '/' → other.head? = rest.head?) :
    skipTrivia (trivia ++ character :: other) = .clear trivia (character :: other) := by
  fun_induction skipTrivia text generalizing trivia with
  | case1 => cases skipped
  | case2 following inductionHypothesis =>
      obtain ⟨later, inner, rfl⟩ := after_eq_clear skipped
      have whole := skipTrivia_append inner
      have sameStart : (later ++ character :: other).head? =
          (following.dropWhile staysOnLine).head? := by
        rw [← whole]
        cases later <;> rfl
      obtain ⟨comment, left⟩ := takeWhile_behind sameStart
      have text : '/' :: '/' :: following.takeWhile staysOnLine ++ later ++ character :: other =
          '/' :: '/' :: (following.takeWhile staysOnLine ++ (later ++ character :: other)) := by
        simp
      rw [text, skipTrivia, comment, left, inductionHypothesis inner]
      rfl
  | case3 following comment left found inductionHypothesis =>
      obtain ⟨later, inner, rfl⟩ := after_eq_clear skipped
      have again := readBlockComment?_behind found (later ++ character :: other)
      have text : '/' :: '*' :: comment ++ later ++ character :: other =
          '/' :: '*' :: (comment ++ (later ++ character :: other)) := by
        simp
      rw [text, skipTrivia]
      split
      · next foundComment foundLeft isFound =>
          rw [again, Option.some_inj, Prod.mk.injEq] at isFound
          obtain ⟨rfl, rfl⟩ := isFound
          rw [inductionHypothesis inner]
          rfl
      · next nothing =>
          rw [again] at nothing
          cases nothing
  | case4 => cases skipped
  | case5 first following notLine notBlock blank inductionHypothesis =>
      obtain ⟨later, inner, rfl⟩ := after_eq_clear skipped
      have notSlash : first ≠ '/' := by
        rintro rfl
        cases blank
      rw [List.singleton_append, List.cons_append, skipTrivia, if_pos blank,
        inductionHypothesis inner]
      · rfl
      · exact fun _ isSlash => absurd isSlash notSlash
      · exact fun _ isSlash => absurd isSlash notSlash
  | case6 first following notLine notBlock visible =>
      cases skipped
      rw [List.nil_append, skipTrivia, if_neg visible]
      · rintro behind rfl rfl
        have sameStart := sameHead rfl
        cases rest with
        | nil => cases sameStart
        | cons second others =>
            cases sameStart
            exact notLine others rfl rfl
      · rintro behind rfl rfl
        have sameStart := sameHead rfl
        cases rest with
        | nil => cases sameStart
        | cons second others =>
            cases sameStart
            exact notBlock others rfl rfl

/-- An interpreted literal is read alike whatever stands behind it. -/
private theorem readInterpreted?_behind
    {text inside behind : Text}
    (found : readInterpreted? text = some (inside, behind))
    (other : Text) :
    readInterpreted? (inside ++ '"' :: other) = some (inside, other) := by
  fun_induction readInterpreted? text generalizing inside with
  | case1 => cases found
  | case2 =>
      cases found
      rfl
  | case3 => cases found
  | case4 character rest inductionHypothesis =>
      obtain ⟨⟨inner, left⟩, within, same⟩ := Option.map_eq_some_iff.mp found
      cases same
      rw [List.cons_append, List.cons_append, readInterpreted?, inductionHypothesis within]
      rfl
  | case5 character rest notQuote notLineFeed notEscape inductionHypothesis =>
      obtain ⟨⟨inner, left⟩, within, same⟩ := Option.map_eq_some_iff.mp found
      cases same
      rw [List.cons_append, readInterpreted?, inductionHypothesis within]
      · rfl
      · exact notQuote
      · exact notLineFeed
      · intro escaped behind isEscape same
        have whole := readInterpreted?_append within
        cases rest with
        | nil => simp at whole
        | cons first others => exact notEscape first others isEscape rfl

/-- A raw literal is read alike whatever stands behind it. -/
private theorem readRaw?_behind
    {text inside behind : Text}
    (found : readRaw? text = some (inside, behind))
    (other : Text) :
    readRaw? (inside ++ Quote.mark .raw :: other) = some (inside, other) := by
  fun_induction readRaw? text generalizing inside with
  | case1 => cases found
  | case2 =>
      cases found
      rfl
  | case3 character rest notMark inductionHypothesis =>
      obtain ⟨⟨inner, left⟩, within, same⟩ := Option.map_eq_some_iff.mp found
      cases same
      rw [List.cons_append, readRaw?, if_neg notMark, inductionHypothesis within]
      rfl

/-- A lexeme is read alike in front of the same character. -/
theorem readLexeme_behind
    {character : Char}
    {rest spelling behind other : Text}
    {kind : Kind}
    (read : readLexeme character rest = .lexeme kind spelling behind)
    (sameHead : other.head? = behind.head?) :
    ∃ others,
      spelling ++ other = character :: others ∧
        readLexeme character others = .lexeme kind spelling other := by
  simp only [readLexeme] at read ⊢
  split at read
  · next isWord =>
      cases read
      obtain ⟨word, left⟩ := takeWhile_behind sameHead
      refine ⟨rest.takeWhile continuesWord ++ other, rfl, ?_⟩
      rw [if_pos isWord, word, left]
  · next noWord =>
      split at read
      · next isMark =>
          split at read
          · next inside _ found =>
              cases read
              refine ⟨inside ++ [character] ++ other, by simp, ?_⟩
              have again := readInterpreted?_behind found other
              rw [if_neg noWord, if_pos isMark, isMark, List.append_assoc, List.singleton_append,
                Quote.mark, again]
          · cases read
      · next notInterpreted =>
          split at read
          · next isMark =>
              split at read
              · next inside _ found =>
                  cases read
                  refine ⟨inside ++ [character] ++ other, by simp, ?_⟩
                  have again := readRaw?_behind found other
                  rw [if_neg noWord, if_neg notInterpreted, if_pos isMark, isMark,
                    List.append_assoc, List.singleton_append, again]
              · cases read
          · next notRaw =>
              cases read
              exact ⟨other, rfl, by rw [if_neg noWord, if_neg notInterpreted, if_neg notRaw]⟩

/-- The inside of an interpreted literal, in which a backslash takes the next character along. -/
inductive IsInside : Text → Prop where
  | nil : IsInside []
  | escaped (character : Char) {rest : Text} :
      IsInside rest → IsInside ('\\' :: character :: rest)
  | plain {character : Char} {rest : Text} :
      character ≠ '"' → character ≠ '\n' → character ≠ '\\' →
        IsInside rest → IsInside (character :: rest)

/-- What is read up to the closing quote is the inside of a literal. -/
theorem isInside_of_readInterpreted?
    {text inside behind : Text}
    (found : readInterpreted? text = some (inside, behind)) :
    IsInside inside := by
  fun_induction readInterpreted? text generalizing inside with
  | case1 => cases found
  | case2 =>
      cases found
      exact .nil
  | case3 => cases found
  | case4 character rest inductionHypothesis =>
      obtain ⟨⟨inner, left⟩, within, same⟩ := Option.map_eq_some_iff.mp found
      cases same
      exact .escaped character (inductionHypothesis within)
  | case5 character rest notQuote notLineFeed notEscape inductionHypothesis =>
      obtain ⟨⟨inner, left⟩, within, same⟩ := Option.map_eq_some_iff.mp found
      cases same
      refine .plain notQuote notLineFeed ?_ (inductionHypothesis within)
      have whole := readInterpreted?_append within
      intro isEscape
      cases rest with
      | nil => simp at whole
      | cons first others => exact notEscape first others isEscape rfl

/-- The inside of an interpreted literal is read up to the closing quote. -/
theorem readInterpreted?_of_isInside
    {inside : Text}
    (isInside : IsInside inside)
    (behind : Text) :
    readInterpreted? (inside ++ '"' :: behind) = some (inside, behind) := by
  induction isInside with
  | nil => rfl
  | escaped character _ inductionHypothesis =>
      rw [List.cons_append, List.cons_append, readInterpreted?, inductionHypothesis]
      rfl
  | plain notQuote notLineFeed notEscape _ inductionHypothesis =>
      rw [List.cons_append, readInterpreted?, inductionHypothesis]
      · rfl
      · exact notQuote
      · exact notLineFeed
      · exact fun _ _ isEscape => absurd isEscape notEscape

/-- A value on one line is escaped to the inside of a literal. -/
theorem isInside_escape
    {value : Text}
    (onOneLine : '\n' ∉ value) :
    IsInside (Text.escape value) := by
  induction value with
  | nil => exact .nil
  | cons character rest inductionHypothesis =>
      rw [List.mem_cons, not_or] at onOneLine
      have isInside := inductionHypothesis onOneLine.2
      by_cases special : character = '\\' ∨ character = '"'
      · rw [Text.escape_cons_of_special special]
        exact .escaped character isInside
      · rw [Text.escape_cons_of_plain special]
        rw [not_or] at special
        exact .plain special.2 (Ne.symm onOneLine.1) special.1 isInside

/-- A line feed is written as it is, which ends an interpreted literal too early. -/
private theorem readInterpreted?_escape_of_lineFeed
    {value : Text}
    (hasLineFeed : '\n' ∈ value)
    (behind : Text) :
    readInterpreted? (Text.escape value ++ behind) = none := by
  induction value with
  | nil => cases hasLineFeed
  | cons character rest inductionHypothesis =>
      by_cases isLineFeed : character = '\n'
      · have plain : ¬(character = '\\' ∨ character = '"') := by
          rw [isLineFeed]
          decide
        rw [Text.escape_cons_of_plain plain, List.cons_append, isLineFeed]
        rfl
      · have later : '\n' ∈ rest := by
          rcases List.mem_cons.mp hasLineFeed with same | later
          · exact absurd same.symm isLineFeed
          · exact later
        have stops := inductionHypothesis later
        by_cases special : character = '\\' ∨ character = '"'
        · rw [Text.escape_cons_of_special special, List.cons_append, List.cons_append,
            readInterpreted?, stops]
          rfl
        · rw [Text.escape_cons_of_plain special]
          rw [not_or] at special
          rw [List.cons_append, readInterpreted?, stops]
          · rfl
          · exact special.2
          · exact isLineFeed
          · exact fun _ _ isEscape => absurd isEscape special.1

/-- A text without the mark of raw literals is read up to the mark behind it. -/
private theorem readRaw?_append_mark
    {value : Text}
    (markless : Quote.mark .raw ∉ value)
    (behind : Text) :
    readRaw? (value ++ Quote.mark .raw :: behind) = some (value, behind) := by
  induction value with
  | nil => rfl
  | cons character rest inductionHypothesis =>
      rw [List.mem_cons, not_or] at markless
      rw [List.cons_append, readRaw?, if_neg (Ne.symm markless.1),
        inductionHypothesis markless.2]
      rfl

/-- What stands between the marks of an interpreted literal is read to the second mark. -/
theorem readLexeme_of_isInside
    {inside : Text}
    (isInside : IsInside inside)
    (behind : Text) :
    readLexeme (Quote.mark .interpreted) (inside ++ '"' :: behind) =
      .lexeme (.literal .interpreted (Text.unescape inside)) ('"' :: (inside ++ ['"'])) behind := by
  have notWord : ¬startsWord (Quote.mark .interpreted) = true := by decide
  rw [readLexeme, if_neg notWord, if_pos rfl, readInterpreted?_of_isInside isInside]
  rfl

/-- A literal is read back where it spells the value. -/
theorem readLexeme_literal
    {quote : Quote}
    {value : Text}
    (spelled : quote.Spells value)
    (behind : Text) :
    ∃ rest,
      quote.literal value ++ behind = quote.mark :: rest ∧
        readLexeme quote.mark rest =
          .lexeme (.literal quote value) (quote.literal value) behind := by
  cases quote with
  | interpreted =>
      refine ⟨Text.escape value ++ '"' :: behind, by simp [Quote.literal, Text.quoted, Quote.mark],
        ?_⟩
      rw [readLexeme_of_isInside (isInside_escape spelled), Text.unescape_escape]
      rfl
  | raw =>
      refine ⟨value ++ Quote.mark .raw :: behind, by simp [Quote.literal], ?_⟩
      have notWord : ¬startsWord (Quote.mark .raw) = true := by decide
      have notInterpreted : Quote.mark .raw ≠ Quote.mark .interpreted := by decide
      rw [readLexeme, if_neg notWord, if_neg notInterpreted, if_pos rfl,
        readRaw?_append_mark spelled]
      rfl

/-- An interpreted literal with a line feed in its value is not read back. -/
theorem readLexeme_literal_of_lineFeed
    {value : Text}
    (hasLineFeed : '\n' ∈ value)
    (behind : Text) :
    ∃ rest,
      Quote.literal .interpreted value ++ behind = Quote.mark .interpreted :: rest ∧
        readLexeme (Quote.mark .interpreted) rest = .fault .stringNotTerminated := by
  refine ⟨Text.escape value ++ '"' :: behind, by simp [Quote.literal, Text.quoted, Quote.mark],
    ?_⟩
  have notWord : ¬startsWord (Quote.mark .interpreted) = true := by decide
  rw [readLexeme, if_neg notWord, if_pos rfl, readInterpreted?_escape_of_lineFeed hasLineFeed]

/-- A text that stands for one line is written in one line. -/
private theorem lineFeed_not_mem_of_unescape
    {inside : Text}
    (oneLine : '\n' ∉ Text.unescape inside) :
    '\n' ∉ inside := by
  fun_induction Text.unescape inside with
  | case1 => exact oneLine
  | case2 rest _ => simp at oneLine
  | case3 rest inductionHypothesis => simp_all
  | case4 character rest _ _ inductionHypothesis => simp_all
  | case5 => simp
  | case6 character rest _ _ _ _ inductionHypothesis => simp_all

private theorem mark_not_mem_of_readRaw?
    {text inside behind : Text}
    (found : readRaw? text = some (inside, behind)) :
    Quote.mark .raw ∉ inside := by
  fun_induction readRaw? text generalizing inside with
  | case1 => cases found
  | case2 =>
      cases found
      simp
  | case3 character rest notMark inductionHypothesis =>
      obtain ⟨⟨inner, left⟩, within, same⟩ := Option.map_eq_some_iff.mp found
      cases same
      rw [List.mem_cons, not_or]
      exact ⟨Ne.symm notMark, inductionHypothesis within⟩

/--
A literal that was read starts with its mark.  In the raw style it is spelled as it would be
written; in the other it holds a line feed only where the value does.
-/
theorem of_readLexeme_literal
    {character : Char}
    {rest spelling behind : Text}
    {quote : Quote}
    {value : Text}
    (read : readLexeme character rest = .lexeme (.literal quote value) spelling behind) :
    character = quote.mark ∧
      match quote with
      | .interpreted => '\n' ∉ value → '\n' ∉ spelling
      | .raw => Quote.mark .raw ∉ value ∧ spelling = Quote.literal .raw value := by
  simp only [readLexeme] at read
  split at read
  · cases read
  · split at read
    · next isMark =>
        split at read
        · next inside _ found =>
            cases read
            refine ⟨isMark, fun oneLine => ?_⟩
            have withinLine := lineFeed_not_mem_of_unescape oneLine
            simp [isMark, withinLine, Quote.mark]
        · cases read
    · split at read
      · next isMark =>
          split at read
          · next found =>
              cases read
              exact ⟨isMark, mark_not_mem_of_readRaw? found, by rw [isMark]; rfl⟩
          · cases read
      · cases read

end Source

end ModuleUpdate
