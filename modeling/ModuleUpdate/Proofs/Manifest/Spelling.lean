import ModuleUpdate.Manifest.Token
import ModuleUpdate.Proofs.Text

namespace ModuleUpdate.Token

/-!
# Spelled tokens

A token is well spelled when a line that starts with it is read as this token wherever a
separator or the end of the line follows.  Tokens that were read are well spelled, and so is the
token for any value without a line feed.  A row of well-spelled tokens with a comment behind them
is therefore read back from its text.
-/

/-- A text in front of which every token ends. -/
def StartsApart (behind : Text) : Prop :=
  ∀ character ∈ behind.head?, isSeparator character = true

/-- A token on one line that is read back wherever a separator follows. -/
structure IsSpelled (token : Token) : Prop where
  oneLine : '\n' ∉ token
  readBack :
    ∃ character rest,
      token = character :: rest ∧
        ∀ behind, StartsApart behind →
          readPiece character (rest ++ behind) = .token token behind

/-- A comment on one line, from its slashes to its last visible character. -/
structure IsComment (comment : Text) : Prop where
  oneLine : '\n' ∉ comment
  opened : commentStart <+: comment
  trimmed : Text.trimEnd comment = comment

theorem IsComment.ne_nil
    {comment : Text}
    (isComment : IsComment comment) :
    comment ≠ [] := by
  rintro rfl
  have opened := isComment.opened
  rw [List.prefix_nil] at opened
  cases opened

/-- A row that is read back from its text. -/
structure Row.IsSpelled (row : Row) : Prop where
  tokens : ∀ token ∈ row.tokens, Token.IsSpelled token
  comment : ∀ comment ∈ row.comment, IsComment comment

/-- Every token ends at the end of the line. -/
theorem startsApart_nil : StartsApart [] := by
  intro character isFirst
  cases isFirst

/-- Every token ends in front of a blank. -/
theorem startsApart_space (behind : Text) : StartsApart (' ' :: behind) := by
  intro character isFirst
  cases isFirst
  rfl

/-- Separators are passed over. -/
theorem readPiece_separator
    {character : Char}
    (separates : isSeparator character = true)
    (rest : Text) :
    readPiece character rest = .separator rest := by
  simp [readPiece, separates]

/-- Two slashes open a comment, which takes the line to its end. -/
theorem readPiece_comment (rest : Text) :
    readPiece '/' ('/' :: rest) = .comment (Text.trimEnd ('/' :: '/' :: rest)) :=
  rfl

/-- An arrow is a token whatever follows it. -/
theorem readPiece_arrow (rest : Text) : readPiece '=' ('>' :: rest) = .token arrow rest :=
  rfl

/-- A parenthesis is a token whatever follows it. -/
theorem readPiece_parenthesis
    {character : Char}
    (isParenthesis : isParenthesis character = true)
    (rest : Text) :
    readPiece character rest = .token [character] rest := by
  simp only [Token.isParenthesis, Bool.or_eq_true, beq_iff_eq] at isParenthesis
  rcases isParenthesis with rfl | rfl <;> rfl

/-- A quoted text is a token up to its closing quote. -/
theorem readPiece_quoted
    {character : Char}
    {rest quoted behind : Text}
    (isQuote : isQuote character = true)
    (closed : readQuoted? character rest = some (quoted, behind)) :
    readPiece character rest = .token (character :: quoted) behind := by
  have others :
      isSeparator character = false ∧
        commentStart.isPrefixOf (character :: rest) = false ∧
          Text.after? arrow (character :: rest) = none ∧
            isParenthesis character = false := by
    simp only [Token.isQuote, Bool.or_eq_true, beq_iff_eq] at isQuote
    rcases isQuote with rfl | rfl <;> exact ⟨rfl, rfl, rfl, rfl⟩
  obtain ⟨noSeparator, noComment, noArrow, noParenthesis⟩ := others
  simp [readPiece, noSeparator, noComment, noArrow, noParenthesis, isQuote, closed]

/-- An opening is split off exactly when it is there. -/
private theorem after?_eq_none_iff
    {opening text : Text} :
    Text.after? opening text = none ↔ opening.isPrefixOf text = false := by
  rw [Option.eq_none_iff_forall_ne_some, Bool.eq_false_iff]
  constructor
  · intro absent present
    obtain ⟨behind, same⟩ := List.isPrefixOf_iff_prefix.mp present
    exact absent behind (Text.after?_eq_some_iff.mpr same.symm)
  · intro absent behind present
    exact absent
      (List.isPrefixOf_iff_prefix.mpr ⟨behind, (Text.after?_eq_some_iff.mp present).symm⟩)

/-- A bare word starts where no other piece does. -/
theorem readPiece_word
    {character : Char}
    {rest : Text}
    (plain : endsWord (character :: rest) = false) :
    readPiece character rest = .token (character :: (readWord rest).1) (readWord rest).2 := by
  simp only [endsWord, Bool.or_eq_false_iff] at plain
  obtain ⟨⟨⟨⟨noSeparator, noQuote⟩, noParenthesis⟩, noComment⟩, noArrow⟩ := plain
  simp [readPiece, noSeparator, noQuote, noParenthesis, noComment,
    after?_eq_none_iff.mpr noArrow]

/-- The four kinds of tokens that a line can start with. -/
theorem readPiece_eq_token
    {character : Char}
    {rest behind : Text}
    {token : Token}
    (read : readPiece character rest = .token token behind) :
    (character = '=' ∧ rest = '>' :: behind ∧ token = arrow) ∨
      (isParenthesis character = true ∧ token = [character] ∧ behind = rest) ∨
      (isQuote character = true ∧
        ∃ quoted, readQuoted? character rest = some (quoted, behind) ∧
          token = character :: quoted) ∨
      (endsWord (character :: rest) = false ∧
        token = character :: (readWord rest).1 ∧ behind = (readWord rest).2) := by
  simp only [readPiece] at read
  split at read
  · cases read
  · next noSeparator =>
      split at read
      · cases read
      · next noComment =>
          split at read
          · next left found =>
              cases read
              have whole := Text.after?_eq_some_iff.mp found
              cases whole
              exact .inl ⟨rfl, rfl, rfl⟩
          · next noArrow =>
              split at read
              · next isParenthesis =>
                  cases read
                  exact .inr (.inl ⟨isParenthesis, rfl, rfl⟩)
              · next noParenthesis =>
                  split at read
                  · next isQuote =>
                      split at read
                      · next closed =>
                          cases read
                          exact .inr (.inr (.inl ⟨isQuote, _, closed, rfl⟩))
                      · cases read
                  · next noQuote =>
                      cases read
                      refine .inr (.inr (.inr ⟨?_, rfl, rfl⟩))
                      simp [endsWord, noSeparator, noQuote, noParenthesis, noComment,
                        after?_eq_none_iff.mp noArrow]

/-- A comment starts with its two slashes. -/
theorem readPiece_eq_comment
    {character : Char}
    {rest comment : Text}
    (read : readPiece character rest = .comment comment) :
    commentStart <+: character :: rest ∧ comment = Text.trimEnd (character :: rest) := by
  simp only [readPiece] at read
  split at read
  · cases read
  · split at read
    · next opened =>
        cases read
        exact ⟨List.isPrefixOf_iff_prefix.mp opened, rfl⟩
    · split at read
      · cases read
      · split at read
        · cases read
        · split at read
          · split at read <;> cases read
          · cases read

/-- A separator leaves the rest of the line. -/
theorem readPiece_eq_separator
    {character : Char}
    {rest behind : Text}
    (read : readPiece character rest = .separator behind) :
    isSeparator character = true ∧ behind = rest := by
  simp only [readPiece] at read
  split at read
  · next separates =>
      cases read
      exact ⟨separates, rfl⟩
  · split at read
    · cases read
    · split at read
      · cases read
      · split at read
        · cases read
        · split at read
          · split at read <;> cases read
          · cases read

/-- A word goes on in front of any text if it goes on in front of one. -/
private theorem endsWord_append
    {character : Char}
    {word behind following : Text}
    (continues : endsWord (character :: (word ++ behind)) = false)
    (apart : StartsApart following) :
    endsWord (character :: (word ++ following)) = false := by
  simp only [endsWord, commentStart, arrow, String.reduceToList, List.isPrefixOf,
    Bool.or_eq_false_iff, Bool.and_eq_false_iff, beq_eq_false_iff_ne, ne_eq] at continues ⊢
  obtain ⟨⟨⟨⟨noSeparator, noQuote⟩, noParenthesis⟩, noComment⟩, noArrow⟩ := continues
  refine ⟨⟨⟨⟨noSeparator, noQuote⟩, noParenthesis⟩, ?_⟩, ?_⟩
  all_goals
    cases word with
    | cons second others =>
        first
        | exact noComment
        | exact noArrow
    | nil =>
        right
        cases following with
        | nil => rfl
        | cons second others =>
            have separates := apart second rfl
            simp only [isSeparator, Bool.or_eq_true, beq_iff_eq] at separates
            rcases separates with (rfl | rfl) | rfl <;> rfl

/-- No word starts where every token ends. -/
private theorem readWord_of_startsApart
    {behind : Text}
    (apart : StartsApart behind) :
    readWord behind = ([], behind) := by
  cases behind with
  | nil => rfl
  | cons character rest =>
      have ends : endsWord (character :: rest) = true := by
        simp [endsWord, apart character rfl]
      simp [readWord, ends]

/-- A word and what is behind it make up the text. -/
theorem append_readWord (text : Text) : (readWord text).1 ++ (readWord text).2 = text := by
  induction text with
  | nil => rfl
  | cons character rest inductionHypothesis =>
      simp only [readWord]
      split
      · rfl
      · simp [inductionHypothesis]

/-- A word is read back wherever every token ends. -/
theorem readWord_append
    (text : Text)
    {behind : Text}
    (apart : StartsApart behind) :
    readWord ((readWord text).1 ++ behind) = ((readWord text).1, behind) := by
  induction text with
  | nil => exact readWord_of_startsApart apart
  | cons character rest inductionHypothesis =>
      by_cases ends : endsWord (character :: rest) = true
      · have noWord : (readWord (character :: rest)).1 = [] := by
          simp [readWord, ends]
        rw [noWord]
        exact readWord_of_startsApart apart
      · have word : (readWord (character :: rest)).1 = character :: (readWord rest).1 := by
          simp [readWord, ends]
        have continues :
            endsWord (character :: ((readWord rest).1 ++ (readWord rest).2)) = false := by
          rw [append_readWord]
          simpa using ends
        have goesOn := endsWord_append continues apart
        rw [word, List.cons_append]
        simp [readWord, goesOn, inductionHypothesis]

/-- A backslash takes the next character along within double quotes. -/
theorem readQuoted?_escaped (character : Char) (rest : Text) :
    readQuoted? '"' ('\\' :: character :: rest) =
      (readQuoted? '"' rest).map fun (quoted, behind) =>
        ('\\' :: character :: quoted, behind) := by
  simp [readQuoted?]

/-- A character that is neither the quote nor an escape is part of the quoted text. -/
theorem readQuoted?_other
    {quote character : Char}
    (other : character ≠ quote)
    (unescaped : quote = '"' → character ≠ '\\')
    (rest : Text) :
    readQuoted? quote (character :: rest) =
      (readQuoted? quote rest).map fun (quoted, behind) => (character :: quoted, behind) := by
  by_cases backslash : character = '\\'
  · subst backslash
    have isRaw : ¬quote = '"' := fun same => unescaped same rfl
    cases rest with
    | nil => simp [readQuoted?, other]
    | cons next following => rw [readQuoted?, if_neg isRaw]
  · rw [readQuoted?, if_neg other]
    intro next following same
    exact absurd same backslash

/-- The first quote that is not escaped closes the quoted text. -/
theorem readQuoted?_closed
    {quote : Char}
    (isQuote : isQuote quote = true)
    (rest : Text) :
    readQuoted? quote (quote :: rest) = some ([quote], rest) := by
  rw [readQuoted?, if_pos rfl]
  rintro next following rfl
  cases isQuote

/-- A quoted text is read back whatever follows its closing quote. -/
theorem readQuoted?_append
    {quote : Char}
    (isQuote : isQuote quote = true)
    {text quoted behind : Text}
    (closed : readQuoted? quote text = some (quoted, behind)) :
    text = quoted ++ behind ∧
      ∀ following, readQuoted? quote (quoted ++ following) = some (quoted, following) := by
  have noBackslash : '\\' ≠ quote := by
    rintro rfl
    cases isQuote
  fun_induction readQuoted? quote text generalizing quoted with
  | case1 => cases closed
  | case2 next rest isDouble inductionHypothesis =>
      obtain ⟨⟨inner, left⟩, within, same⟩ := Option.map_eq_some_iff.mp closed
      cases same
      obtain ⟨rfl, again⟩ := inductionHypothesis within
      refine ⟨rfl, fun following => ?_⟩
      subst isDouble
      rw [List.cons_append, List.cons_append, readQuoted?_escaped, again]
      rfl
  | case3 next rest isRaw inductionHypothesis =>
      obtain ⟨⟨inner, left⟩, within, same⟩ := Option.map_eq_some_iff.mp closed
      cases same
      obtain ⟨whole, again⟩ := inductionHypothesis within
      refine ⟨by rw [whole]; rfl, fun following => ?_⟩
      rw [List.cons_append, readQuoted?_other noBackslash fun same => absurd same isRaw, again]
      rfl
  | case4 rest opened =>
      cases closed
      exact ⟨rfl, readQuoted?_closed isQuote⟩
  | case5 character rest other closes inductionHypothesis =>
      obtain ⟨⟨inner, left⟩, within, same⟩ := Option.map_eq_some_iff.mp closed
      cases same
      obtain ⟨rfl, again⟩ := inductionHypothesis within
      refine ⟨rfl, fun following => ?_⟩
      have unescaped : character ≠ '\\' := by
        rintro rfl
        cases left' : inner ++ behind with
        | nil => simp [left', readQuoted?] at within
        | cons next others => exact other next others rfl left'
      rw [List.cons_append, readQuoted?_other closes fun _ => unescaped, again]
      rfl

/-- A token and what is behind it make up the text. -/
theorem append_of_readPiece
    {character : Char}
    {rest behind : Text}
    {token : Token}
    (read : readPiece character rest = .token token behind) :
    token ++ behind = character :: rest := by
  rcases readPiece_eq_token read with
    ⟨rfl, rfl, rfl⟩ | ⟨_, rfl, rfl⟩ | ⟨isQuote, quoted, closed, rfl⟩ | ⟨_, rfl, rfl⟩
  · rfl
  · rfl
  · rw [(readQuoted?_append isQuote closed).1]
    rfl
  · rw [List.cons_append, append_readWord]

/-- A token that was read is well spelled. -/
theorem isSpelled_of_readPiece
    {character : Char}
    {rest behind : Text}
    {token : Token}
    (read : readPiece character rest = .token token behind)
    (oneLine : '\n' ∉ character :: rest) :
    IsSpelled token := by
  have whole := append_of_readPiece read
  refine ⟨fun member => oneLine (whole ▸ List.mem_append_left _ member), ?_⟩
  rcases readPiece_eq_token read with
    ⟨rfl, rfl, rfl⟩ | ⟨isParenthesis, rfl, rfl⟩ | ⟨isQuote, quoted, closed, rfl⟩ |
      ⟨plain, rfl, rfl⟩
  · exact ⟨'=', ['>'], rfl, fun following _ => readPiece_arrow following⟩
  · exact ⟨character, [], rfl, fun following _ => readPiece_parenthesis isParenthesis following⟩
  · refine ⟨character, quoted, rfl, fun following _ => ?_⟩
    exact readPiece_quoted isQuote ((readQuoted?_append isQuote closed).2 following)
  · refine ⟨character, (readWord rest).1, rfl, fun following apart => ?_⟩
    have continues :
        endsWord (character :: ((readWord rest).1 ++ (readWord rest).2)) = false := by
      rwa [append_readWord]
    rw [readPiece_word (endsWord_append continues apart), readWord_append rest apart]

private theorem getLast?_of_readQuoted?
    {quote : Char}
    {text quoted behind : Text}
    (closed : readQuoted? quote text = some (quoted, behind)) :
    quoted.getLast? = some quote := by
  fun_induction readQuoted? quote text generalizing quoted with
  | case1 => cases closed
  | case4 =>
      cases closed
      rfl
  | case2 _ _ _ inductionHypothesis | case3 _ _ _ inductionHypothesis
  | case5 _ _ _ _ inductionHypothesis =>
      obtain ⟨⟨inner, left⟩, within, same⟩ := Option.map_eq_some_iff.mp closed
      cases same
      simp [List.getLast?_cons, inductionHypothesis within]

private theorem isSeparator_of_mem_readWord
    {text : Text}
    {character : Char}
    (member : character ∈ (readWord text).1) :
    isSeparator character = false := by
  induction text with
  | nil => cases member
  | cons first rest inductionHypothesis =>
      simp only [readWord] at member
      split at member
      · cases member
      · next continues =>
          rcases List.mem_cons.mp member with rfl | inRest
          · simp only [endsWord, Bool.or_eq_true, not_or, Bool.not_eq_true] at continues
            exact continues.1.1.1.1
          · exact inductionHypothesis inRest

/-- A well-spelled token does not end in a separator. -/
theorem IsSpelled.isSeparator_last
    {token : Token}
    (spelled : token.IsSpelled)
    {last : Char}
    (isLast : token.getLast? = some last) :
    isSeparator last = false := by
  obtain ⟨character, rest, rfl, readBack⟩ := spelled.readBack
  have read := readBack [] startsApart_nil
  rw [List.append_nil] at read
  rcases readPiece_eq_token read with
    ⟨_, _, same⟩ | ⟨isParenthesis, same, _⟩ | ⟨isQuote, quoted, closed, same⟩ |
      ⟨plain, same, _⟩
  · rw [same] at isLast
    cases isLast
    rfl
  · rw [same] at isLast
    cases isLast
    simp only [Token.isParenthesis, Bool.or_eq_true, beq_iff_eq] at isParenthesis
    rcases isParenthesis with rfl | rfl <;> rfl
  · rw [same, List.getLast?_cons, getLast?_of_readQuoted? closed] at isLast
    cases isLast
    simp only [Token.isQuote, Bool.or_eq_true, beq_iff_eq] at isQuote
    rcases isQuote with rfl | rfl <;> rfl
  · have member := List.mem_of_getLast? isLast
    rw [same] at member
    rcases List.mem_cons.mp member with rfl | inWord
    · simp only [endsWord, Bool.or_eq_false_iff] at plain
      exact plain.1.1.1.1
    · exact isSeparator_of_mem_readWord inWord

/-- A comment that was read is one from its slashes to its last visible character. -/
theorem isComment_of_readPiece
    {character : Char}
    {rest comment : Text}
    (read : readPiece character rest = .comment comment)
    (oneLine : '\n' ∉ character :: rest) :
    IsComment comment := by
  obtain ⟨⟨inside, whole⟩, rfl⟩ := readPiece_eq_comment read
  refine ⟨fun member => oneLine ((Text.initial_trimEnd _).subset member), ?_,
    Text.trimEnd_trimEnd _⟩
  rw [← whole]
  exact ⟨Text.trimEnd inside, (Text.trimEnd_append ['/'] (by decide) inside).symm⟩

/-- The rows that are read are well spelled. -/
theorem Row.isSpelled_of_readRow?
    {text : Text}
    {row : Row}
    (read : readRow? text = some row)
    (oneLine : '\n' ∉ text) :
    row.IsSpelled := by
  fun_induction readRow? text generalizing row with
  | case1 =>
      cases read
      exact ⟨by simp, by simp⟩
  | case2 character rest behind step inductionHypothesis =>
      obtain ⟨_, rfl⟩ := readPiece_eq_separator step
      exact inductionHypothesis read fun member => oneLine (List.mem_cons_of_mem _ member)
  | case3 character rest comment step =>
      cases read
      refine ⟨by simp, ?_⟩
      rintro _ ⟨⟩
      exact isComment_of_readPiece step oneLine
  | case4 character rest token behind step inductionHypothesis =>
      obtain ⟨later, found, rfl⟩ := Option.map_eq_some_iff.mp read
      have whole := append_of_readPiece step
      have spelled := inductionHypothesis found fun member =>
        oneLine (whole ▸ List.mem_append_right _ member)
      refine ⟨?_, spelled.comment⟩
      intro other member
      rcases List.mem_cons.mp member with rfl | inLater
      · exact isSpelled_of_readPiece step oneLine
      · exact spelled.tokens other inLater
  | case5 => cases read

theorem readRow?_nil : readRow? [] = some { tokens := [], comment := none } := by
  rw [readRow?]

/-- Separators in front of a line change nothing. -/
theorem readRow?_separator
    {character : Char}
    (separates : isSeparator character = true)
    (rest : Text) :
    readRow? (character :: rest) = readRow? rest := by
  rw [readRow?]
  split
  · next behind step =>
      rw [readPiece_separator separates] at step
      cases step
      rfl
  all_goals
    next step =>
      rw [readPiece_separator separates] at step
      cases step

/-- A comment is read back. -/
theorem readRow?_comment
    {comment : Text}
    (isComment : IsComment comment) :
    readRow? comment = some { tokens := [], comment := some comment } := by
  obtain ⟨_, ⟨inside, rfl⟩, trimmed⟩ := isComment
  have opened :
      readPiece '/' ('/' :: inside) = .comment (commentStart ++ inside) := by
    rw [readPiece_comment]
    exact congrArg Piece.comment trimmed
  show readRow? ('/' :: '/' :: inside) = _
  rw [readRow?]
  split
  · next step => cases opened.symm.trans step
  · next step =>
      cases opened.symm.trans step
      rfl
  · next step => cases opened.symm.trans step
  · next step => cases opened.symm.trans step

/-- A well-spelled token is read back in front of a separator. -/
theorem readRow?_token
    {token : Token}
    (spelled : token.IsSpelled)
    {behind : Text}
    (apart : StartsApart behind) :
    readRow? (token ++ behind) =
      (readRow? behind).map fun row => { row with tokens := token :: row.tokens } := by
  obtain ⟨character, rest, rfl, readBack⟩ := spelled.readBack
  have read := readBack behind apart
  rw [List.cons_append, readRow?]
  split
  · next step => cases read.symm.trans step
  · next step => cases read.symm.trans step
  · next step =>
      cases read.symm.trans step
      rfl
  · next step => cases read.symm.trans step

/-- A line with a quote that is not closed cannot be read. -/
theorem readRow?_unclosed
    {rest : Text}
    (unclosed : readQuoted? '"' rest = none) :
    readRow? ('"' :: rest) = none := by
  have read : readPiece '"' rest = .unterminated := by
    simp [readPiece, isSeparator, isParenthesis, isQuote, commentStart, arrow, Text.after?,
      List.isPrefixOf?, unclosed]
  rw [readRow?]
  split
  · next step => cases read.symm.trans step
  · next step => cases read.symm.trans step
  · next step => cases read.symm.trans step
  · rfl

/-- Tokens separated by blanks are read back. -/
theorem readRow?_join
    {tokens : List Token}
    (spelled : ∀ token ∈ tokens, Token.IsSpelled token)
    {behind : Text}
    (apart : StartsApart behind) :
    readRow? (Text.join [' '] tokens ++ behind) =
      (readRow? behind).map fun row => { row with tokens := tokens ++ row.tokens } := by
  induction tokens with
  | nil =>
      rw [Text.join, List.intercalate_nil, List.nil_append]
      cases readRow? behind <;> rfl
  | cons token following inductionHypothesis =>
      have first := spelled token (by simp)
      have others := inductionHypothesis fun other member => spelled other (by simp [member])
      cases following with
      | nil =>
          rw [Text.join, List.intercalate_singleton, readRow?_token first apart]
          rfl
      | cons second later =>
          have split :
              Text.join [' '] (token :: second :: later) ++ behind =
                token ++ ' ' :: (Text.join [' '] (second :: later) ++ behind) := by
            simp [Text.join, List.intercalate_cons_cons]
          rw [split, readRow?_token first (startsApart_space _), readRow?_separator rfl, others]
          cases readRow? behind <;> rfl

/-- An escaped text is read up to the quote behind it. -/
theorem readQuoted?_escape (value behind : Text) :
    readQuoted? '"' (Text.escape value ++ '"' :: behind) =
      some (Text.escape value ++ ['"'], behind) := by
  induction value with
  | nil => exact readQuoted?_closed rfl behind
  | cons character others inductionHypothesis =>
      by_cases special : character = '\\' ∨ character = '"'
      · rw [Text.escape_cons_of_special special, List.cons_append, List.cons_append,
          readQuoted?_escaped, inductionHypothesis]
        rfl
      · rw [Text.escape_cons_of_plain special, List.cons_append]
        rw [not_or] at special
        rw [readQuoted?_other special.2 fun _ => special.1, inductionHypothesis]
        rfl

/-- A value in quotes is well spelled. -/
theorem isSpelled_quoted
    {value : Text}
    (oneLine : '\n' ∉ value) :
    IsSpelled (Text.quoted value) := by
  constructor
  · simp [Text.quoted, Text.lineFeed_not_mem_escape oneLine]
  · refine ⟨'"', Text.escape value ++ ['"'], rfl, fun behind _ => ?_⟩
    rw [List.append_assoc]
    exact readPiece_quoted rfl (readQuoted?_escape value behind)

/-- A mark that a text does not mention does not open it. -/
theorem isPrefixOf_of_not_mentions
    {mark text : Text}
    (silent : Text.mentions mark text = false)
    (visible : mark ≠ []) :
    mark.isPrefixOf text = false := by
  cases text with
  | nil =>
      cases mark with
      | nil => exact absurd rfl visible
      | cons first others => rfl
  | cons character rest =>
      rw [Text.mentions, Bool.or_eq_false_iff] at silent
      exact silent.1

/-- The characters that quotes are needed for end words. -/
theorem endsWord_of_not_needsQuotes
    {character : Char}
    {rest : Text}
    (bare : needsQuotes (character :: rest) = false) :
    endsWord (character :: rest) = false := by
  simp only [needsQuotes, List.any_cons, Bool.or_eq_false_iff] at bare
  obtain ⟨⟨⟨_, ⟨⟨⟨⟨notBlank, notQuote⟩, notParenthesis⟩, _⟩, _⟩⟩, noComment⟩, noArrow⟩ := bare
  have noSeparator : isSeparator character = false := by
    by_contra separates
    simp only [isSeparator, Bool.not_eq_false, Bool.or_eq_true, beq_iff_eq] at separates
    rcases separates with (rfl | rfl) | rfl <;> cases notBlank
  simp [endsWord, noSeparator, notQuote, notParenthesis,
    isPrefixOf_of_not_mentions noComment (by decide),
    isPrefixOf_of_not_mentions noArrow (by decide)]

/-- What is left of a value behind its first character needs no quotes if the value needs none. -/
theorem needsQuotes_tail
    {character second : Char}
    {rest : Text}
    (bare : needsQuotes (character :: second :: rest) = false) :
    needsQuotes (second :: rest) = false := by
  simp only [needsQuotes, Text.mentions, List.any_cons, Bool.or_eq_false_iff] at bare ⊢
  obtain ⟨⟨⟨_, _, others⟩, _, noComment⟩, _, noArrow⟩ := bare
  exact ⟨⟨⟨rfl, others⟩, noComment⟩, noArrow⟩

/-- A value that needs no quotes is read as one word. -/
theorem readWord_of_not_needsQuotes
    {value : Text}
    (bare : needsQuotes value = false) :
    readWord value = (value, []) := by
  induction value with
  | nil => rfl
  | cons character rest inductionHypothesis =>
      have continues := endsWord_of_not_needsQuotes bare
      cases rest with
      | nil => simp [readWord, continues]
      | cons second others =>
          have tail := inductionHypothesis (needsQuotes_tail bare)
          rw [readWord, if_neg (by simp [continues]), tail]

/-- The token for a value without a line feed is well spelled. -/
theorem isSpelled_ofValue
    {value : Text}
    (oneLine : '\n' ∉ value) :
    IsSpelled (ofValue value) := by
  simp only [ofValue]
  split
  · exact isSpelled_quoted oneLine
  · next bare =>
      have bare : needsQuotes value = false := by simpa using bare
      cases value with
      | nil => cases bare
      | cons character rest =>
          have word : readPiece character rest = .token (character :: rest) [] := by
            rw [readPiece_word (endsWord_of_not_needsQuotes bare)]
            cases rest with
            | nil => rfl
            | cons second others =>
                rw [readWord_of_not_needsQuotes (needsQuotes_tail bare)]
          exact isSpelled_of_readPiece word oneLine

/-- A value with a line feed is put in quotes. -/
theorem ofValue_of_lineFeed
    {value : Text}
    (hasLineFeed : '\n' ∈ value) :
    ofValue value = Text.quoted value := by
  have someBlank :
      (value.any fun character =>
        Text.isBlank character || isQuote character || isParenthesis character ||
          character == '\u0027') = true :=
    List.any_eq_true.mpr ⟨'\n', hasLineFeed, by decide⟩
  rw [ofValue, if_pos]
  simp [needsQuotes, someBlank]

/-- No text stands between quotes that do not open the token. -/
theorem between?_eq_none
    {quote character : Char}
    (other : character ≠ quote)
    (rest : Text) :
    between? quote (character :: rest) = none := by
  have closed : Text.after? [quote] (character :: rest) = none := by
    rw [after?_eq_none_iff]
    simp [List.isPrefixOf, other.symm]
  simp [between?, closed]

/-- The text between quotes is what was put between them. -/
theorem between?_quoted (quote : Char) (inside : Text) :
    between? quote (quote :: (inside ++ [quote])) = some inside := by
  have opened : Text.after? [quote] (quote :: (inside ++ [quote])) = some (inside ++ [quote]) :=
    Text.after?_eq_some_iff.mpr rfl
  rw [between?, opened]
  exact Text.before?_eq_some_iff.mpr rfl

/-- A token without quotes stands for itself. -/
theorem value_of_plain
    {token : Token}
    (plain : ∀ character ∈ token.head?, isQuote character = false) :
    value token = token := by
  cases token with
  | nil => rfl
  | cons character rest =>
      have noQuote := plain character rfl
      simp only [isQuote, Bool.or_eq_false_iff, beq_eq_false_iff_ne] at noQuote
      simp only [value]
      rw [between?_eq_none noQuote.2, between?_eq_none noQuote.1]

/-- The token for a value stands for that value. -/
@[simp] theorem value_ofValue (value : Text) : Token.value (ofValue value) = value := by
  simp only [ofValue]
  split
  · simp only [Token.value, Text.quoted]
    rw [List.cons_append, between?_eq_none (by decide), between?_quoted]
    exact Text.unescape_escape value
  · next bare =>
      apply value_of_plain
      intro character isFirst
      cases value with
      | nil => cases isFirst
      | cons first others =>
          cases isFirst
          have bare : needsQuotes (character :: others) = false := by simpa using bare
          have continues := endsWord_of_not_needsQuotes bare
          simp only [endsWord, Bool.or_eq_false_iff] at continues
          exact continues.1.1.1.2

/-- The token for a value is no parenthesis. -/
theorem ofValue_not_parenthesis
    {character : Char}
    (isParenthesis : isParenthesis character = true)
    (value : Text) :
    ofValue value ≠ [character] := by
  intro same
  have stands := value_ofValue value
  rw [same] at stands
  simp only [Token.isParenthesis, Bool.or_eq_true, beq_iff_eq] at isParenthesis
  rcases isParenthesis with rfl | rfl
  all_goals
    have isValue : Token.value _ = _ := stands
    rw [value_of_plain (by rintro _ ⟨⟩; rfl)] at isValue
    rw [← isValue] at same
    cases same

end ModuleUpdate.Token
