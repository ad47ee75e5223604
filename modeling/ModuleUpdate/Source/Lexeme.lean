import ModuleUpdate.Text.Quoted

namespace ModuleUpdate

/-!
# Lexemes of a source

The part of the language's lexical grammar that the head of a source file needs: words, string
literals in both styles, and single characters, with white space and comments between them.
Every reader splits the text it is given, so that nothing is lost.
-/

/-- Why a source is refused. -/
inductive ScanFault where
  | commentNotTerminated
  | stringNotTerminated
  | rawStringNotTerminated
  | packageExpected
  | packageNameExpected
  | importPathExpected
  | importBlockNotClosed
  deriving Repr, DecidableEq

namespace ScanFault

/-- The wording of a fault. -/
def message : ScanFault → Text
  | commentNotTerminated => "comment not terminated".toList
  | stringNotTerminated => "string literal not terminated".toList
  | rawStringNotTerminated => "raw string literal not terminated".toList
  | packageExpected => "expected 'package'".toList
  | packageNameExpected => "expected package name".toList
  | importPathExpected => "expected import path".toList
  | importBlockNotClosed => "import block not closed".toList

end ScanFault

/-- A fault and the line on which it shows. -/
structure ScanError where
  line : Nat
  fault : ScanFault
  deriving Repr, DecidableEq

/-- The two styles of string literals. -/
inductive Quote where
  | interpreted
  | raw
  deriving Repr, DecidableEq

namespace Quote

/-- The character around a literal. -/
def mark : Quote → Char
  | interpreted => '"'
  | raw => '\u0060'

/-- A value written as a literal; the raw style has no escapes. -/
def literal : Quote → Text → Text
  | interpreted, value => Text.quoted value
  | raw, value => mark raw :: value ++ [mark raw]

end Quote

namespace Source

/-- What a lexeme is. -/
inductive Kind where
  | word (name : Text)
  | literal (quote : Quote) (value : Text)
  | mark (character : Char)
  deriving Repr, DecidableEq

/-- A text split behind its white space and comments, or in front of a comment without an end. -/
inductive Skipped where
  | clear (trivia behind : Text)
  | openComment (trivia : Text)
  deriving Repr, DecidableEq

namespace Skipped

/-- More trivia in front. -/
def after (earlier : Text) : Skipped → Skipped
  | clear trivia behind => clear (earlier ++ trivia) behind
  | openComment trivia => openComment (earlier ++ trivia)

end Skipped

/-- The text up to and with the end of a block comment, and the text behind it. -/
def readBlockComment? : Text → Option (Text × Text)
  | [] => none
  | '*' :: '/' :: rest => some (['*', '/'], rest)
  | character :: rest =>
      (readBlockComment? rest).map fun (comment, behind) => (character :: comment, behind)

/-- Nothing of the text is lost at the end of a block comment. -/
theorem readBlockComment?_append
    {text comment behind : Text}
    (found : readBlockComment? text = some (comment, behind)) :
    comment ++ behind = text := by
  fun_induction readBlockComment? text generalizing comment with
  | case1 => cases found
  | case2 rest =>
      cases found
      rfl
  | case3 character rest other inductionHypothesis =>
      obtain ⟨⟨inner, left⟩, within, same⟩ := Option.map_eq_some_iff.mp found
      cases same
      simp [inductionHypothesis within]

/-- Whether a character goes on a line comment. -/
def staysOnLine (character : Char) : Bool :=
  character != '\n'

/-- Split a text behind the white space and the comments that it starts with. -/
def skipTrivia : Text → Skipped
  | [] => .clear [] []
  | '/' :: '/' :: rest =>
      (skipTrivia (rest.dropWhile staysOnLine)).after
        ('/' :: '/' :: rest.takeWhile staysOnLine)
  | '/' :: '*' :: rest =>
      match _found : readBlockComment? rest with
      | some (comment, behind) => (skipTrivia behind).after ('/' :: '*' :: comment)
      | none => .openComment []
  | character :: rest =>
      if Text.isBlank character then
        (skipTrivia rest).after [character]
      else
        .clear [] (character :: rest)
  termination_by text => text.length
  decreasing_by
    · have shorter := (List.dropWhile_sublist staysOnLine (l := rest)).length_le
      simp only [List.length_cons]
      omega
    · have whole := congrArg List.length (readBlockComment?_append _found)
      simp only [List.length_append] at whole
      simp only [List.length_cons]
      omega
    · exact Nat.lt_succ_self _

/-- The inside of an interpreted literal, and the text behind its closing quote. -/
def readInterpreted? : Text → Option (Text × Text)
  | [] => none
  | '"' :: rest => some ([], rest)
  | '\n' :: _ => none
  | '\\' :: character :: rest =>
      (readInterpreted? rest).map fun (inside, behind) => ('\\' :: character :: inside, behind)
  | character :: rest =>
      (readInterpreted? rest).map fun (inside, behind) => (character :: inside, behind)

/-- The inside of a raw literal, and the text behind its closing quote. -/
def readRaw? : Text → Option (Text × Text)
  | [] => none
  | character :: rest =>
      if character = Quote.mark .raw then
        some ([], rest)
      else
        (readRaw? rest).map fun (inside, behind) => (character :: inside, behind)

/-- Nothing but the closing quote is lost at the end of an interpreted literal. -/
theorem readInterpreted?_append
    {text inside behind : Text}
    (found : readInterpreted? text = some (inside, behind)) :
    inside ++ '"' :: behind = text := by
  fun_induction readInterpreted? text generalizing inside with
  | case1 => cases found
  | case2 rest =>
      cases found
      rfl
  | case3 => cases found
  | case4 character rest inductionHypothesis =>
      obtain ⟨⟨inner, left⟩, within, same⟩ := Option.map_eq_some_iff.mp found
      cases same
      simp [inductionHypothesis within]
  | case5 character rest _ _ _ inductionHypothesis =>
      obtain ⟨⟨inner, left⟩, within, same⟩ := Option.map_eq_some_iff.mp found
      cases same
      simp [inductionHypothesis within]

/-- Nothing but the closing quote is lost at the end of a raw literal. -/
theorem readRaw?_append
    {text inside behind : Text}
    (found : readRaw? text = some (inside, behind)) :
    inside ++ Quote.mark .raw :: behind = text := by
  fun_induction readRaw? text generalizing inside with
  | case1 => cases found
  | case2 rest =>
      cases found
      rfl
  | case3 character rest other inductionHypothesis =>
      obtain ⟨⟨inner, left⟩, within, same⟩ := Option.map_eq_some_iff.mp found
      cases same
      simp [inductionHypothesis within]

/-- A character that may start a word. -/
def startsWord (character : Char) : Bool :=
  character == '_' || Text.isAlphabetic character

/-- A character that may go on a word. -/
def continuesWord (character : Char) : Bool :=
  character == '_' || Text.isAlphanumeric character

/-- A text split behind the lexeme it starts with, or the reason why there is none. -/
inductive Reading where
  | lexeme (kind : Kind) (spelling behind : Text)
  | fault (fault : ScanFault)
  deriving Repr, DecidableEq

/-- Read the lexeme that starts with a character. -/
def readLexeme (character : Char) (rest : Text) : Reading :=
  if startsWord character then
    let word := character :: rest.takeWhile continuesWord
    .lexeme (.word word) word (rest.dropWhile continuesWord)
  else if character = Quote.mark .interpreted then
    match readInterpreted? rest with
    | some (inside, behind) =>
        .lexeme (.literal .interpreted (Text.unescape inside))
          (character :: inside ++ [character]) behind
    | none => .fault .stringNotTerminated
  else if character = Quote.mark .raw then
    match readRaw? rest with
    | some (inside, behind) =>
        .lexeme (.literal .raw inside) (character :: inside ++ [character]) behind
    | none => .fault .rawStringNotTerminated
  else
    .lexeme (.mark character) [character] rest

/-- A lexeme and what is behind it make up the text. -/
theorem readLexeme_append
    {character : Char}
    {rest spelling behind : Text}
    {kind : Kind}
    (read : readLexeme character rest = .lexeme kind spelling behind) :
    spelling ++ behind = character :: rest := by
  unfold readLexeme at read
  split at read
  · cases read
    simp
  · split at read
    · next isQuote =>
        split at read
        · next found =>
            cases read
            have whole := readInterpreted?_append found
            subst isQuote
            simp [Quote.mark, ← whole]
        · cases read
    · split at read
      · next isQuote =>
          split at read
          · next found =>
              cases read
              have whole := readRaw?_append found
              subst isQuote
              simp [← whole]
          · cases read
      · cases read
        rfl

/-- Lexemes are not empty. -/
theorem readLexeme_spelling_ne_nil
    {character : Char}
    {rest spelling behind : Text}
    {kind : Kind}
    (read : readLexeme character rest = .lexeme kind spelling behind) :
    spelling ≠ [] := by
  unfold readLexeme at read
  split at read
  · cases read
    simp
  · split at read
    · split at read
      · cases read
        simp
      · cases read
    · split at read
      · split at read
        · cases read
          simp
        · cases read
      · cases read
        simp

end Source

end ModuleUpdate
