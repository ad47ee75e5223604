import ModuleUpdate.Text.Quoted

namespace ModuleUpdate

/-!
# Tokens

A line of a manifest is a row of tokens and possibly a comment at its end.  A token is an arrow,
a parenthesis, a quoted text, or a bare word that ends before a separator, a quote, a
parenthesis, an arrow or a comment.  Tokens keep their spelling; `Token.value` is what a token
stands for, and `Token.ofValue` spells a value so that it is read as one token.
-/

/-- A token as it is spelled. -/
abbrev Token := Text

namespace Token

/-- The arrow between the two sides of a replacement. -/
def arrow : Token :=
  "=>".toList

/-- The parenthesis that opens a block. -/
def blockStart : Token :=
  ['(']

/-- The parenthesis that closes a block. -/
def blockEnd : Token :=
  [')']

/-- The two slashes that open a comment. -/
def commentStart : Text :=
  "//".toList

/-- The characters between tokens. -/
def isSeparator (character : Char) : Bool :=
  character == ' ' || character == '\t' || character == '\r'

/-- The characters that open a quoted text. -/
def isQuote (character : Char) : Bool :=
  character == '"' || character == '\u0060'

/-- The two parentheses. -/
def isParenthesis (character : Char) : Bool :=
  character == '(' || character == ')'

/-- Whether a bare word ends in front of this text. -/
def endsWord : Text → Bool
  | [] => true
  | character :: rest =>
      isSeparator character || isQuote character || isParenthesis character ||
        commentStart.isPrefixOf (character :: rest) || arrow.isPrefixOf (character :: rest)

/-- The bare word a text starts with, and the text behind it. -/
def readWord : Text → Token × Text
  | [] => ([], [])
  | character :: rest =>
      if endsWord (character :: rest) then
        ([], character :: rest)
      else
        let (word, behind) := readWord rest
        (character :: word, behind)

/--
The text up to and with the closing quote, and the text behind it.  Within double quotes a
backslash takes the next character along.
-/
def readQuoted? (quote : Char) : Text → Option (Text × Text)
  | [] => none
  | '\\' :: next :: rest =>
      if quote = '"' then
        (readQuoted? quote rest).map fun (quoted, behind) => ('\\' :: next :: quoted, behind)
      else
        (readQuoted? quote (next :: rest)).map fun (quoted, behind) => ('\\' :: quoted, behind)
  | character :: rest =>
      if character = quote then
        some ([character], rest)
      else
        (readQuoted? quote rest).map fun (quoted, behind) => (character :: quoted, behind)

/-- What a text starts with, and the text behind it. -/
inductive Piece where
  | separator (behind : Text)
  | comment (comment : Text)
  | token (token : Token) (behind : Text)
  | unterminated
  deriving Repr, DecidableEq

/-- Read the first piece of a line. -/
def readPiece (character : Char) (rest : Text) : Piece :=
  if isSeparator character then
    .separator rest
  else if commentStart.isPrefixOf (character :: rest) then
    .comment (Text.trimEnd (character :: rest))
  else
    match Text.after? arrow (character :: rest) with
    | some behind => .token arrow behind
    | none =>
        if isParenthesis character then
          .token [character] rest
        else if isQuote character then
          match readQuoted? character rest with
          | some (quoted, behind) => .token (character :: quoted) behind
          | none => .unterminated
        else
          .token (character :: (readWord rest).1) (readWord rest).2

/-- What is left behind a bare word is no longer than the text. -/
theorem readWord_length (text : Text) : (readWord text).2.length ≤ text.length := by
  induction text with
  | nil => exact Nat.le_refl _
  | cons character rest inductionHypothesis =>
      unfold readWord
      split
      · exact Nat.le_refl _
      · exact Nat.le_succ_of_le inductionHypothesis

/-- What is left behind a quoted text is shorter than the text. -/
theorem readQuoted?_length
    {quote : Char}
    {text quoted behind : Text}
    (found : readQuoted? quote text = some (quoted, behind)) :
    behind.length < text.length := by
  fun_induction readQuoted? quote text generalizing quoted with
  | case1 => cases found
  | case2 next rest isDouble inductionHypothesis =>
      obtain ⟨⟨inner, left⟩, within, same⟩ := Option.map_eq_some_iff.mp found
      cases same
      have shorter := inductionHypothesis within
      simp only [List.length_cons]
      omega
  | case3 next rest isRaw inductionHypothesis =>
      obtain ⟨⟨inner, left⟩, within, same⟩ := Option.map_eq_some_iff.mp found
      cases same
      have shorter := inductionHypothesis within
      simp only [List.length_cons] at shorter ⊢
      omega
  | case4 rest opened =>
      cases found
      exact Nat.lt_succ_self _
  | case5 character rest other closes inductionHypothesis =>
      obtain ⟨⟨inner, left⟩, within, same⟩ := Option.map_eq_some_iff.mp found
      cases same
      exact Nat.lt_succ_of_lt (inductionHypothesis within)

/-- What is left behind a separator is shorter than the line. -/
theorem length_of_separator
    {character : Char}
    {rest behind : Text}
    (read : readPiece character rest = .separator behind) :
    behind.length < (character :: rest).length := by
  unfold readPiece at read
  split at read
  · cases read
    exact Nat.lt_succ_self _
  · split at read
    · cases read
    · split at read
      · cases read
      · split at read
        · cases read
        · split at read
          · split at read <;> cases read
          · cases read

/-- What is left behind a token is shorter than the line. -/
theorem length_of_token
    {character : Char}
    {rest behind : Text}
    {token : Token}
    (read : readPiece character rest = .token token behind) :
    behind.length < (character :: rest).length := by
  unfold readPiece at read
  split at read
  · cases read
  · split at read
    · cases read
    · split at read
      · next found =>
          cases read
          have whole := congrArg List.length (Text.after?_eq_some_iff.mp found)
          rw [whole]
          simp only [arrow, List.length_append]
          exact Nat.lt_add_of_pos_left (by decide)
      · split at read
        · cases read
          exact Nat.lt_succ_self _
        · split at read
          · split at read
            · next found =>
                cases read
                exact Nat.lt_succ_of_lt (readQuoted?_length found)
            · cases read
          · cases read
            exact Nat.lt_succ_of_le (readWord_length rest)

/-- The tokens of a line and the comment at its end. -/
structure Row where
  tokens : List Token
  comment : Option Text
  deriving Repr, DecidableEq

/-- Read a line as tokens and a comment, unless a quote is not closed. -/
def readRow? : Text → Option Row
  | [] => some { tokens := [], comment := none }
  | character :: rest =>
      match _read : readPiece character rest with
      | .separator behind => readRow? behind
      | .comment comment => some { tokens := [], comment := some comment }
      | .token token behind =>
          (readRow? behind).map fun row => { row with tokens := token :: row.tokens }
      | .unterminated => none
  termination_by text => text.length
  decreasing_by
    · exact length_of_separator _read
    · exact length_of_token _read

/-- The text between a quote and the same quote at the end. -/
def between? (quote : Char) (token : Token) : Option Text :=
  (Text.after? [quote] token).bind (Text.before? [quote])

/-- What a token stands for: a quoted text without its quotes, any other token as it is. -/
def value (token : Token) : Text :=
  match between? '\u0060' token with
  | some raw => raw
  | none =>
      match between? '"' token with
      | some quoted => Text.unescape quoted
      | none => token

/-- Whether a value has to be quoted to be read as one token. -/
def needsQuotes (value : Text) : Bool :=
  value = [] ||
    value.any (fun character =>
      Text.isBlank character || isQuote character || isParenthesis character ||
        character == '\u0027') ||
    Text.mentions commentStart value || Text.mentions arrow value

/-- The token that stands for a value. -/
def ofValue (value : Text) : Token :=
  if needsQuotes value then
    Text.quoted value
  else
    value

end Token

end ModuleUpdate
