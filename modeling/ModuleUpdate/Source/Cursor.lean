import ModuleUpdate.Source.Lexeme

namespace ModuleUpdate.Source

/-!
# Cursors

A cursor is a place in a source: its byte offset, its line, and the text from there on.  Moving
past a text counts its bytes and its line feeds.  Each step over a lexeme leaves a shorter text,
which is why reading a source ends.
-/

/-- A place in a source: bytes from the start, and the line counted from one. -/
structure Position where
  offset : Nat := 0
  line : Nat := 1
  deriving Repr, DecidableEq

namespace Position

/-- The place behind a text that starts here. -/
def past (position : Position) (text : Text) : Position :=
  { offset := position.offset + Text.byteLength text
    line := position.line + text.count '\n' }

end Position

/-- A place in a source and the text from there on. -/
structure Cursor where
  position : Position
  text : Text
  deriving Repr, DecidableEq

/-- A lexeme with the bytes it spans and the line it starts on. -/
structure Lexeme where
  kind : Kind
  start : Nat
  stop : Nat
  line : Nat
  deriving Repr, DecidableEq

/-- What stands at a cursor: a lexeme, the end of the source on a line, or a fault. -/
inductive Step where
  | lexeme (lexeme : Lexeme) (behind : Cursor)
  | finished (line : Nat)
  | broken (error : ScanError)
  deriving Repr, DecidableEq

namespace Cursor

/-- The start of a source; a byte order mark is passed over. -/
def ofText (text : Text) : Cursor :=
  match text with
  | [] => { position := {}, text := [] }
  | character :: rest =>
      if character = Char.ofNat 0xFEFF then
        { position := Position.past {} [character], text := rest }
      else
        { position := {}, text := character :: rest }

/-- The step over white space and comments to the next lexeme and over it. -/
def next (cursor : Cursor) : Step :=
  match skipTrivia cursor.text with
  | .openComment trivia =>
      .broken
        { line := (cursor.position.past trivia).line, fault := .commentNotTerminated }
  | .clear trivia [] => .finished (cursor.position.past trivia).line
  | .clear trivia (character :: rest) =>
      let start := cursor.position.past trivia
      match readLexeme character rest with
      | .fault fault => .broken { line := start.line, fault }
      | .lexeme kind spelling behind =>
          let stop := start.past spelling
          .lexeme
            { kind, start := start.offset, stop := stop.offset, line := start.line }
            { position := stop, text := behind }

end Cursor

/-- Trivia and what is behind it make up the text. -/
theorem skipTrivia_append
    {text trivia behind : Text}
    (skipped : skipTrivia text = .clear trivia behind) :
    trivia ++ behind = text := by
  fun_induction skipTrivia text generalizing trivia with
  | case1 =>
      cases skipped
      rfl
  | case2 rest inductionHypothesis =>
      cases inner : skipTrivia (rest.dropWhile staysOnLine) with
      | openComment _ => simp [inner, Skipped.after] at skipped
      | clear later left =>
          simp only [inner, Skipped.after, Skipped.clear.injEq] at skipped
          obtain ⟨rfl, rfl⟩ := skipped
          have whole := inductionHypothesis inner
          simp [whole]
  | case3 rest comment left found inductionHypothesis =>
      cases inner : skipTrivia left with
      | openComment _ => simp [inner, Skipped.after] at skipped
      | clear later last =>
          simp only [inner, Skipped.after, Skipped.clear.injEq] at skipped
          obtain ⟨rfl, rfl⟩ := skipped
          have whole := inductionHypothesis inner
          have comments := readBlockComment?_append found
          simp [whole, comments]
  | case4 => cases skipped
  | case5 character rest _ _ blank inductionHypothesis =>
      cases inner : skipTrivia rest with
      | openComment _ => simp [inner, Skipped.after] at skipped
      | clear later left =>
          simp only [inner, Skipped.after, Skipped.clear.injEq] at skipped
          obtain ⟨rfl, rfl⟩ := skipped
          have whole := inductionHypothesis inner
          simp [whole]
  | case6 =>
      cases skipped
      rfl

namespace Cursor

/-- A step over a lexeme leaves a shorter text. -/
theorem length_of_next
    {cursor behind : Cursor}
    {lexeme : Lexeme}
    (step : cursor.next = .lexeme lexeme behind) :
    behind.text.length < cursor.text.length := by
  unfold next at step
  split at step
  · cases step
  · cases step
  · next trivia character rest skipped =>
      have whole := congrArg List.length (skipTrivia_append skipped)
      split at step
      · cases step
      · next kind spelling left read =>
          cases step
          have pieces := congrArg List.length (readLexeme_append read)
          have someSpelling := List.length_pos_iff.mpr (readLexeme_spelling_ne_nil read)
          simp only [List.length_append, List.length_cons] at whole pieces
          show left.length < cursor.text.length
          omega

end Cursor

end ModuleUpdate.Source
