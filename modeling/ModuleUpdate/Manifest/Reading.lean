import ModuleUpdate.Manifest.Error
import ModuleUpdate.Manifest.Statement

namespace ModuleUpdate

/-!
# Reading statements

A manifest is read line by line.  The draft holds what the lines so far amount to: finished
statements, the comments and the blank line that wait for the next statement, and the block that
is still open.
-/

/-- A block whose closing parenthesis is still to come, with the comments read behind its lines. -/
structure OpenBlock where
  block : Block
  blankBefore : Bool
  pending : List Text := []
  deriving Repr, DecidableEq

/-- What the lines read so far amount to. -/
structure Draft where
  statements : List Statement := []
  pending : List Text := []
  blankBefore : Bool := false
  openBlock : Option OpenBlock := none
  deriving Repr, DecidableEq

namespace OpenBlock

/-- Keep a comment or a blank line; blank lines in a row count once. -/
def addRemark (opened : OpenBlock) (comment : Option Text) : OpenBlock :=
  match comment with
  | some comment => { opened with pending := opened.pending ++ [comment] }
  | none =>
      if opened.pending.getLast? = some [] then
        opened
      else
        { opened with pending := opened.pending ++ [[]] }

/-- Add a directive, which takes the waiting comments. -/
def addLine (opened : OpenBlock) (number : Nat) (row : Token.Row) : OpenBlock :=
  let line : Line :=
    { arguments := row.tokens
      comments := { before := opened.pending, trailing := row.comment }
      number }
  { opened with
    block := { opened.block with lines := opened.block.lines ++ [line] }
    pending := [] }

/-- The statement that the block makes once it is closed. -/
def close (opened : OpenBlock) : Statement :=
  { content := .block { opened.block with closing := opened.pending }
    blankBefore := opened.blankBefore }

end OpenBlock

namespace Draft

/-- A token that is a parenthesis. -/
def isParenthesis (token : Token) : Bool :=
  token == Token.blockStart || token == Token.blockEnd

/-- The waiting comments as a free-standing statement, if there are any. -/
def flushed (draft : Draft) : List Statement :=
  if draft.pending = [] then
    draft.statements
  else
    draft.statements ++ [{ content := .remark draft.pending, blankBefore := draft.blankBefore }]

/-- Read a row inside a block. -/
def addInside
    (draft : Draft)
    (opened : OpenBlock)
    (number : Nat)
    (row : Token.Row) :
    Except ManifestError Draft :=
  if row.tokens = [] then
    .ok { draft with openBlock := some (opened.addRemark row.comment) }
  else if row.tokens = [Token.blockEnd] then
    .ok { draft with statements := draft.statements ++ [opened.close], openBlock := none }
  else if row.tokens.any isParenthesis then
    .error (.lineFault number .parenthesisInBlock)
  else
    .ok { draft with openBlock := some (opened.addLine number row) }

/-- Read a row without tokens between statements. -/
def addRemark (draft : Draft) (comment : Option Text) : Draft :=
  match comment with
  | some comment => { draft with pending := draft.pending ++ [comment] }
  | none =>
      { draft with
        statements := draft.flushed
        pending := []
        blankBefore := draft.flushed ≠ [] }

/-- Start a statement with a verb; its comments are those that wait and the one of its row. -/
def addDirective
    (draft : Draft)
    (number : Nat)
    (verb : Verb)
    (arguments : List Token)
    (comment : Option Text) :
    Except ManifestError Draft :=
  let comments : Comments := { before := draft.pending, trailing := comment }
  let continued : Draft := { draft with pending := [], blankBefore := false }
  if arguments = [Token.blockStart] then
    if verb.standsAlone then
      .error (.lineFault number (.blockRefused verb))
    else
      .ok
        { continued with
          openBlock :=
            some { block := { verb, comments, number }, blankBefore := draft.blankBefore } }
  else if arguments.any isParenthesis then
    .error (.lineFault number .unexpectedParenthesis)
  else
    let statement : Statement :=
      { content := .directive verb { arguments, comments, number }
        blankBefore := draft.blankBefore }
    .ok { continued with statements := draft.statements ++ [statement] }

/-- Read a row between statements. -/
def addOutside
    (draft : Draft)
    (number : Nat)
    (row : Token.Row) :
    Except ManifestError Draft :=
  match row.tokens with
  | [] => .ok (draft.addRemark row.comment)
  | word :: arguments =>
      if isParenthesis word then
        .error (.lineFault number .unexpectedParenthesis)
      else
        match Verb.ofWord? word with
        | none => .error (.lineFault number (.unknownDirective word))
        | some verb => draft.addDirective number verb arguments row.comment

/-- Read one more line. -/
def addLine (draft : Draft) (number : Nat) (line : Text) : Except ManifestError Draft :=
  match Token.readRow? line, draft.openBlock with
  | none, _ => .error (.lineFault number .unterminatedQuote)
  | some row, some opened => draft.addInside opened number row
  | some row, none => draft.addOutside number row

/-- Read lines in order, the first of which has the given number. -/
def addLines (draft : Draft) (number : Nat) : List Text → Except ManifestError Draft
  | [] => .ok draft
  | line :: following =>
      match draft.addLine number line with
      | .error error => .error error
      | .ok extended => extended.addLines (number + 1) following

/-- The statements of a finished draft; an open block is an error on its first line. -/
def finish (draft : Draft) : Except ManifestError (List Statement) :=
  match draft.openBlock with
  | some opened => .error (.lineFault opened.block.number (.unterminatedBlock opened.block.verb))
  | none => .ok draft.flushed

end Draft

/-- Read the statements of a manifest's text. -/
def Statement.ofText (text : Text) : Except ManifestError (List Statement) :=
  match Draft.addLines {} 1 (Text.lines text) with
  | .error error => .error error
  | .ok draft => draft.finish

end ModuleUpdate
