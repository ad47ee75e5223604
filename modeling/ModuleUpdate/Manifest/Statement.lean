import ModuleUpdate.Manifest.Token
import ModuleUpdate.Manifest.Verb

namespace ModuleUpdate

/-!
# Statements of a manifest

A manifest is a row of statements: single directives, blocks of directives that share their verb,
and free-standing comments.  Comments stay attached to the directive they precede or end, so that
printing what was read keeps them.
-/

/--
Comments of a directive or a block: whole lines above it, where an empty text is a blank line
inside a block, and the comment at the end of its line.
-/
structure Comments where
  before : List Text := []
  trailing : Option Text := none
  deriving Repr, DecidableEq

/-- The arguments of one directive; a line that was not read from a text has number zero. -/
structure Line where
  arguments : List Token
  comments : Comments := {}
  number : Nat := 0
  deriving Repr, DecidableEq

/--
Directives that share their verb.  The comments belong to the line that opens the block, and the
closing comments stand in front of the parenthesis that closes it.
-/
structure Block where
  verb : Verb
  lines : List Line := []
  comments : Comments := {}
  closing : List Text := []
  number : Nat := 0
  deriving Repr, DecidableEq

/-- What a statement consists of. -/
inductive Content where
  | directive (verb : Verb) (line : Line)
  | block (group : Block)
  | remark (comments : List Text)
  deriving Repr, DecidableEq

/-- A statement and whether blank lines stand in front of it. -/
structure Statement where
  content : Content
  blankBefore : Bool
  deriving Repr, DecidableEq

/-- One directive, wherever it stands. -/
structure Directive where
  verb : Verb
  line : Line
  deriving Repr, DecidableEq

namespace Content

/-- The verb of a directive or a block. -/
def verb? : Content → Option Verb
  | .directive verb _ => some verb
  | .block group => some group.verb
  | .remark _ => none

/-- The directives that a statement holds, in order. -/
def directives : Content → List Directive
  | .directive verb line => [{ verb, line }]
  | .block group => group.lines.map fun line => { verb := group.verb, line }
  | .remark _ => []

end Content

end ModuleUpdate
