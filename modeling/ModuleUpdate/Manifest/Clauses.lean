import ModuleUpdate.Text

namespace ModuleUpdate

/-!
# Clauses of a trailing comment

A comment behind a directive holds clauses separated by semicolons, as in
`// indirect; needed by the tests`.  A requirement is indirect when the marker is its first
clause, so that is where the marker is put.
-/

/-- The clauses of a trailing comment in order. -/
structure Clauses where
  items : List Text
  deriving Repr, DecidableEq

namespace Clauses

/-- The clause that marks a requirement as indirect. -/
def indirectMarker : Text :=
  "indirect".toList

/-- The two slashes that open a comment. -/
def opening : Text :=
  "//".toList

/-- The clauses of a comment, which may stand without its slashes, or of no comment. -/
def ofComment : Option Text → Clauses
  | none => { items := [] }
  | some comment =>
      let body := Text.dropOpening opening (Text.trim comment)
      { items := ((body.splitOn ';').map Text.trim).filter (· ≠ []) }

/-- The marker is the first clause. -/
def isIndirect (clauses : Clauses) : Bool :=
  clauses.items.head? == some indirectMarker

/-- The clauses with the marker put in front or taken away, where that changes anything. -/
def withIndirect? (clauses : Clauses) (indirect : Bool) : Option Clauses :=
  if clauses.isIndirect = indirect then
    none
  else if indirect then
    some { items := indirectMarker :: clauses.items }
  else
    some { items := clauses.items.tail }

/-- The comment that the clauses make up, if there are any. -/
def toComment (clauses : Clauses) : Option Text :=
  if clauses.items = [] then
    none
  else
    some (opening ++ ' ' :: Text.join "; ".toList clauses.items)

/-- A trailing comment with the marker set, spelled anew only where the marker changes. -/
def markComment (comment : Option Text) (indirect : Bool) : Option Text :=
  match (ofComment comment).withIndirect? indirect with
  | some clauses => clauses.toComment
  | none => comment

end Clauses

end ModuleUpdate
