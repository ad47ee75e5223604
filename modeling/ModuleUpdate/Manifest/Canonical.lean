import ModuleUpdate.LongSort
import ModuleUpdate.Manifest

namespace ModuleUpdate

/-!
# Canonical manifests

A manifest is brought to its canonical form by sorting its blocks and tidying it: empty blocks
go, and a block with one line becomes a single directive where its comments allow that.  The order
of lines need not be total.  Where it is not, sorting a long block may break off, and the order of
its lines is unspecified otherwise; here they are sorted by insertion.
-/

namespace Token

/-- The order of values: versions by precedence, then and otherwise as text. -/
def valueOrder (left right : Text) : Ordering :=
  if Version.isValid left ∧ Version.isValid right then
    (Version.order left right).then (compare left right)
  else
    compare left right

/-- The order of rows of tokens: the first difference decides, and a longer row is higher. -/
def rowOrder : List Token → List Token → Ordering
  | [], [] => .eq
  | [], _ :: _ => .lt
  | _ :: _, [] => .gt
  | left :: lefts, right :: rights =>
      (valueOrder left.value right.value).then (rowOrder lefts rights)

end Token

namespace Line

/-- A line stands before another when its arguments are lower. -/
def precedes (left right : Line) : Bool :=
  (Token.rowOrder left.arguments right.arguments).isLT

end Line

namespace Block

/-- The block with its lines sorted, where its verb asks for that. -/
def sorted (block : Block) : Block :=
  if block.verb.isSorted then
    { block with lines := stableSort Line.precedes block.lines }
  else
    block

/-- Whether sorting the block goes through. -/
def isSortable (block : Block) : Bool :=
  !block.verb.isSorted || LongSort.goesThrough Line.precedes block.lines

/--
The single directive that a block with one line becomes.  It takes the comments of the block and
of the line, so there may be only one comment behind it and none in front of the closing
parenthesis.
-/
def collapsed? (block : Block) : Option Line :=
  match block.lines with
  | [line] =>
      if
          block.closing.all (· = []) ∧
            ¬(block.comments.trailing.isSome ∧ line.comments.trailing.isSome) then
        let before := (block.comments.before ++ line.comments.before).filter (· ≠ [])
        let trailing := line.comments.trailing.or block.comments.trailing
        some { line with comments := { before, trailing } }
      else
        none
  | _ => none

end Block

namespace Content

/-- The statement with its block sorted. -/
def sorted : Content → Content
  | .block group => .block group.sorted
  | content => content

/-- Whether sorting the statement goes through. -/
def isSortable : Content → Bool
  | .block group => group.isSortable
  | _ => true

/-- The statement without superfluous parentheses, unless it is an empty block. -/
def tidied? : Content → Option Content
  | .block group =>
      if group.lines = [] then
        none
      else
        match group.collapsed? with
        | some line => some (.directive group.verb line)
        | none => some (.block group)
  | content => some content

end Content

namespace Manifest

/-- The manifest with the lines of its blocks in order. -/
def sorted (manifest : Manifest) : Manifest :=
  { statements :=
      manifest.statements.map fun statement =>
        { statement with content := statement.content.sorted } }

/-- Whether sorting the blocks goes through. -/
def isSortable (manifest : Manifest) : Bool :=
  manifest.statements.all fun statement => statement.content.isSortable

/-- The manifest without empty blocks and without superfluous parentheses. -/
def tidied (manifest : Manifest) : Manifest :=
  { statements :=
      manifest.statements.filterMap fun statement =>
        statement.content.tidied?.map fun content => { statement with content } }

/-- The canonical form of a manifest. -/
def canonical (manifest : Manifest) : Manifest :=
  manifest.sorted.tidied

/-- The canonical text of a manifest. -/
def format (manifest : Manifest) : Text :=
  manifest.canonical.toText

end Manifest

end ModuleUpdate
