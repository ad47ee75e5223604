import ModuleUpdate.Manifest

namespace ModuleUpdate

/-!
# Editing requirements

Requirements are changed where they stand.  A new one joins the last statement that requires
something, and a single directive becomes a block for it.
-/

/-- Change the first element that an attempt succeeds on. -/
def changeFirst? (attempt : α → Option α) : List α → Option (List α)
  | [] => none
  | element :: following =>
      match attempt element with
      | some changed => some (changed :: following)
      | none => (changeFirst? attempt following).map (element :: ·)

/-- Change the last element that an attempt succeeds on. -/
def changeLast? (attempt : α → Option α) : List α → Option (List α)
  | [] => none
  | element :: following =>
      match changeLast? attempt following with
      | some changed => some (element :: changed)
      | none => (attempt element).map (· :: following)

namespace Line

/-- The line of a new requirement. -/
def ofRequirement (path version : Text) : Line :=
  { arguments := [Token.ofValue path, Token.ofValue version] }

/-- Whether the line, taken as that of a requirement, requires a module. -/
def requires (path : Text) (line : Line) : Bool :=
  match line.arguments with
  | [name, _] => name.value == path
  | _ => false

/-- The line with another version. -/
def withVersion (version : Text) (line : Line) : Line :=
  match line.arguments with
  | [name, _] => { line with arguments := [name, Token.ofValue version] }
  | _ => line

/-- The line with the marker of indirect requirements set. -/
def withIndirect (indirect : Bool) (line : Line) : Line :=
  { line with
    comments :=
      { line.comments with trailing := Clauses.markComment line.comments.trailing indirect } }

end Line

namespace Content

/-- Change the line that requires a module, if it is in the statement. -/
def changeRequirement? (path : Text) (change : Line → Line) : Content → Option Content
  | .directive .require line =>
      if line.requires path then some (.directive .require (change line)) else none
  | .block group =>
      if group.verb = .require then
        (changeFirst? (fun line => if line.requires path then some (change line) else none)
          group.lines).map fun lines => .block { group with lines }
      else
        none
  | _ => none

/--
Add a line to a statement that requires something.  The comments above a single directive move
above the block that it becomes.
-/
def addRequirement? (added : Line) : Content → Option Content
  | .directive .require line =>
      let moved : Line := { line with comments := { line.comments with before := [] } }
      some
        (.block
          { verb := .require
            lines := [moved, added]
            comments := { before := line.comments.before }
            number := line.number })
  | .block group =>
      if group.verb = .require then
        some (.block { group with lines := group.lines ++ [added] })
      else
        none
  | _ => none

/-- The statement without the lines that require a module, unless nothing is left of it. -/
def dropRequirement? (path : Text) : Content → Option Content
  | .directive .require line =>
      if line.requires path then none else some (.directive .require line)
  | .block group =>
      if group.verb = .require then
        let kept :=
          group.lines.filter fun line => !line.arguments.head?.any (·.value == path)
        some (.block { group with lines := kept })
      else
        some (.block group)
  | content => some content

end Content

namespace Statement

/-- Attempt a change of a statement's content. -/
def changeContent?
    (attempt : Content → Option Content)
    (statement : Statement) :
    Option Statement :=
  (attempt statement.content).map fun content => { statement with content }

end Statement

namespace Manifest

/-- Change the line that requires a module, if there is one. -/
def changeRequirement?
    (manifest : Manifest)
    (path : Text)
    (change : Line → Line) :
    Option Manifest :=
  (changeFirst? (Statement.changeContent? (Content.changeRequirement? path change))
    manifest.statements).map fun statements => { statements }

/-- The manifest with a new requirement. -/
def addRequirement (manifest : Manifest) (path version : Text) : Manifest :=
  let added := Line.ofRequirement path version
  match
    changeLast? (Statement.changeContent? (Content.addRequirement? added))
      manifest.statements
  with
  | some statements => { statements }
  | none =>
      { statements :=
          manifest.statements ++
            [{ content := .directive .require added, blankBefore := true }] }

/-- Require a module at a version that has to be valid. -/
def require
    (manifest : Manifest)
    (path version : Text) :
    Except ManifestError Manifest :=
  if Version.isValid version then
    match manifest.changeRequirement? path (Line.withVersion version) with
    | some changed => .ok changed
    | none => .ok (manifest.addRequirement path version)
  else
    .error (.invalidVersion path version)

/-- Drop every requirement of a module. -/
def drop (manifest : Manifest) (path : Text) : Manifest :=
  { statements :=
      manifest.statements.filterMap
        (Statement.changeContent? (Content.dropRequirement? path)) }

/-- Set the marker of a module's requirement, if the module is required. -/
def markIndirect? (manifest : Manifest) (path : Text) (indirect : Bool) : Option Manifest :=
  manifest.changeRequirement? path (Line.withIndirect indirect)

end Manifest

end ModuleUpdate
