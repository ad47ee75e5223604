import ModuleUpdate.ImportMove
import ModuleUpdate.Manifest.Editing
import ModuleUpdate.Manifest.File

namespace ModuleUpdate

/-!
# Updating dependencies

A batch of dependencies is applied to the manifest of a module.  The whole batch is validated
first.  A dependency that moves to another path drops the requirement of the old path and
redirects the imports of the tree.  The manifest is written once, at the end, if its lines can be
sorted.
-/

/-- What a task leaves behind: its result or the reason for having none, and what it did. -/
structure Outcome (Result : Type) where
  result : Except Failure Result
  tree : FileTree
  notes : List Note := []

/-- A dependency and the path that it moves away from, if it does. -/
structure Change where
  dependency : Dependency
  oldPath : Option Text
  deriving Repr, DecidableEq

/-- The state between two changes of a batch. -/
structure Batch where
  directory : Text
  tree : FileTree
  file : ManifestFile
  changed : List Text := []
  notes : List Note := []

namespace Change

/-- Validate a dependency and find out whether it moves. -/
def ofDependency (dependency : Dependency) : Except ManifestError Change :=
  dependency.validate.map fun _ => { dependency, oldPath := dependency.majorUpgradeFrom? }

/-- Validate dependencies in order up to the first that is refused. -/
def ofDependencies : List Dependency → Except ManifestError (List Change)
  | [] => .ok []
  | dependency :: following =>
      match ofDependency dependency with
      | .error error => .error error
      | .ok change =>
          match ofDependencies following with
          | .error error => .error error
          | .ok changes => .ok (change :: changes)

end Change

namespace Batch

/-- The state with one more note. -/
def note (batch : Batch) (note : Note) : Batch :=
  { batch with notes := batch.notes ++ [note] }

/-- The state with another manifest. -/
def withManifest (batch : Batch) (manifest : Manifest) : Batch :=
  { batch with file := { batch.file with manifest } }

/-- Move a module: its old requirement goes, and its imports follow. -/
def move (batch : Batch) (old new : Text) : Batch × Option Failure :=
  let noted :=
    batch.note (.detail "major upgrade".toList (old ++ " => ".toList ++ new))
  match ImportMove.below batch.tree batch.directory batch.directory old new with
  | .error halted =>
      ({ noted with tree := halted.tree, notes := noted.notes ++ halted.notes },
        some halted.failure)
  | .ok moved =>
      ({ noted.withManifest (batch.file.manifest.drop old) with
          tree := moved.tree
          changed := batch.changed ++ moved.changed
          notes := noted.notes ++ moved.notes },
        none)

/-- Require a dependency and set its marker. -/
def require (batch : Batch) (dependency : Dependency) : Batch × Option Failure :=
  match batch.file.manifest.require dependency.name dependency.version with
  | .error error => (batch, some (.manifest error))
  | .ok manifest =>
      let marked := manifest.markIndirect? dependency.name dependency.indirect
      (batch.withManifest (marked.getD manifest), none)

/-- Apply a change; a failure leaves what was done before it. -/
def apply (batch : Batch) (change : Change) : Batch × Option Failure :=
  let noted := batch.note (.step change.dependency.description)
  match change.oldPath with
  | none => noted.require change.dependency
  | some old =>
      match noted.move old change.dependency.name with
      | (stopped, some failure) => (stopped, some failure)
      | (moved, none) => moved.require change.dependency

/-- Apply changes in order up to the first that fails. -/
def applyAll (batch : Batch) : List Change → Batch × Option Failure
  | [] => (batch, none)
  | change :: following =>
      match batch.apply change with
      | (stopped, some failure) => (stopped, some failure)
      | (applied, none) => applied.applyAll following

/-- Write the manifest, whose lines can be sorted, and tell which sources changed. -/
def finish (batch : Batch) : Outcome (List Text) :=
  let saved := batch.file.save batch.tree
  let label := if saved.written then "wrote".toList else "unchanged".toList
  { result := .ok (sortedSet batch.changed)
    tree := saved.tree
    notes := batch.notes ++ [.detail label batch.file.path] }

/-- Finish the batch, unless sorting the lines of the manifest breaks off. -/
def conclude (batch : Batch) : Outcome (List Text) :=
  if batch.file.manifest.isSortable then
    batch.finish
  else
    { result := .error .unsortable, tree := batch.tree, notes := batch.notes }

end Batch

/--
Update the dependencies of the module in a directory.  The result is the sorted list of the
sources that changed, relative to the directory.
-/
def updateDependencies
    (tree : FileTree)
    (directory : Text)
    (dependencies : List Dependency) :
    Outcome (List Text) :=
  let notes := [Note.step ("Loading ".toList ++ ManifestFile.pathIn directory)]
  match ManifestFile.load tree directory with
  | .error failure => { result := .error failure, tree, notes }
  | .ok file =>
      match Change.ofDependencies dependencies with
      | .error error => { result := .error (.manifest error), tree, notes }
      | .ok changes =>
          match Batch.applyAll { directory, tree, file, notes } changes with
          | (batch, none) => batch.conclude
          | (batch, some failure) =>
              { result := .error failure, tree := batch.tree, notes := batch.notes }

end ModuleUpdate
