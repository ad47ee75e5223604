import ModuleUpdate.Failure
import ModuleUpdate.Note
import ModuleUpdate.Package
import ModuleUpdate.Source.Move

namespace ModuleUpdate

/-!
# Moving the imports of a tree

When a module moves to another path, the sources that import it follow.  All sources are
read before the first is written, so that a source that cannot be read leaves every file as it
was.  Then the sources are visited in turn.  The full path of each is found out before it is
written, and where that fails the sources visited earlier stay written.
-/

/-- A tree with its imports moved, and the files that changed by that, in words. -/
structure ImportMove where
  tree : FileTree
  changed : List Text
  notes : List Note

/-- A move of imports that came to an end early, with what it left behind. -/
structure HaltedMove where
  failure : Failure
  tree : FileTree
  notes : List Note := []

namespace ImportMove

/-- The files that import the old module, with their new texts. -/
def affected (files : List SourceFile) (old new : Text) : List (SourceFile × Text) :=
  files.filterMap fun file =>
    (Source.moveImports? file.text file.header old new).map fun text => (file, text)

/-- The tree with new texts for files below a root. -/
def writeAll (tree : FileTree) (root : Location) (files : List (SourceFile × Text)) : FileTree :=
  files.foldl
    (fun tree (file, text) => tree.write (root ++ file.names) (Text.toBytes text))
    tree

/-- Whether the full path of a file below a directory can be found out. -/
def isReached (tree : FileTree) (directory : Text) (file : SourceFile) : Bool :=
  tree.isResolvable (FilePath.descendant directory file.names)

/--
Move the imports below a directory from one module to another.  Changed files are told relative
to a second directory, sorted.
-/
def below
    (tree : FileTree)
    (directory relativeTo old new : Text) :
    Except HaltedMove ImportMove :=
  match PackageGraph.load tree directory with
  | .error error => .error { failure := .imports error, tree }
  | .ok graph =>
      -- Writing moves no file, so which files are reached is told before the first is written.
      let files := affected (graph.visited.takeWhile (isReached tree directory)) old new
      let paths := files.map fun (file, _) => FilePath.descendant directory file.names
      let written := writeAll tree graph.root files
      let notes := paths.map Note.changed
      match graph.visited.find? fun file => !isReached tree directory file with
      | some file =>
          let path := FilePath.descendant directory file.names
          .error { failure := .unreadable path .tooLong, tree := written, notes }
      | none =>
          .ok
            { tree := written
              changed :=
                stableSort (fun left right => (compare left right).isLT)
                  (paths.map (FilePath.relativeTo relativeTo))
              notes }

end ImportMove

end ModuleUpdate
