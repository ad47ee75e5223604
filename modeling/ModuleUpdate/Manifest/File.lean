import ModuleUpdate.Failure
import ModuleUpdate.Manifest.Canonical

namespace ModuleUpdate

/-!
# Manifest files

The manifest of a module is read once, edited in memory, and written back only if its canonical
text is another than what the file holds.
-/

/-- A manifest that was read from a file, with the text that the file holds. -/
structure ManifestFile where
  path : Text
  manifest : Manifest
  stored : Text
  deriving Repr, DecidableEq

/-- A manifest file and its tree after saving, and whether the file was written. -/
structure SavedManifest where
  file : ManifestFile
  tree : FileTree
  written : Bool

namespace ManifestFile

/-- The path of the manifest of the module in a directory. -/
def pathIn (directory : Text) : Text :=
  FilePath.child directory manifestName

/-- Read the manifest of the module in a directory. -/
def load (tree : FileTree) (directory : Text) : Except Failure ManifestFile :=
  let path := pathIn directory
  match tree.read path with
  | .error .missing => .error (.manifestNotFound path)
  | .error fault => .error (.manifestUnreadable path fault)
  | .ok stored =>
      match Manifest.ofText stored with
      | .error error => .error (.manifest error)
      | .ok manifest => .ok { path, manifest, stored }

/-- Bring the manifest to its canonical form and write it back if its text changes by that. -/
def save (file : ManifestFile) (tree : FileTree) : SavedManifest :=
  let manifest := file.manifest.canonical
  let text := manifest.toText
  if text = file.stored then
    { file := { file with manifest }, tree, written := false }
  else
    match tree.resolve file.path with
    | .file location _ =>
        { file := { file with manifest, stored := text }
          tree := tree.write location (Text.toBytes text)
          written := true }
    | _ => { file := { file with manifest, stored := text }, tree, written := true }

end ManifestFile

end ModuleUpdate
