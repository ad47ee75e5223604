import ModuleUpdate.Manifest.File
import ModuleUpdate.Proofs.FileTree

namespace ModuleUpdate.ManifestFile

/-!
# Reading and saving manifest files

A saved manifest is read back in its canonical form, and saving it writes no other file.
-/

theorem load_eq_ok_iff
    {tree : FileTree}
    {directory : Text}
    {file : ManifestFile} :
    load tree directory = .ok file ↔
      file.path = pathIn directory ∧
        tree.read (pathIn directory) = .ok file.stored ∧
        Manifest.ofText file.stored = .ok file.manifest := by
  unfold load
  dsimp only
  constructor
  · intro loaded
    split at loaded
    · cases loaded
    · cases loaded
    · next stored held =>
        split at loaded
        · cases loaded
        · next manifest read =>
            cases loaded
            exact ⟨rfl, held, read⟩
  · rintro ⟨path, held, read⟩
    rw [held]
    dsimp only
    rw [read, ← path]

/-- A saved manifest is read back in its canonical form. -/
theorem read_save
    {file : ManifestFile}
    {tree : FileTree}
    {directory : Text}
    (path : file.path = pathIn directory)
    (stored : tree.read file.path = .ok file.stored) :
    (file.save tree).tree.read file.path = .ok file.manifest.format := by
  unfold save
  dsimp only
  split
  · next unchanged =>
      rw [stored, ← unchanged]
      rfl
  · cases led : tree.resolve file.path with
    | file location bytes =>
        have held : tree.file? location = some bytes := by
          rw [path] at led
          exact (FileTree.file?_of_resolve (by decide) led).1
        have isFile : (tree.file? location).isSome = true := by
          rw [held]
          rfl
        have layout := FileTree.sameLayout_write isFile (Text.toBytes file.manifest.format)
        have written := FileTree.file?_write tree location location
          (Text.toBytes file.manifest.format)
        rw [if_pos rfl] at written
        change (tree.write location (Text.toBytes file.manifest.format)).read file.path = _
        simp only [FileTree.read]
        rw [layout.resolve, led]
        simp only [FileTree.refreshed, written, Option.getD_some, Text.ofBytes?_toBytes]
    | _ => simp [FileTree.read, led] at stored

/-- Saving a manifest writes no file of another name. -/
theorem file?_save_of_other
    {file : ManifestFile}
    {directory : Text}
    (path : file.path = pathIn directory)
    (tree : FileTree)
    {location : Location}
    (isOther : location.getLast? ≠ some manifestName) :
    (file.save tree).tree.file? location = tree.file? location := by
  unfold save
  dsimp only
  split
  · rfl
  · cases led : tree.resolve file.path with
    | file written bytes =>
        rw [path] at led
        obtain ⟨_, last⟩ := FileTree.file?_of_resolve (by decide) led
        have elsewhere : location ≠ written := by
          rintro rfl
          exact isOther last
        have shows := FileTree.file?_write tree written location
          (Text.toBytes file.manifest.canonical.toText)
        rwa [if_neg elsewhere] at shows
    | _ => rfl

/-- Saving a manifest writes no source. -/
theorem file?_save
    {file : ManifestFile}
    {directory : Text}
    (path : file.path = pathIn directory)
    (tree : FileTree)
    {location : Location}
    (isSource : location.getLast?.any SourceFile.isSourceName = true) :
    (file.save tree).tree.file? location = tree.file? location := by
  refine file?_save_of_other path tree fun last => ?_
  rw [last] at isSource
  revert isSource
  decide

end ModuleUpdate.ManifestFile
