import ModuleUpdate.Note
import ModuleUpdate.Manifest.File
import ModuleUpdate.Selection

namespace ModuleUpdate

/-!
# Finding an upgrade

The version to upgrade a dependency to.  Versions that the manifest of the module excludes, for
the module that is asked for or for its next major version, are left out, as are those that the
request excludes.
-/

/-- The result of a search: a version or why there is none, and what was asked and told. -/
structure Upgrade where
  result : Except Failure Text
  asked : List Text := []
  notes : List Note := []

namespace Upgrade

/-- The versions that a manifest excludes for a module and for its next major version. -/
def excluded (manifest : Manifest) (path : Text) : List Text :=
  manifest.excludedVersions path ++
    (ModulePath.next? path).toList.flatMap manifest.excludedVersions

/-- The exclusions of the manifest in a directory, where there is one. -/
def exclusions (tree : FileTree) (directory path : Text) : Except Failure (List Text) :=
  match tree.resolve (ManifestFile.pathIn directory) with
  | .file _ _ =>
      (ManifestFile.load tree directory).map fun file => excluded file.manifest path
  | _ => .ok []

/-- Find the version to upgrade a dependency of the module in a directory to. -/
def find
    (tree : FileTree)
    (directory : Text)
    (repository : Repository)
    (dependency : Option Dependency)
    (refused : List Text) :
    Upgrade :=
  match dependency with
  | none => { result := .error .dependencyMissing }
  | some dependency =>
      let notes :=
        [Note.step ("Looking up ".toList ++ dependency.description),
          Note.detail "repository".toList repository.name]
      match exclusions tree directory dependency.name with
      | .error failure => { result := .error failure, notes }
      | .ok excluded =>
          let latest := Selection.latest repository dependency (refused ++ excluded)
          match latest.answer with
          | .error error => { result := .error (.lookup error), asked := latest.asked, notes }
          | .ok version =>
              { result := .ok version
                asked := latest.asked
                notes := notes ++ [.detail "selected".toList version] }

end Upgrade

end ModuleUpdate
