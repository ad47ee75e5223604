import ModuleUpdate.ModulePath
import ModuleUpdate.Manifest.Error

namespace ModuleUpdate

/-!
# Dependencies

A dependency asks for a module at a version.  Where it names the version it is upgraded from, the
two versions decide whether the upgrade moves the module to another path.
-/

/-- A module that is asked for at a version. -/
structure Dependency where
  name : Text
  version : Text
  previous : Option Text := none
  indirect : Bool := false
  deriving Repr, DecidableEq

namespace Dependency

/-- A dependency whose versions are brought to their canonical spelling. -/
def ofVersions
    (name version : Text)
    (previous : Option Text := none)
    (indirect : Bool := false) :
    Dependency :=
  { name, version := Version.canonical version, previous := previous.map Version.canonical,
    indirect }

/-- The first of the dependency's versions that is not valid. -/
def invalidVersion? (dependency : Dependency) : Option Text :=
  (dependency.version :: dependency.previous.toList).find? fun version =>
    !Version.isValid version

/-- Refuse a dependency with a version that is not valid. -/
def validate (dependency : Dependency) : Except ManifestError Unit :=
  match dependency.invalidVersion? with
  | some version => .error (.invalidVersion dependency.name version)
  | none => .ok ()

/-- The path that the dependency is upgraded from, where the upgrade changes the path. -/
def majorUpgradeFrom? (dependency : Dependency) : Option Text :=
  (dependency.previous.bind (ModulePath.atVersion? dependency.name)).filter fun old =>
    ModulePath.isMajorChange old dependency.name

/-- The dependency in words: its name, its versions and its marker. -/
def description (dependency : Dependency) : Text :=
  let upgrade :=
    match dependency.previous with
    | some previous => previous ++ " -> ".toList ++ dependency.version
    | none => dependency.version
  let marker := if dependency.indirect then " (indirect)".toList else []
  dependency.name ++ ' ' :: upgrade ++ marker

end Dependency

end ModuleUpdate
