import ModuleUpdate.Version
import ModuleUpdate.Sorting
import ModuleUpdate.Manifest.Clauses
import ModuleUpdate.Manifest.Reading
import ModuleUpdate.Manifest.Printing

namespace ModuleUpdate

/-!
# Manifests

A manifest is a row of statements whose directives have the arguments that their verbs ask for
and which requires no module twice.  This module reads manifests and holds what they say: the
main module, the requirements, the exclusions and the replacements.
-/

/-- A required module; a requirement that was not read from a text has line zero. -/
structure Requirement where
  path : Text
  version : Text
  indirect : Bool
  line : Nat
  deriving Repr, DecidableEq

/-- A version of a module that must not be used. -/
structure Exclusion where
  path : Text
  version : Text
  deriving Repr, DecidableEq

/-- A module, possibly at one version only, that another module or a directory stands in for. -/
structure Replacement where
  oldPath : Text
  oldVersion : Option Text
  newPath : Text
  newVersion : Option Text
  deriving Repr, DecidableEq

namespace Replacement

/-- A module that stands in for itself is pinned. -/
def isPin (replacement : Replacement) : Bool :=
  replacement.oldPath == replacement.newPath

/-- A path and possibly a version. -/
def side? : List Token → Option (Text × Option Text)
  | [path] => some (path.value, none)
  | [path, version] => some (path.value, some version.value)
  | _ => none

/-- The replacement that arguments spell: one side on each side of the first arrow. -/
def ofArguments? (arguments : List Token) : Option Replacement :=
  let old := arguments.takeWhile (· ≠ Token.arrow)
  match arguments.dropWhile (· ≠ Token.arrow) with
  | [] => none
  | _ :: new =>
      match side? old, side? new with
      | some (oldPath, oldVersion), some (newPath, newVersion) =>
          some { oldPath, oldVersion, newPath, newVersion }
      | _, _ => none

end Replacement

namespace Directive

/-- What is wrong with the arguments of a directive. -/
def fault? (directive : Directive) : Option LineFault :=
  match directive.verb with
  | .mainModule | .language | .toolchain =>
      if directive.line.arguments.length = 1 then
        none
      else
        some (.valueExpected directive.verb)
  | .require | .exclude =>
      match directive.line.arguments with
      | [path, version] =>
          if Version.isValid version.value then
            none
          else
            some (.invalidVersion version.value path.value)
      | _ => some (.pathAndVersionExpected directive.verb)
  | .replace =>
      if (Replacement.ofArguments? directive.line.arguments).isSome then
        none
      else
        some .replacementExpected
  | .setting | .retract | .tool | .ignore => none

/-- The value of a directive with a given verb and one argument. -/
def value? (verb : Verb) (directive : Directive) : Option Text :=
  match directive.line.arguments with
  | [argument] => if directive.verb = verb then some argument.value else none
  | _ => none

/-- The path and the version of a directive with a given verb and two arguments. -/
def pathAndVersion? (verb : Verb) (directive : Directive) : Option (Text × Text) :=
  match directive.line.arguments with
  | [path, version] =>
      if directive.verb = verb then some (path.value, version.value) else none
  | _ => none

/-- The requirement that a directive states. -/
def requirement? (directive : Directive) : Option Requirement :=
  (directive.pathAndVersion? .require).map fun (path, version) =>
    { path
      version
      indirect := (Clauses.ofComment directive.line.comments.trailing).isIndirect
      line := directive.line.number }

/-- The exclusion that a directive states. -/
def exclusion? (directive : Directive) : Option Exclusion :=
  (directive.pathAndVersion? .exclude).map fun (path, version) => { path, version }

/-- The replacement that a directive states. -/
def replacement? (directive : Directive) : Option Replacement :=
  if directive.verb = .replace then
    Replacement.ofArguments? directive.line.arguments
  else
    none

/--
Check directives in order: each has the arguments that its verb asks for, and none requires a
module that is already required.
-/
def check (required : List Text) : List Directive → Except ManifestError Unit
  | [] => .ok ()
  | directive :: following =>
      match directive.fault?, directive.requirement? with
      | some fault, _ => .error (.lineFault directive.line.number fault)
      | none, none => check required following
      | none, some requirement =>
          if requirement.path ∈ required then
            .error (.duplicateRequirement requirement.path requirement.line)
          else
            check (requirement.path :: required) following

end Directive

/-- The statements of a manifest. -/
structure Manifest where
  statements : List Statement
  deriving Repr, DecidableEq

namespace Manifest

/-- All directives in order. -/
def directives (manifest : Manifest) : List Directive :=
  manifest.statements.flatMap fun statement => statement.content.directives

/-- Read a manifest. -/
def ofText (text : Text) : Except ManifestError Manifest :=
  match Statement.ofText text with
  | .error error => .error error
  | .ok statements =>
      let manifest : Manifest := { statements }
      match Directive.check [] manifest.directives with
      | .error error => .error error
      | .ok () => .ok manifest

/-- The text of a manifest as it stands. -/
def toText (manifest : Manifest) : Text :=
  Statement.print manifest.statements

/-- The value of the first directive with a verb. -/
def value? (manifest : Manifest) (verb : Verb) : Option Text :=
  manifest.directives.findSome? (Directive.value? verb)

/-- All requirements in order. -/
def requirements (manifest : Manifest) : List Requirement :=
  manifest.directives.filterMap Directive.requirement?

/-- The requirement of a module. -/
def requirement? (manifest : Manifest) (path : Text) : Option Requirement :=
  manifest.requirements.find? fun requirement => requirement.path == path

/-- All exclusions in order. -/
def exclusions (manifest : Manifest) : List Exclusion :=
  manifest.directives.filterMap Directive.exclusion?

/-- The excluded versions of a module, sorted. -/
def excludedVersions (manifest : Manifest) (path : Text) : List Text :=
  sortedSet
    ((manifest.exclusions.filter fun exclusion => exclusion.path == path).map
      Exclusion.version)

/-- The modules with exclusions, sorted. -/
def excludedPaths (manifest : Manifest) : List Text :=
  sortedSet (manifest.exclusions.map Exclusion.path)

/-- All replacements in order. -/
def replacements (manifest : Manifest) : List Replacement :=
  manifest.directives.filterMap Directive.replacement?

/-- The modules that are pinned, sorted. -/
def pinnedPaths (manifest : Manifest) : List Text :=
  sortedSet ((manifest.replacements.filter Replacement.isPin).map Replacement.oldPath)

/-- Whether a module is pinned. -/
def isPinned (manifest : Manifest) (path : Text) : Bool :=
  manifest.pinnedPaths.contains path

end Manifest

end ModuleUpdate
