import ModuleUpdate.Dependency
import ModuleUpdate.Registry.Repository
import ModuleUpdate.Selection.Candidate

namespace ModuleUpdate.Selection

/-!
# Selecting an upgrade

The version to upgrade to is the last acceptable one of the candidates, which a repository lists
in ascending order.  A module that names its major version is upgraded to the next one where the
repository knows any version of that.  Pseudo-versions are never upgraded.
-/

/-- The last acceptable candidate, or the current version where there is none. -/
def select
    (dependency : Dependency)
    (candidates exclusions : List Text) :
    Text :=
  if Pseudo.isPseudo dependency.version then
    dependency.version
  else
    let filter := CandidateFilter.ofCurrent dependency.version exclusions
    let accepted := candidates.filter fun version => filter.accepts (Candidate.ofVersion version)
    accepted.getLast?.getD dependency.version

/-- An answer and the modules that a repository was asked about for it, in order. -/
structure Inquiry (Answer : Type) where
  asked : List Text := []
  answer : Answer

/-- The versions that a dependency may be upgraded to, before any is left out. -/
def candidates
    (repository : Repository)
    (dependency : Dependency) :
    Inquiry (Except LookupError (List Text)) :=
  let own := repository.versions dependency.name
  match ModulePath.next? dependency.name with
  | none => { asked := [dependency.name], answer := own }
  | some next =>
      match repository.versions next with
      | .ok (first :: others) => { asked := [next], answer := .ok (first :: others) }
      | .ok [] => { asked := [next, dependency.name], answer := own }
      | .error error =>
          if error.isNotFound then
            { asked := [next, dependency.name], answer := own }
          else
            { asked := [next], answer := .error error }

/-- The version that a dependency is upgraded to. -/
def latest
    (repository : Repository)
    (dependency : Dependency)
    (exclusions : List Text) :
    Inquiry (Except LookupError Text) :=
  if Pseudo.isPseudo dependency.version then
    { answer := .ok dependency.version }
  else
    let found := candidates repository dependency
    { asked := found.asked
      answer := found.answer.map fun versions => select dependency versions exclusions }

end ModuleUpdate.Selection
