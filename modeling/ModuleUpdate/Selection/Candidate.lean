import ModuleUpdate.Version
import ModuleUpdate.Version.CommitTime

namespace ModuleUpdate

/-!
# Candidates

A version that a repository lists, classified for the selection.  Listed texts need not be
versions at all.
-/

/-- A listed version with what the selection has to know about it. -/
structure Candidate where
  version : Text
  prerelease : Text
  isPseudo : Bool
  time : Option CommitTime
  deriving Repr, DecidableEq

namespace Candidate

/-- Classify a listed version. -/
def ofVersion (version : Text) : Candidate :=
  { version
    prerelease := Version.prereleaseTag version
    isPseudo := (Version.parse? version).any Version.isPseudo
    time := CommitTime.ofVersion? version }

/-- Whether the candidate is a prerelease. -/
def isPrerelease (candidate : Candidate) : Bool :=
  candidate.prerelease ≠ []

end Candidate

/-- Which candidates may be selected: excluded versions, and whether prereleases are welcome. -/
structure CandidateFilter where
  exclusions : List Text := []
  allowPrerelease : Bool := false
  deriving Repr, DecidableEq

namespace CandidateFilter

/-- The filter for a current version: only a prerelease is upgraded to a prerelease. -/
def ofCurrent (current : Text) (exclusions : List Text := []) : CandidateFilter :=
  { exclusions, allowPrerelease := Version.prereleaseTag current ≠ [] }

/-- Whether a candidate may be selected; pseudo-versions never are. -/
def accepts (filter : CandidateFilter) (candidate : Candidate) : Bool :=
  !candidate.isPseudo && !filter.exclusions.contains candidate.version &&
    (filter.allowPrerelease || !candidate.isPrerelease)

end CandidateFilter

end ModuleUpdate
