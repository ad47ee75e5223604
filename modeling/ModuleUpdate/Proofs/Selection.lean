import ModuleUpdate.Selection

namespace ModuleUpdate

/-!
# What is selected

A selection answers the current version or a candidate that the filter accepts.  The candidates
are the versions of one module: the next major version where the repository lists any version of
it, and the module that is asked for otherwise.
-/

/-- A candidate is a prerelease exactly when its version has prerelease identifiers. -/
theorem Candidate.isPrerelease_ofVersion_iff
    {version : Text} :
    (ofVersion version).isPrerelease = true ↔ Version.prereleaseTag version ≠ [] :=
  decide_eq_true_iff

namespace CandidateFilter

/--
A filter for a current version accepts what is neither a pseudo-version nor excluded, and
prereleases for a prerelease only.
-/
theorem accepts_ofCurrent_iff
    {current version : Text}
    {exclusions : List Text} :
    (ofCurrent current exclusions).accepts (Candidate.ofVersion version) = true ↔
      (Version.parse? version).any Version.isPseudo = false ∧
        version ∉ exclusions ∧
          (Version.prereleaseTag version ≠ [] → Version.prereleaseTag current ≠ []) := by
  have allows :
      (ofCurrent current exclusions).allowPrerelease = true ↔
        Version.prereleaseTag current ≠ [] :=
    decide_eq_true_iff
  rw [Decidable.imp_iff_or_not, ← allows, ← Candidate.isPrerelease_ofVersion_iff]
  simp only [accepts, Bool.and_eq_true, Bool.or_eq_true, Bool.not_eq_true', and_assoc,
    Bool.not_eq_true, ← List.contains_iff_mem]
  rfl

end CandidateFilter

namespace Selection

/-- Whether the filter of a selection accepts a version. -/
def accepts (dependency : Dependency) (exclusions : List Text) (version : Text) : Bool :=
  (CandidateFilter.ofCurrent dependency.version exclusions).accepts (Candidate.ofVersion version)

variable {dependency : Dependency} {candidates exclusions : List Text}

/-- The last accepted candidate is selected. -/
theorem select_eq_getLast?
    (notPseudo : Pseudo.isPseudo dependency.version = false) :
    select dependency candidates exclusions =
      ((candidates.filter (accepts dependency exclusions)).getLast?).getD dependency.version := by
  simp only [select, notPseudo, Bool.false_eq_true, if_false]
  rfl

/-- Another version than the current one is selected only if it is an accepted candidate. -/
theorem accepts_of_select
    (notPseudo : Pseudo.isPseudo dependency.version = false)
    (isOther : select dependency candidates exclusions ≠ dependency.version) :
    select dependency candidates exclusions ∈ candidates ∧
      accepts dependency exclusions (select dependency candidates exclusions) = true := by
  rw [select_eq_getLast? notPseudo] at isOther ⊢
  cases last : (candidates.filter (accepts dependency exclusions)).getLast? with
  | none =>
      rw [last] at isOther
      exact absurd rfl isOther
  | some selected =>
      exact List.mem_filter.mp (List.mem_of_getLast? last)

/-- A version is accepted, and every other accepted one is lower. -/
structure IsGreatest (accepted : Text → Prop) (version : Text) : Prop where
  isAccepted : accepted version
  isGreatest : ∀ other, accepted other → other ≠ version → Version.order other version = .lt

/--
Of candidates in strictly ascending order the greatest accepted one is selected, and the current
version where none is accepted.
-/
theorem isGreatest_select
    (exclusions : List Text)
    (ascending : candidates.Pairwise fun earlier later => Version.order earlier later = .lt)
    (notPseudo : Pseudo.isPseudo dependency.version = false) :
    IsGreatest
        (fun version => version ∈ candidates ∧ accepts dependency exclusions version = true)
        (select dependency candidates exclusions) ∨
      (∀ version ∈ candidates, accepts dependency exclusions version = false) ∧
        select dependency candidates exclusions = dependency.version := by
  rw [select_eq_getLast? notPseudo]
  cases last : (candidates.filter (accepts dependency exclusions)).getLast? with
  | none =>
      rw [List.getLast?_eq_none_iff, List.filter_eq_nil_iff] at last
      exact .inr ⟨fun version isCandidate => Bool.eq_false_iff.mpr (last version isCandidate), rfl⟩
  | some selected =>
      obtain ⟨others, accepted⟩ := List.getLast?_eq_some_iff.mp last
      have inOrder := ascending.filter (accepts dependency exclusions)
      rw [accepted] at inOrder
      refine .inl ⟨List.mem_filter.mp (List.mem_of_getLast? last), fun other isOther differs => ?_⟩
      have isAccepted := List.mem_filter.mpr isOther
      rw [accepted, List.mem_append, List.mem_singleton] at isAccepted
      exact (List.pairwise_append.mp inOrder).2.2 other (isAccepted.resolve_right differs) selected
        (by simp)

/--
The module whose versions are candidates for a module: the next major version where the repository
lists any version of it, and the module itself otherwise.
-/
inductive IsFamily (repository : Repository) (path : Text) : Text → Prop where
  | next
      {next first : Text}
      {others : List Text} :
      ModulePath.next? path = some next →
      repository.versions next = .ok (first :: others) →
      IsFamily repository path next
  | own :
      (∀ next first others,
        ModulePath.next? path = some next →
          repository.versions next ≠ .ok (first :: others)) →
      IsFamily repository path path

/-- All candidates are listed for one module. -/
theorem exists_family_of_candidates
    {repository : Repository}
    {versions : List Text}
    (found : (Selection.candidates repository dependency).answer = .ok versions) :
    ∃ family,
      IsFamily repository dependency.name family ∧ repository.versions family = .ok versions := by
  simp only [Selection.candidates] at found
  cases hasNext : ModulePath.next? dependency.name with
  | none =>
      simp only [hasNext] at found
      exact ⟨dependency.name, .own fun _ _ _ isNext => by simp [hasNext] at isNext, found⟩
  | some next =>
      have ownFamily :
          (∀ first others, repository.versions next ≠ .ok (first :: others)) →
            IsFamily repository dependency.name dependency.name := by
        intro noVersion
        refine .own fun other first others isNext => ?_
        rw [hasNext, Option.some_inj] at isNext
        exact isNext ▸ noVersion first others
      simp only [hasNext] at found
      cases listed : repository.versions next with
      | error error =>
          simp only [listed] at found
          split at found
          · exact ⟨dependency.name, ownFamily (by simp [listed]), found⟩
          · cases found
      | ok versions =>
          cases versions with
          | nil =>
              simp only [listed] at found
              exact ⟨dependency.name, ownFamily (by simp [listed]), found⟩
          | cons first others =>
              simp only [listed] at found
              exact ⟨next, .next hasNext listed, listed.trans found⟩

/-- The latest version of a module is selected from the candidates. -/
theorem latest_eq_ok
    {repository : Repository}
    {version : Text}
    (notPseudo : Pseudo.isPseudo dependency.version = false)
    (found : (latest repository dependency exclusions).answer = .ok version) :
    ∃ versions,
      (Selection.candidates repository dependency).answer = .ok versions ∧
        version = select dependency versions exclusions := by
  simp only [latest, notPseudo, Bool.false_eq_true, if_false] at found
  cases listed : (Selection.candidates repository dependency).answer with
  | error error =>
      rw [listed] at found
      cases found
  | ok versions =>
      rw [listed] at found
      exact ⟨versions, rfl, (Except.ok.inj found).symm⟩

end Selection

end ModuleUpdate
