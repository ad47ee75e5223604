import ModuleUpdate.Proofs.Selection
import ModuleUpdate.Proofs.Text
import ModuleUpdate.Proofs.Version.Order

namespace ModuleUpdate

/-!
# Answers of a selection

Only the last accepted candidate counts.  So an answer may be a text that is no version, since
such a text has no prerelease identifiers and pins no commit as far as the filter can tell, and
it may be lower than the current version.  Candidates of the next major version are the only
ones where there are any, whether or not one of them is accepted.
-/

/-- A version that can be asked for and pins no commit. -/
structure Version.IsUsable (version : Text) : Prop where
  isRead : (parse? version).isSome = true
  notPseudo : Pseudo.isPseudo version = false

/-- White space around a text does not matter to its shape. -/
theorem Pseudo.isPseudo_trim (text : Text) :
    isPseudo (Text.trim text) = isPseudo text := by
  simp only [isPseudo, stamp?, Text.trim_trim]

namespace Version

/-- A version pins a commit where its text has the shape for it. -/
theorem isPseudo_of_parse?
    {text : Text}
    {version : Version}
    (read : parse? text = some version) :
    version.isPseudo = Pseudo.isPseudo text := by
  simp only [parse?, Option.bind_eq_bind, Option.bind_eq_some_iff] at read
  obtain ⟨semantic, _, made⟩ := read
  cases made
  exact Pseudo.isPseudo_trim text

/-- A valid version that pins no commit is usable. -/
theorem isUsable_of_isValid
    {version : Text}
    (isValid : isValid version = true)
    (notPseudo : Pseudo.isPseudo version = false) :
    IsUsable version := by
  rw [Version.isValid, notPseudo, Bool.or_false] at isValid
  exact ⟨isValid, notPseudo⟩

/-- Texts that are no version come before all versions. -/
theorem parse?_eq_none_of_isLE
    {earlier later : Text}
    (inOrder : (order earlier later).isLE = true)
    (unread : parse? later = none) :
    parse? earlier = none := by
  cases read : parse? earlier with
  | none => rfl
  | some version =>
      rw [order, read, unread] at inOrder
      cases inOrder

end Version

namespace Selection

variable {dependency : Dependency} {candidates exclusions : List Text} {version : Text}

/-- A text that is no version is accepted unless it is excluded. -/
theorem accepts_iff_of_unread
    (unread : Version.parse? version = none) :
    accepts dependency exclusions version = true ↔ version ∉ exclusions := by
  have noTag : Version.prereleaseTag version = [] := by
    rw [Version.prereleaseTag, unread]
  rw [accepts, CandidateFilter.accepts_ofCurrent_iff, unread]
  simp [noTag]

/-- An accepted version is usable. -/
theorem isUsable_of_accepts
    (accepted : accepts dependency exclusions version = true)
    (isRead : (Version.parse? version).isSome = true) :
    Version.IsUsable version := by
  obtain ⟨read, isVersion⟩ := Option.isSome_iff_exists.mp isRead
  obtain ⟨notPseudo, _⟩ := CandidateFilter.accepts_ofCurrent_iff.mp accepted
  rw [isVersion, Option.any_some, Version.isPseudo_of_parse? isVersion] at notPseudo
  exact ⟨isRead, notPseudo⟩

/-- What is answered: the last accepted candidate, or the current version where there is none. -/
inductive Answers (accepted : Text → Bool) (candidates : List Text) (current : Text) :
    Text → Prop where
  | current :
      (∀ candidate ∈ candidates, accepted candidate = false) →
      Answers accepted candidates current current
  | candidate
      {earlier later : List Text}
      {answer : Text} :
      candidates = earlier ++ answer :: later →
      accepted answer = true →
      (∀ candidate ∈ later, accepted candidate = false) →
      Answers accepted candidates current answer

variable (candidates exclusions) in
/-- A selection gives the answer. -/
theorem answers_select
    (notPseudo : Pseudo.isPseudo dependency.version = false) :
    Answers (accepts dependency exclusions) candidates dependency.version
      (select dependency candidates exclusions) := by
  rw [select_eq_getLast? notPseudo]
  cases last : (candidates.filter (accepts dependency exclusions)).getLast? with
  | none =>
      rw [List.getLast?_eq_none_iff, List.filter_eq_nil_iff] at last
      exact .current fun candidate member => Bool.eq_false_iff.mpr (last candidate member)
  | some answer =>
      obtain ⟨others, accepted⟩ := List.getLast?_eq_some_iff.mp last
      obtain ⟨earlier, behind, split, _, fromAnswer⟩ := List.filter_eq_append_iff.mp accepted
      obtain ⟨refused, later, rfl, _, isAccepted, noneLater⟩ :=
        List.filter_eq_cons_iff.mp fromAnswer
      rw [List.filter_eq_nil_iff] at noneLater
      rw [← List.append_assoc] at split
      exact .candidate split isAccepted fun candidate member =>
        Bool.eq_false_iff.mpr (noneLater candidate member)

/-- There is no other answer. -/
theorem select_eq_of_answers
    {answer : Text}
    (notPseudo : Pseudo.isPseudo dependency.version = false)
    (answers :
      Answers (accepts dependency exclusions) candidates dependency.version answer) :
    select dependency candidates exclusions = answer := by
  rw [select_eq_getLast? notPseudo]
  cases answers with
  | current noneAccepted =>
      have nothing : candidates.filter (accepts dependency exclusions) = [] :=
        List.filter_eq_nil_iff.mpr fun candidate member =>
          Bool.eq_false_iff.mp (noneAccepted candidate member)
      rw [nothing]
      rfl
  | candidate split isAccepted noneLater =>
      have nothing :=
        List.filter_eq_nil_iff.mpr fun candidate member =>
          Bool.eq_false_iff.mp (noneLater candidate member)
      rw [split, List.filter_append, List.filter_cons_of_pos isAccepted, nothing,
        List.getLast?_concat]
      rfl

/-- In ascending order no accepted candidate is higher than the answer. -/
theorem Answers.isLE_of_ascending
    {accepted : Text → Bool}
    {current answer : Text}
    (answers : Answers accepted candidates current answer)
    (ascending :
      candidates.Pairwise fun earlier later => (Version.order earlier later).isLE = true) :
    ∀ version ∈ candidates,
      accepted version = true → (Version.order version answer).isLE = true := by
  intro version member isAccepted
  cases answers with
  | current noneAccepted =>
      rw [noneAccepted version member] at isAccepted
      cases isAccepted
  | candidate split _ noneLater =>
      rw [split, List.mem_append, List.mem_cons] at member
      rw [split, List.pairwise_append] at ascending
      rcases member with isEarlier | rfl | isLater
      · exact ascending.2.2 version isEarlier answer List.mem_cons_self
      · exact Std.ReflCmp.isLE_rfl
      · rw [noneLater version isLater] at isAccepted
        cases isAccepted

/-- Where every candidate is left out, the current version is answered. -/
theorem select_eq_current
    (noneAccepted : ∀ candidate ∈ candidates, accepts dependency exclusions candidate = false)
    (notPseudo : Pseudo.isPseudo dependency.version = false) :
    select dependency candidates exclusions = dependency.version :=
  select_eq_of_answers notPseudo (.current noneAccepted)

/-- An answer that is a version is usable. -/
theorem isUsable_iff_of_answers
    {answer : Text}
    (isValid : Version.isValid dependency.version = true)
    (notPseudo : Pseudo.isPseudo dependency.version = false)
    (answers :
      Answers (accepts dependency exclusions) candidates dependency.version answer) :
    Version.IsUsable answer ↔ (Version.parse? answer).isSome = true := by
  refine ⟨fun usable => usable.isRead, fun isRead => ?_⟩
  cases answers with
  | current _ => exact Version.isUsable_of_isValid isValid notPseudo
  | candidate _ isAccepted _ => exact isUsable_of_accepts isAccepted isRead

/-- What is answered is no version only where it is the last accepted candidate. -/
theorem isRead_select_iff
    (isValid : Version.isValid dependency.version = true)
    (notPseudo : Pseudo.isPseudo dependency.version = false) :
    (Version.parse? (select dependency candidates exclusions)).isSome = true ↔
      ∀ earlier version later,
        candidates = earlier ++ version :: later →
          Version.parse? version = none →
            version ∉ exclusions →
              ∃ other ∈ later, accepts dependency exclusions other = true := by
  constructor
  · intro isRead earlier version later split unread notExcluded
    by_contra noneLater
    have isAccepted : accepts dependency exclusions version = true :=
      (accepts_iff_of_unread unread).mpr notExcluded
    have answer : select dependency candidates exclusions = version := by
      refine select_eq_of_answers notPseudo (.candidate split isAccepted fun other member => ?_)
      exact Bool.eq_false_iff.mpr fun accepted => noneLater ⟨other, member, accepted⟩
    rw [answer, unread] at isRead
    cases isRead
  · intro overtaken
    have answers := answers_select candidates exclusions notPseudo
    generalize select dependency candidates exclusions = answer at answers
    cases answers with
    | current _ => exact (Version.isUsable_of_isValid isValid notPseudo).isRead
    | candidate split isAccepted noneLater =>
        rw [Option.isSome_iff_ne_none]
        intro unread
        have notExcluded := (accepts_iff_of_unread unread).mp isAccepted
        obtain ⟨other, member, accepted⟩ := overtaken _ _ _ split unread notExcluded
        rw [noneLater other member] at accepted
        cases accepted

/-- In ascending order any accepted version comes behind the candidates that are none. -/
theorem isRead_select_iff_of_ascending
    (isValid : Version.isValid dependency.version = true)
    (notPseudo : Pseudo.isPseudo dependency.version = false)
    (ascending :
      candidates.Pairwise fun earlier later => (Version.order earlier later).isLE = true) :
    (Version.parse? (select dependency candidates exclusions)).isSome = true ↔
      (∀ version ∈ candidates, Version.parse? version = none → version ∈ exclusions) ∨
        ∃ version ∈ candidates,
          (Version.parse? version).isSome = true ∧
            accepts dependency exclusions version = true := by
  have answers := answers_select candidates exclusions notPseudo
  generalize select dependency candidates exclusions = answer at answers
  have isGreatest := answers.isLE_of_ascending ascending
  cases answers with
  | current noneAccepted =>
      refine iff_of_true (Version.isUsable_of_isValid isValid notPseudo).isRead (.inl ?_)
      intro version member unread
      by_contra notExcluded
      have isAccepted : accepts dependency exclusions version = true :=
        (accepts_iff_of_unread unread).mpr notExcluded
      rw [noneAccepted version member] at isAccepted
      cases isAccepted
  | candidate split isAccepted _ =>
      have isCandidate : answer ∈ candidates := by simp [split]
      refine ⟨fun isRead => .inr ⟨answer, isCandidate, isRead, isAccepted⟩, fun some => ?_⟩
      rw [Option.isSome_iff_ne_none]
      intro unread
      rcases some with allExcluded | ⟨version, member, isRead, accepted⟩
      · exact (accepts_iff_of_unread unread).mp isAccepted (allExcluded answer isCandidate unread)
      · rw [Version.parse?_eq_none_of_isLE (isGreatest version member accepted) unread] at isRead
        cases isRead

/--
From a valid version that pins no commit a selection comes to a usable one exactly if behind every
candidate that is no version and is not excluded another candidate is accepted.  In ascending
order that is so exactly if there is no such candidate or any version among the candidates is
accepted.
-/
theorem isUsable_select_iff
    {dependency : Dependency}
    (isValid : Version.isValid dependency.version = true)
    (notPseudo : Pseudo.isPseudo dependency.version = false)
    (candidates exclusions : List Text) :
    (Version.IsUsable (select dependency candidates exclusions) ↔
        ∀ earlier version later,
          candidates = earlier ++ version :: later →
            Version.parse? version = none →
              version ∉ exclusions →
                ∃ other ∈ later, accepts dependency exclusions other = true) ∧
      (candidates.Pairwise
          (fun earlier later => (Version.order earlier later).isLE = true) →
        (Version.IsUsable (select dependency candidates exclusions) ↔
          (∀ version ∈ candidates, Version.parse? version = none → version ∈ exclusions) ∨
            ∃ version ∈ candidates,
              (Version.parse? version).isSome = true ∧
                accepts dependency exclusions version = true)) := by
  have usable :
      Version.IsUsable (select dependency candidates exclusions) ↔
        (Version.parse? (select dependency candidates exclusions)).isSome = true :=
    isUsable_iff_of_answers isValid notPseudo (answers_select _ _ notPseudo)
  rw [usable]
  exact
    ⟨isRead_select_iff isValid notPseudo, isRead_select_iff_of_ascending isValid notPseudo⟩

/-- A release that may be upgraded. -/
private def olderRelease : Dependency where
  name := "m.io/a".toList
  version := "v1.5.0".toList

/--
With a prerelease behind it, which is left out, a branch name is answered, and so is a text that
has the shape of a pseudo-version and is no version for its superfluous zero.
-/
theorem isUsable_select_iff_unread :
    Version.isValid olderRelease.version = true ∧
      Pseudo.isPseudo olderRelease.version = false ∧
      ¬Version.IsUsable
        (select olderRelease ["latest".toList, "v1.6.0-rc.1".toList] []) ∧
      Pseudo.isPseudo "v01.0.0-20210101120000-abcdef123456".toList = true ∧
      ¬Version.IsUsable
        (select olderRelease ["v01.0.0-20210101120000-abcdef123456".toList] []) := by
  have isValid : Version.isValid olderRelease.version = true := by decide +kernel
  have notPseudo : Pseudo.isPseudo olderRelease.version = false := by decide +kernel
  refine ⟨isValid, notPseudo, fun usable => ?_, by decide +kernel, fun usable => ?_⟩
  · rw [(isUsable_select_iff isValid notPseudo _ _).1] at usable
    obtain ⟨other, member, accepted⟩ :=
      usable [] "latest".toList ["v1.6.0-rc.1".toList] rfl (by decide +kernel) (by simp)
    rw [List.mem_singleton.mp member] at accepted
    exact absurd accepted (by decide +kernel)
  · rw [(isUsable_select_iff isValid notPseudo _ _).1] at usable
    obtain ⟨other, member, _⟩ := usable [] _ [] rfl (by decide +kernel) (by simp)
    cases member

/--
From candidates in ascending order a lower version than the current one is answered exactly if
the current one pins no commit and candidates are accepted, but only lower ones.
-/
theorem lower_select_iff
    {dependency : Dependency}
    {candidates : List Text}
    (ascending :
      candidates.Pairwise fun earlier later => (Version.order earlier later).isLE = true)
    (exclusions : List Text) :
    Version.order (select dependency candidates exclusions) dependency.version = .lt ↔
      Pseudo.isPseudo dependency.version = false ∧
        (∃ version ∈ candidates, accepts dependency exclusions version = true) ∧
        ∀ version ∈ candidates,
          accepts dependency exclusions version = true →
            Version.order version dependency.version = .lt := by
  have notLower : Version.order dependency.version dependency.version ≠ .lt := by
    have same : Version.order dependency.version dependency.version = .eq :=
      Std.ReflCmp.compare_self
    rw [same]
    decide
  cases pins : Pseudo.isPseudo dependency.version with
  | true =>
      have kept : select dependency candidates exclusions = dependency.version := by
        rw [select, pins, if_pos rfl]
      rw [kept]
      refine iff_of_false notLower ?_
      rintro ⟨notPseudo, _⟩
      cases notPseudo
  | false =>
      have answers := answers_select candidates exclusions pins
      generalize select dependency candidates exclusions = answer at answers
      have isGreatest := answers.isLE_of_ascending ascending
      cases answers with
      | current noneAccepted =>
          refine iff_of_false notLower ?_
          rintro ⟨_, ⟨version, member, accepted⟩, _⟩
          rw [noneAccepted version member] at accepted
          cases accepted
      | candidate split isAccepted _ =>
          have isCandidate : answer ∈ candidates := by simp [split]
          refine ⟨fun lower => ⟨rfl, ⟨answer, isCandidate, isAccepted⟩, ?_⟩,
            fun lower => lower.2.2 answer isCandidate isAccepted⟩
          intro version member accepted
          exact Std.TransCmp.lt_of_isLE_of_lt (isGreatest version member accepted) lower

/-- Where the current version is listed as well and not excluded, nothing lower is answered. -/
theorem lower_select_iff_listed :
    ["v1.4.0".toList, "v1.5.0".toList, "v1.6.0".toList].Pairwise
        (fun earlier later => (Version.order earlier later).isLE = true) ∧
      select olderRelease ["v1.4.0".toList, "v1.5.0".toList, "v1.6.0".toList]
        ["v1.6.0".toList] = "v1.5.0".toList ∧
      Version.order
        (select olderRelease ["v1.4.0".toList, "v1.5.0".toList, "v1.6.0".toList]
          ["v1.6.0".toList]) olderRelease.version ≠ .lt := by
  have ascending :
      ["v1.4.0".toList, "v1.5.0".toList, "v1.6.0".toList].Pairwise
        (fun earlier later => (Version.order earlier later).isLE = true) := by
    decide +kernel
  refine ⟨ascending, by decide +kernel, fun lower => ?_⟩
  have onlyLower := ((lower_select_iff ascending ["v1.6.0".toList]).mp lower).2.2
  exact absurd (onlyLower "v1.5.0".toList (by simp) (by decide +kernel)) (by decide +kernel)

/-- Where lower versions alone are listed, the highest of them is answered. -/
theorem lower_version_is_selected :
    ¬∀ (dependency : Dependency) (candidates exclusions : List Text),
        Version.isValid dependency.version = true →
          candidates.Pairwise (fun earlier later => (Version.order earlier later).isLE = true) →
            Version.order (select dependency candidates exclusions) dependency.version ≠ .lt := by
  intro neverLower
  refine neverLower olderRelease ["v1.0.0".toList, "v1.2.0".toList] [] (by decide +kernel)
    (by decide +kernel) ?_
  decide +kernel

end Selection

/-- A repository does not know a module, or knows no version of it. -/
def Repository.ListsNothing (repository : Repository) (path : Text) : Prop :=
  repository.versions path = .ok [] ∨
    ∃ error, repository.versions path = .error error ∧ error.isNotFound = true

namespace Repository

variable {repository : Repository} {path : Text}

theorem not_listsNothing_of_cons
    {first : Text}
    {others : List Text}
    (found : repository.versions path = .ok (first :: others)) :
    ¬repository.ListsNothing path := by
  rintro (empty | ⟨error, refused, _⟩)
  · cases empty.symm.trans found
  · cases refused.symm.trans found

theorem not_listsNothing_of_fails
    {error : LookupError}
    (found : repository.versions path = .error error)
    (fails : error.isNotFound = false) :
    ¬repository.ListsNothing path := by
  rintro (empty | ⟨other, refused, notFound⟩)
  · cases empty.symm.trans found
  · cases refused.symm.trans found
    rw [notFound] at fails
    cases fails

end Repository

namespace Selection

variable
  {repository : Repository}
  {dependency : Dependency}
  {next : Text}
  {exclusions : List Text}

/-- The answer for a version that pins no commit is selected from the candidates. -/
theorem answer_latest
    (notPseudo : Pseudo.isPseudo dependency.version = false) :
    (latest repository dependency exclusions).answer =
      (Selection.candidates repository dependency).answer.map fun versions =>
        select dependency versions exclusions := by
  simp only [latest, notPseudo, Bool.false_eq_true, if_false]

/-- The own versions of a module are candidates where none is listed for the next major one. -/
theorem candidates_of_listsNothing
    (isNext : ModulePath.next? dependency.name = some next)
    (nothing : repository.ListsNothing next) :
    (Selection.candidates repository dependency).answer =
      repository.versions dependency.name := by
  rcases nothing with empty | ⟨error, refused, notFound⟩
  · simp only [Selection.candidates, isNext, empty]
  · simp only [Selection.candidates, isNext, refused, notFound, if_true]

/-- Otherwise what comes of the look-up for the next major version counts. -/
theorem candidates_of_not_listsNothing
    (isNext : ModulePath.next? dependency.name = some next)
    (something : ¬repository.ListsNothing next) :
    (Selection.candidates repository dependency).answer = repository.versions next := by
  rw [Repository.ListsNothing, not_or, not_exists] at something
  cases found : repository.versions next with
  | ok versions =>
      cases versions with
      | nil => exact absurd found something.1
      | cons first others => simp only [Selection.candidates, isNext, found]
  | error error =>
      have fails : error.isNotFound = false :=
        Bool.eq_false_iff.mpr fun notFound => something.2 error ⟨found, notFound⟩
      simp only [Selection.candidates, isNext, found, fails, Bool.false_eq_true, if_false]

/-- Where versions are listed for the next major version and all refused, the current one stays. -/
theorem latest_of_not_listsNothing
    (notPseudo : Pseudo.isPseudo dependency.version = false)
    (isNext : ModulePath.next? dependency.name = some next)
    (noneAccepted :
      ∀ versions,
        repository.versions next = .ok versions →
          ∀ version ∈ versions, accepts dependency exclusions version = false)
    (something : ¬repository.ListsNothing next) :
    (latest repository dependency exclusions).answer =
      (repository.versions next).map fun _ => dependency.version := by
  rw [answer_latest notPseudo, candidates_of_not_listsNothing isNext something]
  cases found : repository.versions next with
  | ok versions =>
      exact congrArg Except.ok (select_eq_current (noneAccepted versions found) notPseudo)
  | error error => rfl

/--
Where no version of the next major version is accepted and the module's own versions are listed,
the answer is selected from these exactly if none is listed for the next major version, or if
some are and none of the module's own is better than the current version.  If any is listed for
the next major version, the current version is answered, and if the look-up for it fails, that is
the answer.
-/
theorem latest_of_refused_next
    {repository : Repository}
    {dependency : Dependency}
    {next : Text}
    {exclusions own : List Text}
    (notPseudo : Pseudo.isPseudo dependency.version = false)
    (isNext : ModulePath.next? dependency.name = some next)
    (noneAccepted :
      ∀ versions,
        repository.versions next = .ok versions →
          ∀ version ∈ versions, accepts dependency exclusions version = false)
    (listed : repository.versions dependency.name = .ok own) :
    ((latest repository dependency exclusions).answer =
          .ok (select dependency own exclusions) ↔
        repository.ListsNothing next ∨
          (∃ versions, repository.versions next = .ok versions) ∧
            select dependency own exclusions = dependency.version) ∧
      (∀ first others,
        repository.versions next = .ok (first :: others) →
          (latest repository dependency exclusions).answer = .ok dependency.version) ∧
      ∀ error,
        repository.versions next = .error error →
          error.isNotFound = false →
            (latest repository dependency exclusions).answer = .error error := by
  refine ⟨?_, ?_, ?_⟩
  · by_cases nothing : repository.ListsNothing next
    · rw [answer_latest notPseudo, candidates_of_listsNothing isNext nothing, listed]
      exact iff_of_true rfl (.inl nothing)
    · rw [latest_of_not_listsNothing notPseudo isNext noneAccepted nothing]
      cases found : repository.versions next with
      | ok versions => simp [Except.map, nothing, eq_comm]
      | error error => simp [Except.map, nothing]
  · intro first others found
    rw [latest_of_not_listsNothing notPseudo isNext noneAccepted
      (Repository.not_listsNothing_of_cons found), found]
    rfl
  · intro error found fails
    rw [latest_of_not_listsNothing notPseudo isNext noneAccepted
      (Repository.not_listsNothing_of_fails found fails), found]
    rfl

/-- A requirement that names its major version. -/
private def secondMajor : Dependency where
  name := "m.io/a/v2".toList
  version := "v2.0.0".toList

/-- Versions of the second and of the third major version. -/
private def thirdMajorListing (third : List Text) : Repository :=
  .ofModules "list".toList
    [("m.io/a/v2".toList, ["v2.0.0".toList, "v2.1.0".toList]), ("m.io/a/v3".toList, third)]

/--
A version of the module is answered where none is listed for the next major version, and the
current one where a version is listed there and excluded.
-/
theorem latest_of_refused_next_excluding :
    (latest (thirdMajorListing []) secondMajor []).answer = .ok "v2.1.0".toList ∧
      (latest (thirdMajorListing ["v3.0.0".toList]) secondMajor ["v3.0.0".toList]).answer =
        .ok "v2.0.0".toList := by
  have notPseudo : Pseudo.isPseudo secondMajor.version = false := by decide +kernel
  have isNext : ModulePath.next? secondMajor.name = some "m.io/a/v3".toList := by decide +kernel
  have own (third : List Text) :
      (thirdMajorListing third).versions secondMajor.name =
        .ok ["v2.0.0".toList, "v2.1.0".toList] := by
    rfl
  have ofThird (third : List Text) :
      (thirdMajorListing third).versions "m.io/a/v3".toList = .ok third := by
    rfl
  constructor
  · have noneAccepted :
        ∀ versions,
          (thirdMajorListing []).versions "m.io/a/v3".toList = .ok versions →
            ∀ version ∈ versions, accepts secondMajor [] version = false := by
      intro versions found
      cases (ofThird []).symm.trans found
      simp
    have answers := (latest_of_refused_next notPseudo isNext noneAccepted (own [])).1
    exact (answers.mpr (.inl (.inl (ofThird [])))).trans (by decide +kernel)
  · have noneAccepted :
        ∀ versions,
          (thirdMajorListing ["v3.0.0".toList]).versions "m.io/a/v3".toList = .ok versions →
            ∀ version ∈ versions, accepts secondMajor ["v3.0.0".toList] version = false := by
      intro versions found version member
      cases (ofThird ["v3.0.0".toList]).symm.trans found
      rw [List.mem_singleton.mp member]
      decide +kernel
    exact (latest_of_refused_next notPseudo isNext noneAccepted (own _)).2.1 _ _ (ofThird _)

/--
An excluded version of the next major version keeps the versions of the module from being
answered, one of which is better than the current version.
-/
theorem next_major_hides_versions :
    ¬∀ (repository : Repository) (exclusions own : List Text) (dependency : Dependency)
        (next : Text),
        Pseudo.isPseudo dependency.version = false →
          ModulePath.next? dependency.name = some next →
            (∀ versions,
              repository.versions next = .ok versions →
                ∀ version ∈ versions, accepts dependency exclusions version = false) →
              repository.versions dependency.name = .ok own →
                (latest repository dependency exclusions).answer =
                  .ok (select dependency own exclusions) := by
  intro notHidden
  have listed :
      (thirdMajorListing ["v3.0.0".toList]).versions "m.io/a/v3".toList =
        .ok ["v3.0.0".toList] := by
    decide +kernel
  have answer :=
    notHidden (thirdMajorListing ["v3.0.0".toList]) ["v3.0.0".toList]
      ["v2.0.0".toList, "v2.1.0".toList] secondMajor "m.io/a/v3".toList (by decide +kernel)
      (by decide +kernel)
      (by
        intro versions found version member
        cases listed.symm.trans found
        rw [List.mem_singleton.mp member]
        decide +kernel)
      (by decide +kernel)
  exact absurd answer (by decide +kernel)

end Selection

end ModuleUpdate
