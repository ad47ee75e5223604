import ModuleUpdate.Proofs.Selection
import ModuleUpdate.Proofs.Sorting
import ModuleUpdate.Upgrade

namespace ModuleUpdate

/-!
# Upgrades that are found

The versions that a manifest excludes for a module and for its next major version are put together
with those that the request excludes before it is known which of the two modules the candidates
come from.  So whichever it is, none of its excluded versions is found.
-/

namespace Manifest

/-- A version is excluded for a module where an exclusion says so. -/
theorem mem_excludedVersions_iff
    {manifest : Manifest}
    {path version : Text} :
    version ∈ manifest.excludedVersions path ↔ { path, version } ∈ manifest.exclusions := by
  simp only [excludedVersions, mem_sortedSet, List.mem_map, List.mem_filter, beq_iff_eq]
  constructor
  · rintro ⟨exclusion, ⟨member, rfl⟩, rfl⟩
    exact member
  · intro member
    exact ⟨_, ⟨member, rfl⟩, rfl⟩

end Manifest

namespace Upgrade

variable {tree : FileTree} {directory : Text}

/-- What a manifest excludes for the module that the candidates come from is left out. -/
theorem mem_excluded_of_isFamily
    {repository : Repository}
    {manifest : Manifest}
    {path family version : Text}
    (isFamily : Selection.IsFamily repository path family)
    (isExcluded : { path := family, version } ∈ manifest.exclusions) :
    version ∈ excluded manifest path := by
  rw [← Manifest.mem_excludedVersions_iff] at isExcluded
  rw [excluded, List.mem_append]
  cases isFamily with
  | next isNext _ => exact .inr (by simpa [isNext] using isExcluded)
  | own _ => exact .inl isExcluded

/-- Where a manifest can be seen, it is read and its exclusions are used. -/
theorem exclusions_eq_ok
    {path : Text}
    {versions : List Text}
    (found : exclusions tree directory path = .ok versions)
    {location : Location}
    {bytes : ByteArray}
    (isSeen : tree.resolve (ManifestFile.pathIn directory) = .file location bytes) :
    ∃ file,
      ManifestFile.load tree directory = .ok file ∧ versions = excluded file.manifest path := by
  simp only [exclusions, isSeen] at found
  cases loaded : ManifestFile.load tree directory with
  | error failure =>
      rw [loaded] at found
      cases found
  | ok file =>
      rw [loaded] at found
      exact ⟨file, rfl, (Except.ok.inj found).symm⟩

/-- A version is found by selecting it from the candidates that are not excluded. -/
theorem find_eq_ok
    {repository : Repository}
    {dependency : Dependency}
    {refused : List Text}
    {version : Text}
    (notPseudo : Pseudo.isPseudo dependency.version = false)
    (found :
      (find tree directory repository (some dependency) refused).result = .ok version) :
    ∃ excluded versions,
      exclusions tree directory dependency.name = .ok excluded ∧
        (Selection.candidates repository dependency).answer = .ok versions ∧
        version = Selection.select dependency versions (refused ++ excluded) := by
  simp only [find] at found
  cases left : exclusions tree directory dependency.name with
  | error failure => simp [left] at found
  | ok excluded =>
      cases answered :
          (Selection.latest repository dependency (refused ++ excluded)).answer with
      | error error => simp [left, answered] at found
      | ok latest =>
          simp only [left, answered, Except.ok.injEq] at found
          obtain ⟨versions, listed, selected⟩ := Selection.latest_eq_ok notPseudo answered
          exact ⟨excluded, versions, rfl, listed, found ▸ selected⟩

end Upgrade

/--
Another version than the current one is found only if the repository lists it for the next major
version of the module, where any version of that is listed, or else for the module itself.  It is
neither refused by the request nor excluded by the manifest for the module it is listed for, and
it is a prerelease only if the current version is one.
-/
theorem version_of_find
    {tree : FileTree}
    {directory : Text}
    {repository : Repository}
    {dependency : Dependency}
    {refused : List Text}
    {version : Text}
    (notPseudo : Pseudo.isPseudo dependency.version = false)
    (found :
      (Upgrade.find tree directory repository (some dependency) refused).result = .ok version)
    (isOther : version ≠ dependency.version) :
    ∃ family versions,
      Selection.IsFamily repository dependency.name family ∧
        repository.versions family = .ok versions ∧
        version ∈ versions ∧
        version ∉ refused ∧
        (∀ location bytes,
          tree.resolve (ManifestFile.pathIn directory) = .file location bytes →
            ∃ file,
              ManifestFile.load tree directory = .ok file ∧
                { path := family, version } ∉ file.manifest.exclusions) ∧
        (Version.prereleaseTag version ≠ [] →
          Version.prereleaseTag dependency.version ≠ []) := by
  obtain ⟨excluded, versions, left, listed, rfl⟩ := Upgrade.find_eq_ok notPseudo found
  obtain ⟨family, isFamily, ofFamily⟩ := Selection.exists_family_of_candidates listed
  obtain ⟨isCandidate, accepted⟩ := Selection.accepts_of_select notPseudo isOther
  obtain ⟨_, notExcluded, prereleases⟩ := CandidateFilter.accepts_ofCurrent_iff.mp accepted
  rw [List.mem_append, not_or] at notExcluded
  refine ⟨family, versions, isFamily, ofFamily, isCandidate, notExcluded.1, ?_, prereleases⟩
  intro location bytes isSeen
  obtain ⟨file, loaded, rfl⟩ := Upgrade.exclusions_eq_ok left isSeen
  exact ⟨file, loaded, fun isExcluded =>
    notExcluded.2 (Upgrade.mem_excluded_of_isFamily isFamily isExcluded)⟩

/-- A module whose manifest excludes a version of the next major version of a requirement. -/
private def excludingTree : FileTree where
  files :=
    [(["go.mod".toList],
        Text.toBytes
          "module m\n\nrequire m.io/a/v2 v2.0.0\n\nexclude m.io/a/v3 v3.1.0\n".toList)]
  distinct := by decide

/-- Two major versions of that requirement. -/
private def majorVersions : Repository :=
  .ofModules "list".toList
    [("m.io/a/v2".toList, ["v2.0.0".toList, "v2.1.0".toList]),
      ("m.io/a/v3".toList,
        ["v3.0.0".toList, "v3.0.1".toList, "v3.1.0".toList, "v3.2.0-rc.1".toList,
          "v3.2.0".toList])]

/-- The requirement as it stands. -/
private def currentRequirement : Dependency where
  name := "m.io/a/v2".toList
  version := "v2.0.0".toList

/-- Of the next major version, what is left is neither refused nor excluded nor a prerelease. -/
theorem version_of_find_excluding :
    (Upgrade.find excludingTree FilePath.here majorVersions (some currentRequirement)
        ["v3.2.0".toList]).result =
        .ok "v3.0.1".toList ∧
      ∃ file,
        ManifestFile.load excludingTree FilePath.here = .ok file ∧
          { path := "m.io/a/v3".toList, version := "v3.0.1".toList } ∉
            file.manifest.exclusions := by
  have found :
      (Upgrade.find excludingTree FilePath.here majorVersions (some currentRequirement)
          ["v3.2.0".toList]).result =
        .ok "v3.0.1".toList := by
    decide +kernel
  have notPseudo : Pseudo.isPseudo currentRequirement.version = false := by decide +kernel
  obtain ⟨family, _, isFamily, _, _, _, notExcluded, _⟩ :=
    version_of_find notPseudo found (by decide)
  have isSeen :
      excludingTree.resolve (ManifestFile.pathIn FilePath.here) =
        .file ["go.mod".toList]
          (Text.toBytes
            "module m\n\nrequire m.io/a/v2 v2.0.0\n\nexclude m.io/a/v3 v3.1.0\n".toList) := by
    rfl
  obtain ⟨file, loaded, stays⟩ := notExcluded _ _ isSeen
  refine ⟨found, file, loaded, ?_⟩
  cases isFamily with
  | next isNext _ =>
      have third : ModulePath.next? currentRequirement.name = some "m.io/a/v3".toList := by
        decide +kernel
      rw [third, Option.some_inj] at isNext
      exact isNext ▸ stays
  | own noNext =>
      exact absurd rfl (noNext "m.io/a/v3".toList "v3.0.0".toList _ (by decide +kernel))

end ModuleUpdate
