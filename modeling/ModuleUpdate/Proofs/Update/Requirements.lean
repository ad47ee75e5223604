import Mathlib.Logic.Function.Basic
import ModuleUpdate.Proofs.Manifest.Canonical
import ModuleUpdate.Proofs.Manifest.File
import ModuleUpdate.Proofs.Manifest.Requirements
import ModuleUpdate.Proofs.Manifest.Updated
import ModuleUpdate.Proofs.Update.Batch

namespace ModuleUpdate

/-!
# Requirements after an update

A successful update leaves a manifest that can be read.  It requires what the old one required,
revised by the dependencies of the batch in order, and says the same otherwise.
-/

/--
The versions that modules are required at once a dependency is applied: the path it is upgraded
from is erased, and its own path is set.
-/
def Dependency.revise
    (dependency : Dependency)
    (versions : Text → Option Text) :
    Text → Option Text :=
  Function.update
    (dependency.majorUpgradeFrom?.elim versions fun old => Function.update versions old none)
    dependency.name
    (some dependency.version)

namespace Manifest.KeepsOthers

theorem refl (manifest : Manifest) : manifest.KeepsOthers manifest :=
  fun _ _ => rfl

theorem trans
    {first second third : Manifest}
    (left : first.KeepsOthers second)
    (right : second.KeepsOthers third) :
    first.KeepsOthers third :=
  fun verb isOther => (right verb isOther).trans (left verb isOther)

end Manifest.KeepsOthers

namespace Batch

variable {before after : Batch} {dependency : Dependency}

/-- An applied dependency revises the requirements and keeps the manifest sound. -/
private theorem Applied.revises
    (applied : Applied before (Change.ofValid dependency) after)
    (sound : before.file.manifest.IsSound)
    (validated : dependency.validate = .ok ())
    (nameOneLine : '\n' ∉ dependency.name)
    (versionOneLine : '\n' ∉ dependency.version) :
    after.file.manifest.IsSound ∧
      before.file.manifest.KeepsOthers after.file.manifest ∧
      after.file.manifest.versionOf? = dependency.revise before.file.manifest.versionOf? := by
  obtain ⟨dropped, isDropped, droppedSound, droppedOthers, droppedVersions⟩ :
      ∃ dropped,
        dropped =
            dependency.majorUpgradeFrom?.elim before.file.manifest before.file.manifest.drop ∧
          dropped.IsSound ∧
          before.file.manifest.KeepsOthers dropped ∧
          dropped.versionOf? =
            dependency.majorUpgradeFrom?.elim before.file.manifest.versionOf? fun old =>
              Function.update before.file.manifest.versionOf? old none := by
    cases dependency.majorUpgradeFrom? with
    | none => exact ⟨_, rfl, sound, .refl _, rfl⟩
    | some old =>
        exact
          ⟨_, rfl, Manifest.isSound_drop sound old, Manifest.keepsOthers_drop sound.isConsistent old,
            Manifest.versionOf?_drop sound old⟩
  obtain ⟨required, isRequired, requiredSound, requiredOthers, requiredVersions⟩ :=
    Manifest.require_eq_ok droppedSound (Change.isValid_of_validate validated) nameOneLine
      versionOneLine
  have versions :
      required.versionOf? = dependency.revise before.file.manifest.versionOf? := by
    rw [requiredVersions, droppedVersions]
    rfl
  obtain ⟨found, isFound, isAfter⟩ := applied.manifest
  have same : found = required := by
    have again : dropped.require dependency.name dependency.version = .ok found :=
      isDropped ▸ isFound
    rw [isRequired, Except.ok.injEq] at again
    exact again.symm
  rw [isAfter, same]
  cases marked : required.markIndirect? dependency.name dependency.indirect with
  | none =>
      simp only [Change.ofValid, marked, Option.getD_none]
      exact ⟨requiredSound, droppedOthers.trans requiredOthers, versions⟩
  | some changed =>
      simp only [Change.ofValid, marked, Option.getD_some]
      have saysSame := Manifest.said_withIndirect marked
      refine
        ⟨Manifest.isSound_withIndirect requiredSound marked,
          (droppedOthers.trans requiredOthers).trans fun verb _ => saysSame verb, ?_⟩
      rw [Manifest.versionOf?_of_said requiredSound (.of_eq (saysSame .require)), versions]

/-- Dependencies that are applied in order revise the requirements in order. -/
theorem Run.revises
    {dependencies : List Dependency}
    (run : Run before (dependencies.map Change.ofValid) after)
    (sound : before.file.manifest.IsSound)
    (validated : ∀ dependency ∈ dependencies, dependency.validate = .ok ())
    (oneLine : ∀ dependency ∈ dependencies,
      '\n' ∉ dependency.name ∧ '\n' ∉ dependency.version) :
    after.file.manifest.IsSound ∧
      before.file.manifest.KeepsOthers after.file.manifest ∧
      after.file.manifest.versionOf? =
        dependencies.foldl (fun versions dependency => dependency.revise versions)
          before.file.manifest.versionOf? := by
  induction dependencies generalizing before with
  | nil =>
      cases run
      exact ⟨sound, .refl _, rfl⟩
  | cons dependency following inductionHypothesis =>
      cases run with
      | step applied rest =>
          obtain ⟨nameOneLine, versionOneLine⟩ := oneLine dependency (by simp)
          obtain ⟨betweenSound, others, versions⟩ :=
            (applied_of_apply applied).revises sound (validated dependency (by simp))
              nameOneLine versionOneLine
          obtain ⟨afterSound, laterOthers, laterVersions⟩ :=
            inductionHypothesis rest betweenSound
              (fun other member => validated other (by simp [member]))
              (fun other member => oneLine other (by simp [member]))
          refine ⟨afterSound, others.trans laterOthers, ?_⟩
          rw [laterVersions, versions, List.foldl_cons]

/-- An applied dependency makes its revisions to the manifest. -/
theorem Applied.manifest_eq
    (applied : Applied before (Change.ofValid dependency) after) :
    after.file.manifest = before.file.manifest.revised dependency.revisions := by
  obtain ⟨required, isRequired, isAfter⟩ := applied.manifest
  rw [isAfter]
  simp only [Change.ofValid] at isRequired ⊢
  simp only [Manifest.revised, Dependency.revisions, List.foldl_append, List.foldl_cons,
    List.foldl_nil, Manifest.Revision.apply]
  cases moves : dependency.majorUpgradeFrom? with
  | none =>
      simp only [moves, Option.elim_none] at isRequired
      simp only [Option.toList_none, List.map_nil, List.foldl_nil, isRequired]
  | some old =>
      simp only [moves, Option.elim_some] at isRequired
      simp only [Option.toList_some, List.map_cons, List.map_nil, List.foldl_cons, List.foldl_nil,
        Manifest.Revision.apply, isRequired]

/-- The manifest behind a run is the one in front of it, updated. -/
theorem Run.manifest_eq
    {dependencies : List Dependency}
    (run : Run before (dependencies.map Change.ofValid) after) :
    after.file.manifest = before.file.manifest.updated dependencies := by
  induction dependencies generalizing before with
  | nil =>
      cases run
      rfl
  | cons dependency following inductionHypothesis =>
      cases run with
      | step step rest =>
          rw [inductionHypothesis rest, Manifest.updated_cons,
            (applied_of_apply step).manifest_eq]

/-- The manifest on disk is the loaded one up to the end, when the last one is saved. -/
theorem Run.read_finish
    {tree : FileTree}
    {directory : Text}
    {file : ManifestFile}
    {changes : List Change}
    (loaded : ManifestFile.load tree directory = .ok file)
    (run : Run (.start tree directory file) changes after) :
    after.file.path = ManifestFile.pathIn directory ∧
      after.finish.tree.read (ManifestFile.pathIn directory) = .ok after.file.manifest.format := by
  obtain ⟨path, held, _⟩ := ManifestFile.load_eq_ok_iff.mp loaded
  obtain ⟨_, samePath, sameStored⟩ := run.file_eq
  have lastPath : after.file.path = ManifestFile.pathIn directory := samePath.trans path
  have lastStored : after.tree.read after.file.path = .ok after.file.stored := by
    rw [lastPath, run.changesSourcesOnly.read_manifest, sameStored]
    exact held
  exact ⟨lastPath, lastPath ▸ ManifestFile.read_save lastPath lastStored⟩

/-- The manifest that a run leaves is loaded again where its text can be read. -/
theorem Run.load_finish
    {tree : FileTree}
    {directory : Text}
    {file : ManifestFile}
    {changes : List Change}
    (loaded : ManifestFile.load tree directory = .ok file)
    (run : Run (.start tree directory file) changes after)
    {again : Manifest}
    (reread : Manifest.ofText after.file.manifest.format = .ok again) :
    after.file.path = ManifestFile.pathIn directory ∧
      ManifestFile.load after.finish.tree directory =
        .ok
          { path := ManifestFile.pathIn directory
            manifest := again
            stored := after.file.manifest.format } := by
  obtain ⟨lastPath, saved⟩ := run.read_finish loaded
  exact ⟨lastPath, ManifestFile.load_eq_ok_iff.mpr ⟨rfl, saved, reread⟩⟩

end Batch

/--
After a successful update the manifest can be read, requires no module twice, and requires every
module at the version that the batch leads to.  Its main module, its language and its toolchain
stay, and it excludes and replaces the same.
-/
theorem requirements_of_update
    {tree : FileTree}
    {directory : Text}
    {dependencies : List Dependency}
    {changed : List Text}
    (oneLine : ∀ dependency ∈ dependencies,
      '\n' ∉ dependency.name ∧ '\n' ∉ dependency.version)
    (succeeded : (updateDependencies tree directory dependencies).result = .ok changed) :
    ∃ before after,
      ManifestFile.load tree directory = .ok before ∧
        ManifestFile.load (updateDependencies tree directory dependencies).tree directory =
          .ok after ∧
        (after.manifest.requirements.map Requirement.path).Nodup ∧
        after.manifest.versionOf? =
          dependencies.foldl (fun versions dependency => dependency.revise versions)
            before.manifest.versionOf? ∧
        (∀ verb, verb.standsAlone = true →
          after.manifest.value? verb = before.manifest.value? verb) ∧
        after.manifest.exclusions.Perm before.manifest.exclusions ∧
        after.manifest.replacements.Perm before.manifest.replacements := by
  obtain ⟨before, last, loaded, validated, run, _, whole⟩ := run_of_updateDependencies succeeded
  obtain ⟨_, _, read⟩ := ManifestFile.load_eq_ok_iff.mp loaded
  obtain ⟨lastSound, others, versions⟩ :=
    run.revises (Manifest.isSound_ofText read) validated oneLine
  obtain ⟨again, reread, saysSame⟩ := Manifest.exists_formatted lastSound
  have againSound := Manifest.isSound_ofText reread
  have saysPermuted : ∀ verb, (again.said verb).Perm (last.file.manifest.said verb) :=
    fun verb => (saysSame verb).symm ▸ last.file.manifest.said_canonical verb
  refine
    ⟨before,
      { path := ManifestFile.pathIn directory
        manifest := again
        stored := last.file.manifest.format },
      loaded, ?_, ?_, ?_, ?_, ?_, ?_⟩
  · rw [whole]
    exact (run.load_finish loaded reread).2
  · have distinct := againSound.distinct
    simp only [Manifest.required] at distinct
    rwa [List.map_map] at distinct
  · exact (Manifest.versionOf?_of_said lastSound (saysPermuted .require)).trans versions
  · intro verb alone
    have notSorted : verb.isSorted = false := by
      cases verb <;> first | rfl | cases alone
    have notRequire : verb ≠ .require := by
      rintro rfl
      cases alone
    rw [Manifest.value?_eq, Manifest.value?_eq, saysSame,
      Manifest.said_canonical_of_not_isSorted notSorted, others verb notRequire]
    rfl
  · rw [Manifest.exclusions_eq, Manifest.exclusions_eq before.manifest]
    exact ((others .exclude (by decide)) ▸ saysPermuted .exclude).filterMap _
  · rw [Manifest.replacements_eq, Manifest.replacements_eq before.manifest]
    exact ((others .replace (by decide)) ▸ saysPermuted .replace).filterMap _

/-- A module with one requirement and one source that imports it. -/
private def importingTree : FileTree where
  files :=
    [(["go.mod".toList], Text.toBytes "module m\n\nrequire example.com/mod v1.0.0\n".toList),
      (["main.go".toList],
        Text.toBytes "package main\n\nimport \"example.com/mod\"\n".toList)]
  distinct := by decide

/-- An upgrade to the second major version. -/
private def upgradeToSecond : Dependency where
  name := "example.com/mod/v2".toList
  version := "v2.0.0".toList
  previous := some "v1.0.0".toList

/-- A new requirement. -/
private def addition : Dependency where
  name := "example.com/other".toList
  version := "v0.1.0".toList
  indirect := true

/-- The manifest that is left requires the upgraded module at its new path only. -/
theorem requirements_of_update_importing :
    ∃ after,
      ManifestFile.load
          (updateDependencies importingTree FilePath.here [upgradeToSecond, addition]).tree
          FilePath.here =
          .ok after ∧
        after.manifest.versionOf? "example.com/mod".toList = none ∧
        after.manifest.versionOf? "example.com/mod/v2".toList = some "v2.0.0".toList := by
  have oneLine : ∀ dependency ∈ [upgradeToSecond, addition],
      '\n' ∉ dependency.name ∧ '\n' ∉ dependency.version := by
    decide
  have succeeded :
      (updateDependencies importingTree FilePath.here [upgradeToSecond, addition]).result =
        .ok ["main.go".toList] := by
    decide +kernel
  have moves : upgradeToSecond.majorUpgradeFrom? = some "example.com/mod".toList := by
    decide +kernel
  have stays : addition.majorUpgradeFrom? = none := rfl
  obtain ⟨before, after, _, reread, _, versions, _⟩ := requirements_of_update oneLine succeeded
  simp only [List.foldl_cons, List.foldl_nil, Dependency.revise, moves, stays,
    Option.elim_some, Option.elim_none] at versions
  refine ⟨after, reread, ?_, ?_⟩
  · rw [versions, Function.update_of_ne (by decide), Function.update_of_ne (by decide),
      Function.update_self]
  · have isName : upgradeToSecond.name = "example.com/mod/v2".toList := rfl
    rw [versions, Function.update_of_ne (by decide), isName, Function.update_self]
    rfl

end ModuleUpdate
