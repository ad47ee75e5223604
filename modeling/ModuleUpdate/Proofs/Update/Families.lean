import ModuleUpdate.Proofs.Manifest.Entries
import ModuleUpdate.Proofs.ModulePath.MajorSuffix
import ModuleUpdate.Proofs.Update.Failures
import ModuleUpdate.Proofs.Update.Replay

namespace ModuleUpdate

/-!
# Upgrades within a major version

The path that a dependency had at an earlier version is built anew from its root and the number of
that version.  Where the earlier version lives at the path that the dependency has, this is the same
path again, unless it is marked as unstable.  So such an upgrade is no major one: an update drops no
requirement for it and writes no source.
-/

namespace Dependency

/-- The dependency is upgraded from a version that lives at its own path. -/
def StaysHome (dependency : Dependency) : Prop :=
  ∃ earlier ∈ dependency.previous.bind Version.parse?,
    earlier.isIncompatible = false ∧
      ModulePath.IsHomeOf dependency.name earlier.semantic.major

instance : DecidablePred StaysHome :=
  fun _ => inferInstanceAs (Decidable (∃ _ ∈ _, _ ∧ _))

/-- Only the marker of unstable versions makes an upgrade within a major version a major one. -/
theorem majorUpgradeFrom?_of_staysHome
    {dependency : Dependency}
    (stays : dependency.StaysHome) :
    dependency.majorUpgradeFrom? =
      if ModulePath.isUnstable dependency.name then
        some (Text.dropEnding ModulePath.unstableMarker dependency.name)
      else
        none := by
  obtain ⟨earlier, isEarlier, compatible, home⟩ := stays
  obtain ⟨previous, isPrevious, parsed⟩ := Option.bind_eq_some_iff.mp isEarlier
  have isBuilt :
      dependency.previous.bind (ModulePath.atVersion? dependency.name) =
        some
          (if ModulePath.isUnstable dependency.name then
            Text.dropEnding ModulePath.unstableMarker dependency.name
          else
            dependency.name) := by
    rw [isPrevious, Option.bind_some, ModulePath.atVersion?, parsed, Option.map_some, compatible,
      if_neg Bool.false_ne_true, ModulePath.ofMajor_of_isHomeOf home]
  rw [majorUpgradeFrom?, isBuilt, Option.filter_some]
  split
  · next unstable => rw [if_pos (ModulePath.isMajorChange_of_isUnstable unstable)]
  · simp [ModulePath.isMajorChange]

end Dependency

namespace Manifest

/-- Every entry is still there, and those of other modules are as they were. -/
def KeepsEntries (paths : List Text) (before after : Manifest) : Prop :=
  ∀ entry ∈ before.requirements,
    ∃ kept ∈ after.requirements,
      kept.path = entry.path ∧ (entry.path ∉ paths → kept = entry)

namespace KeepsEntries

variable {before between after : Manifest} {paths : List Text}

theorem refl (paths : List Text) (manifest : Manifest) : KeepsEntries paths manifest manifest :=
  fun entry member => ⟨entry, member, rfl, fun _ => rfl⟩

theorem trans
    (first : KeepsEntries paths before between)
    (second : KeepsEntries paths between after) :
    KeepsEntries paths before after := by
  intro entry member
  obtain ⟨kept, isKept, samePath, sameEntry⟩ := first entry member
  obtain ⟨last, isLast, sameLastPath, sameLast⟩ := second kept isKept
  refine ⟨last, isLast, sameLastPath.trans samePath, fun isOther => ?_⟩
  rw [sameLast (samePath ▸ isOther), sameEntry isOther]

end KeepsEntries

variable {manifest changed : Manifest} {path : Text} {paths : List Text}

/-- A changed entry stands where it stood, and the others are as they were. -/
private theorem keepsEntries_of_adjust
    (isMember : path ∈ paths)
    {effect : Requirement → Requirement}
    (adjusted : changed.requirements = Requirement.adjust path effect manifest.requirements)
    (keepsPath : ∀ entry, (effect entry).path = entry.path) :
    KeepsEntries paths manifest changed := by
  intro entry member
  refine ⟨if entry.path = path then effect entry else entry, ?_, ?_, ?_⟩
  · rw [adjusted]
    exact List.mem_map_of_mem member
  · split
    · exact keepsPath entry
    · rfl
  · intro isOther
    rw [if_neg]
    rintro rfl
    exact isOther isMember

/-- Requiring a module changes its entry at most. -/
private theorem keepsEntries_require
    (consistent : manifest.IsConsistent)
    (isMember : path ∈ paths)
    (version : Text) :
    KeepsEntries paths manifest (Revision.apply manifest (.require path version)) := by
  cases valid : Version.isValid version with
  | false =>
      rw [Revision.apply, require_eq_error manifest path valid]
      exact .refl paths manifest
  | true =>
      obtain ⟨changed, required, assigned, _⟩ := exists_assigned consistent path valid
      rw [Revision.apply, required]
      dsimp only
      rw [Requirement.assign] at assigned
      split at assigned
      · exact keepsEntries_of_adjust isMember assigned fun _ => rfl
      · intro entry member
        refine ⟨entry, ?_, rfl, fun _ => rfl⟩
        rw [assigned]
        exact List.mem_append_left _ member

/-- Marking a requirement changes its entry at most. -/
private theorem keepsEntries_markIndirect
    (consistent : manifest.IsConsistent)
    (isMember : path ∈ paths)
    (indirect : Bool) :
    KeepsEntries paths manifest (Revision.apply manifest (.markIndirect path indirect)) := by
  rw [Revision.apply]
  cases marked : manifest.markIndirect? path indirect with
  | none => exact .refl paths manifest
  | some changed =>
      obtain ⟨marker, adjusted⟩ := requirements_withIndirect consistent marked
      exact keepsEntries_of_adjust isMember adjusted fun _ => rfl

/-- Dependencies that do not move change their own entries at most. -/
theorem keepsEntries_updated
    {dependencies : List Dependency}
    (consistent : manifest.IsConsistent)
    (unmoved : ∀ dependency ∈ dependencies, dependency.majorUpgradeFrom? = none)
    (named : ∀ dependency ∈ dependencies, dependency.name ∈ paths) :
    KeepsEntries paths manifest (manifest.updated dependencies) := by
  induction dependencies generalizing manifest with
  | nil => exact .refl paths manifest
  | cons dependency following inductionHypothesis =>
      have isNamed := named dependency List.mem_cons_self
      have stays := unmoved dependency List.mem_cons_self
      have stillConsistent :=
        Revision.isConsistent_apply consistent (.require dependency.name dependency.version)
      have applied : KeepsEntries paths manifest (manifest.revised dependency.revisions) := by
        rw [Dependency.revisions, stays]
        exact (keepsEntries_require consistent isNamed dependency.version).trans
          (keepsEntries_markIndirect stillConsistent isNamed dependency.indirect)
      rw [updated_cons]
      refine applied.trans (inductionHypothesis ?_ ?_ ?_)
      · exact isConsistent_revised consistent dependency.revisions
      · exact fun other member => unmoved other (List.mem_cons_of_mem _ member)
      · exact fun other member => named other (List.mem_cons_of_mem _ member)

end Manifest

namespace Batch

/-- Nothing was written or told, and no requirement was dropped. -/
structure RequiresOnly (paths : List Text) (before after : Batch) : Prop where
  tree : after.tree = before.tree
  changed : after.changed = before.changed
  entries : before.file.manifest.KeepsEntries paths after.file.manifest

/-- Changes that move no module tell of no source. -/
private theorem Run.changed_eq
    {before after : Batch}
    {changes : List Change}
    (run : Run before changes after)
    (unmoved : ∀ change ∈ changes, change.oldPath = none) :
    after.changed = before.changed := by
  induction run with
  | done => rfl
  | step applied _ inductionHypothesis =>
      have later := inductionHypothesis fun change member => unmoved change (by simp [member])
      exact later.trans ((applied_of_apply applied).silent (unmoved _ (by simp)))

/-- Dependencies that do not move are required and nothing else. -/
theorem Run.requiresOnly
    {before after : Batch}
    {dependencies : List Dependency}
    (run : Run before (dependencies.map Change.ofValid) after)
    (consistent : before.file.manifest.IsConsistent)
    (unmoved : ∀ dependency ∈ dependencies, dependency.majorUpgradeFrom? = none) :
    RequiresOnly (dependencies.map Dependency.name) before after := by
  have noneMoves : ∀ change ∈ dependencies.map Change.ofValid, change.oldPath = none := by
    intro change member
    obtain ⟨dependency, isDependency, rfl⟩ := List.mem_map.mp member
    exact unmoved dependency isDependency
  refine ⟨run.tree_eq noneMoves, run.changed_eq noneMoves, ?_⟩
  rw [run.manifest_eq]
  exact Manifest.keepsEntries_updated consistent unmoved fun _ => List.mem_map_of_mem

end Batch

/--
Where each dependency of a batch is upgraded from a version that lives at its own path, the path it
is upgraded from is at most the one without the marker of unstable versions.  Where none has that
marker, applying them drops no requirement, changes none of another module, writes nothing and tells
of no source.  So an update with them that fails leaves every file as it was, and one that succeeds
leaves every file but the manifest as it was.
-/
theorem update_within_families
    {dependencies : List Dependency}
    (stays : ∀ dependency ∈ dependencies, dependency.StaysHome) :
    (∀ dependency ∈ dependencies,
        dependency.majorUpgradeFrom? =
          if ModulePath.isUnstable dependency.name then
            some (Text.dropEnding ModulePath.unstableMarker dependency.name)
          else
            none) ∧
      ((∀ dependency ∈ dependencies, ModulePath.isUnstable dependency.name = false) →
        (∀ before after : Batch,
            before.file.manifest.IsConsistent →
            Batch.Run before (dependencies.map Change.ofValid) after →
              Batch.RequiresOnly (dependencies.map Dependency.name) before after) ∧
          ∀ tree directory,
            (∀ failure,
              (updateDependencies tree directory dependencies).result = .error failure →
                (updateDependencies tree directory dependencies).tree = tree) ∧
            ∀ changed,
              (updateDependencies tree directory dependencies).result = .ok changed →
                changed = [] ∧
                  (∀ location : Location,
                    location.getLast? ≠ some manifestName →
                      (updateDependencies tree directory dependencies).tree.file? location =
                        tree.file? location) ∧
                  ∃ before after,
                    ManifestFile.load tree directory = .ok before ∧
                      (updateDependencies tree directory dependencies).tree.read
                          (ManifestFile.pathIn directory) =
                        .ok after.format ∧
                      before.manifest.KeepsEntries (dependencies.map Dependency.name) after) := by
  have moves := fun dependency member =>
    Dependency.majorUpgradeFrom?_of_staysHome (stays dependency member)
  refine ⟨moves, fun stable => ?_⟩
  have unmoved : ∀ dependency ∈ dependencies, dependency.majorUpgradeFrom? = none := by
    intro dependency member
    rw [moves dependency member, stable dependency member, if_neg Bool.false_ne_true]
  refine ⟨fun before after consistent run => run.requiresOnly consistent unmoved, ?_⟩
  refine fun tree directory => ⟨fun failure failed => ?_, fun changed succeeded => ?_⟩
  · -- Only a dependency that moves can stop an update behind its first change.
    rcases failed_update_cases failed with ⟨sameTree, _⟩ | stopped | unsorted
    · exact sameTree
    · obtain ⟨earlier, failing, later, _, _, _, rfl, _, failingMoves, _⟩ := stopped
      rw [unmoved failing (by simp)] at failingMoves
      cases failingMoves
    · obtain ⟨file, after, run, _, sameTree⟩ := unsorted
      rw [sameTree]
      exact run.tree_eq (by simpa [Change.ofValid] using unmoved)
  · obtain ⟨file, last, loaded, _, run, _, whole⟩ := run_of_updateDependencies succeeded
    obtain ⟨_, _, read⟩ := ManifestFile.load_eq_ok_iff.mp loaded
    have requires := run.requiresOnly (Manifest.isSound_ofText read).isConsistent unmoved
    obtain ⟨lastPath, saved⟩ := run.read_finish loaded
    have noSource : last.changed = [] := requires.changed
    rw [whole] at succeeded ⊢
    refine ⟨?_, fun location isOther => ?_, file, last.file.manifest, loaded, saved,
      requires.entries⟩
    · rw [Batch.finish, noSource] at succeeded
      exact (Except.ok.inj succeeded).symm
    · have sameTree : last.tree = tree := requires.tree
      rw [← sameTree]
      exact ManifestFile.file?_save_of_other lastPath last.tree isOther

/-- A module that requires and imports three major versions, one of them from the dotted host. -/
private def familyTree : FileTree where
  files :=
    [(["go.mod".toList],
        Text.toBytes
          ("module m\n\nrequire (\n\tgopkg.in/yaml.v3 v3.0.0\n\tm.io/a v0.9.0\n" ++
            "\tm.io/a/v2 v2.0.0\n)\n").toList),
      (["main.go".toList],
        Text.toBytes
          ("package main\n\nimport \"gopkg.in/yaml.v3\"\nimport \"m.io/a/b\"\n" ++
            "import \"m.io/a/v2\"\n").toList)]
  distinct := by decide

/-- A patch and a minor upgrade, and the first release of a module. -/
private def familyUpgrades : List Dependency :=
  [{ name := "gopkg.in/yaml.v3".toList
     version := "v3.0.1".toList
     previous := some "v3.0.0".toList },
    { name := "m.io/a/v2".toList
      version := "v2.1.0".toList
      previous := some "v2.0.0".toList },
    { name := "m.io/a".toList
      version := "v1.0.0".toList
      previous := some "v0.9.0".toList }]

/-- A patch of a version that is marked as unstable. -/
private def unstableUpgrade : Dependency where
  name := "gopkg.in/check.v1-unstable".toList
  version := "v1.0.1".toList
  previous := some "v1.0.0".toList

/-- The upgrades leave the sources alone, but a marked path is taken for that of another version. -/
theorem update_within_families_patched :
    (updateDependencies familyTree FilePath.here familyUpgrades).result = .ok [] ∧
      (updateDependencies familyTree FilePath.here familyUpgrades).tree.file?
          ["main.go".toList] =
        familyTree.file? ["main.go".toList] ∧
      unstableUpgrade.majorUpgradeFrom? = some "gopkg.in/check.v1".toList := by
  have stay : ∀ dependency ∈ familyUpgrades, dependency.StaysHome := by decide +kernel
  have stable : ∀ dependency ∈ familyUpgrades,
      ModulePath.isUnstable dependency.name = false := by
    decide
  have succeeded :
      (updateDependencies familyTree FilePath.here familyUpgrades).result = .ok [] := by
    decide +kernel
  obtain ⟨_, sources, _⟩ :=
    (((update_within_families stay).2 stable).2 familyTree FilePath.here).2 [] succeeded
  have unstableStays : ∀ dependency ∈ [unstableUpgrade], dependency.StaysHome := by
    decide +kernel
  have moves := (update_within_families unstableStays).1 unstableUpgrade List.mem_cons_self
  refine ⟨succeeded, sources _ (by decide), moves.trans ?_⟩
  decide

end ModuleUpdate
