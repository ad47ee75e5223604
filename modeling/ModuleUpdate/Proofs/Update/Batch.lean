import ModuleUpdate.Proofs.ImportMove
import ModuleUpdate.Update

namespace ModuleUpdate

/-!
# Steps and runs of a batch

A change of a batch either is applied or stops the batch.  Once the batch is validated, the only
reason to stop is that a move of imports halts.  A change may write sources, also one that stops
the batch, but never the manifest.
-/

/-- A later tree in which sources were written and nothing else. -/
structure FileTree.ChangesSourcesOnly (before after : FileTree) : Prop where
  layout : FileTree.SameLayout before after
  others : ∀ location : Location,
    location.getLast?.any SourceFile.isSourceName = false →
      after.file? location = before.file? location

namespace FileTree.ChangesSourcesOnly

theorem refl (tree : FileTree) : ChangesSourcesOnly tree tree :=
  ⟨.refl tree, fun _ _ => rfl⟩

theorem trans
    {first second third : FileTree}
    (left : ChangesSourcesOnly first second)
    (right : ChangesSourcesOnly second third) :
    ChangesSourcesOnly first third :=
  ⟨left.layout.trans right.layout,
    fun location other => (right.others location other).trans (left.others location other)⟩

/-- A manifest is no source, so it stays. -/
theorem resolve_manifest
    {before after : FileTree}
    (sourcesOnly : ChangesSourcesOnly before after)
    (directory : Text) :
    after.resolve (ManifestFile.pathIn directory) =
      before.resolve (ManifestFile.pathIn directory) := by
  rw [sourcesOnly.layout.resolve]
  cases led : before.resolve (ManifestFile.pathIn directory) with
  | file location bytes =>
      obtain ⟨held, last⟩ := FileTree.file?_of_resolve (by decide) led
      have kept : after.file? location = before.file? location := by
        apply sourcesOnly.others
        rw [last]
        decide
      simp [FileTree.refreshed, kept, held]
  | _ => rfl

/-- The text of the manifest stays where sources only are written. -/
theorem read_manifest
    {before after : FileTree}
    (sourcesOnly : ChangesSourcesOnly before after)
    (directory : Text) :
    after.read (ManifestFile.pathIn directory) = before.read (ManifestFile.pathIn directory) := by
  simp only [FileTree.read]
  rw [sourcesOnly.resolve_manifest]

end FileTree.ChangesSourcesOnly

/-- Writing files of a loaded module writes sources only. -/
private theorem ImportMove.changesSourcesOnly_of_load
    {tree : FileTree}
    {directory : Text}
    {graph : PackageGraph}
    {files : List SourceFile}
    (loaded : PackageGraph.load tree directory = .ok graph)
    (within : ∀ file ∈ files, file ∈ graph.visited)
    (old new : Text) :
    FileTree.ChangesSourcesOnly tree (writeAll tree graph.root (affected files old new)) := by
  refine ⟨sameLayout_of_load loaded within old new, ?_⟩
  intro location notSource
  apply file?_of_load loaded within
  rintro root names _ eligible rfl
  rw [SourceFile.isSourceName_of_isEligible eligible] at notSource
  cases notSource

/-- Moving imports writes sources only. -/
theorem ImportMove.changesSourcesOnly_below
    {tree : FileTree}
    {directory relativeTo old new : Text}
    {moved : ImportMove}
    (isMoved : ImportMove.below tree directory relativeTo old new = .ok moved) :
    FileTree.ChangesSourcesOnly tree moved.tree := by
  obtain ⟨graph, loaded, _, written, _⟩ := below_eq_ok isMoved
  rw [written]
  exact changesSourcesOnly_of_load loaded (fun _ member => member) old new

/-- A move of imports that halts has written sources only. -/
theorem ImportMove.changesSourcesOnly_of_halted
    {tree : FileTree}
    {directory relativeTo old new : Text}
    {halted : HaltedMove}
    (isHalted : ImportMove.below tree directory relativeTo old new = .error halted) :
    FileTree.ChangesSourcesOnly tree halted.tree := by
  rcases below_eq_error isHalted with ⟨_, _, _, sameTree⟩ | stopped
  · rw [sameTree]
    exact .refl tree
  · obtain ⟨graph, earlier, file, later, loaded, split, _, _, _, written⟩ := stopped
    rw [written]
    exact changesSourcesOnly_of_load loaded
      (fun other member => split ▸ List.mem_append_left (file :: later) member) old new

namespace Change

/-- The change that a dependency asks for. -/
def ofValid (dependency : Dependency) : Change :=
  { dependency, oldPath := dependency.majorUpgradeFrom? }

theorem ofDependency_eq
    (dependency : Dependency) :
    ofDependency dependency = dependency.validate.map fun _ => ofValid dependency :=
  rfl

/-- A batch passes validation exactly when all of its dependencies do. -/
theorem ofDependencies_eq_ok_iff
    {dependencies : List Dependency}
    {changes : List Change} :
    ofDependencies dependencies = .ok changes ↔
      (∀ dependency ∈ dependencies, dependency.validate = .ok ()) ∧
        changes = dependencies.map ofValid := by
  induction dependencies generalizing changes with
  | nil => simp [ofDependencies, eq_comm]
  | cons dependency following inductionHypothesis =>
      simp only [ofDependencies]
      rw [ofDependency_eq]
      cases validated : dependency.validate with
      | error error => simp [Except.map, validated]
      | ok _ =>
          cases others : ofDependencies following with
          | error error =>
              have notAll : ¬∀ other ∈ following, other.validate = .ok () := by
                intro all
                have isOk := inductionHypothesis.mpr ⟨all, rfl⟩
                rw [others] at isOk
                cases isOk
              simp [Except.map, notAll]
          | ok rest =>
              obtain ⟨all, rfl⟩ := inductionHypothesis.mp others
              have whole : ∀ other ∈ dependency :: following, other.validate = .ok () := by
                intro other member
                rcases List.mem_cons.mp member with rfl | later
                · exact validated
                · exact all other later
              rw [List.map_cons]
              constructor
              · rintro ⟨⟩
                exact ⟨whole, rfl⟩
              · rintro ⟨_, rfl⟩
                rfl

/-- A dependency that passes validation has a valid version. -/
theorem isValid_of_validate
    {dependency : Dependency}
    (validated : dependency.validate = .ok ()) :
    Version.isValid dependency.version = true := by
  simp only [Dependency.validate] at validated
  split at validated
  · cases validated
  · next nothing =>
      have all := List.find?_eq_none.mp nothing dependency.version (by simp)
      simpa using all

end Change

/-- Only an invalid version keeps a module from being required. -/
theorem Manifest.exists_require
    {version : Text}
    (valid : Version.isValid version = true)
    (manifest : Manifest)
    (path : Text) :
    ∃ required, manifest.require path version = .ok required := by
  simp only [require]
  rw [if_pos valid]
  cases manifest.changeRequirement? path (Line.withVersion version) with
  | some changed => exact ⟨changed, rfl⟩
  | none => exact ⟨_, rfl⟩

namespace Batch

variable {before between after : Batch} {change : Change}

/-- What a change that is applied does. -/
structure Applied (before : Batch) (change : Change) (after : Batch) : Prop where
  directory : after.directory = before.directory
  path : after.file.path = before.file.path
  stored : after.file.stored = before.file.stored
  unmoved : change.oldPath = none → after.tree = before.tree
  moved : ∀ old, change.oldPath = some old →
    ∃ moved,
      ImportMove.below before.tree before.directory before.directory old change.dependency.name =
          .ok moved ∧
        after.tree = moved.tree
  silent : change.oldPath = none → after.changed = before.changed
  told : ∀ old moved, change.oldPath = some old →
    ImportMove.below before.tree before.directory before.directory old change.dependency.name =
        .ok moved →
      after.changed = before.changed ++ moved.changed
  manifest : ∃ required,
    (change.oldPath.elim before.file.manifest before.file.manifest.drop).require
        change.dependency.name change.dependency.version =
        .ok required ∧
      after.file.manifest =
        (required.markIndirect? change.dependency.name change.dependency.indirect).getD required

/-- A requirement that is set leaves the manifest that it leads to. -/
private theorem require_eq
    {batch after : Batch}
    {dependency : Dependency}
    (required : batch.require dependency = (after, none)) :
    ∃ manifest,
      batch.file.manifest.require dependency.name dependency.version = .ok manifest ∧
        after =
          batch.withManifest
            ((manifest.markIndirect? dependency.name dependency.indirect).getD manifest) := by
  simp only [Batch.require] at required
  split at required
  · cases required
  · next manifest isRequired =>
      cases required
      exact ⟨manifest, isRequired, rfl⟩

/-- A change that goes through is applied. -/
theorem applied_of_apply
    (applied : before.apply change = (after, none)) :
    Applied before change after := by
  simp only [apply] at applied
  cases moves : change.oldPath with
  | none =>
      simp only [moves] at applied
      obtain ⟨manifest, required, rfl⟩ := require_eq applied
      exact
        { directory := rfl
          path := rfl
          stored := rfl
          unmoved := fun _ => rfl
          moved := by simp [moves]
          silent := fun _ => rfl
          told := by simp [moves]
          manifest := ⟨manifest, by rw [moves]; exact required, rfl⟩ }
  | some old =>
      simp only [moves, move] at applied
      cases isMoved : ImportMove.below before.tree before.directory before.directory old
          change.dependency.name with
      | error halted =>
          simp [note, isMoved] at applied
      | ok moved =>
          simp only [note, isMoved] at applied
          obtain ⟨manifest, required, rfl⟩ := require_eq applied
          exact
            { directory := rfl
              path := rfl
              stored := rfl
              unmoved := by simp [moves]
              moved := by
                intro other same
                rw [moves, Option.some_inj] at same
                exact ⟨moved, same ▸ isMoved, rfl⟩
              silent := by simp [moves]
              told := by
                intro other found same isFound
                rw [moves, Option.some_inj] at same
                subst same
                cases isMoved.symm.trans isFound
                rfl
              manifest := ⟨manifest, by rw [moves]; exact required, rfl⟩ }

/-- A valid dependency is required. -/
private theorem exists_require
    (batch : Batch)
    {dependency : Dependency}
    (valid : Version.isValid dependency.version = true) :
    ∃ after, batch.require dependency = (after, none) := by
  obtain ⟨required, isRequired⟩ := batch.file.manifest.exists_require valid dependency.name
  simp only [Batch.require, isRequired]
  exact ⟨_, rfl⟩

/-- A valid change is applied where the imports that it moves can be moved. -/
theorem exists_apply
    (valid : Version.isValid change.dependency.version = true)
    (moves : ∀ old,
      change.oldPath = some old →
        ∃ moved,
          ImportMove.below before.tree before.directory before.directory old
              change.dependency.name =
            .ok moved) :
    ∃ after, before.apply change = (after, none) := by
  simp only [apply]
  cases isOld : change.oldPath with
  | none => exact exists_require _ valid
  | some old =>
      obtain ⟨moved, isMoved⟩ := moves old isOld
      simp only [move, note, isMoved]
      exact exists_require _ valid

/-- A valid change only stops a batch when its move of imports halts. -/
theorem stopped_of_apply
    {failure : Failure}
    (valid : Version.isValid change.dependency.version = true)
    (stopped : before.apply change = (after, some failure)) :
    ∃ old halted,
      change.oldPath = some old ∧
        ImportMove.below before.tree before.directory before.directory old
            change.dependency.name =
          .error halted ∧
        failure = halted.failure ∧ after.tree = halted.tree := by
  have requires : ∀ (batch stopped : Batch) (failure : Failure),
      batch.require change.dependency ≠ (stopped, some failure) := by
    intro batch stopped failure
    obtain ⟨after, isRequired⟩ := exists_require batch valid
    simp [isRequired]
  simp only [apply] at stopped
  cases moves : change.oldPath with
  | none =>
      simp only [moves] at stopped
      exact absurd stopped (requires _ _ _)
  | some old =>
      simp only [moves, move] at stopped
      cases isMoved : ImportMove.below before.tree before.directory before.directory old
          change.dependency.name with
      | error halted =>
          simp only [note, isMoved] at stopped
          cases stopped
          exact ⟨old, halted, rfl, isMoved, rfl, rfl⟩
      | ok moved =>
          simp only [note, isMoved] at stopped
          exact absurd stopped (requires _ _ _)

/-- A change that is applied writes sources only. -/
theorem Applied.changesSourcesOnly
    (applied : Applied before change after) :
    FileTree.ChangesSourcesOnly before.tree after.tree := by
  cases moves : change.oldPath with
  | none =>
      rw [applied.unmoved moves]
      exact .refl before.tree
  | some old =>
      obtain ⟨moved, isMoved, same⟩ := applied.moved old moves
      rw [same]
      exact ImportMove.changesSourcesOnly_below isMoved

/-- Changes that are applied one after the other. -/
inductive Run : Batch → List Change → Batch → Prop where
  | done
      (batch : Batch) :
      Run batch [] batch
  | step
      {before between after : Batch}
      {change : Change}
      {following : List Change} :
      before.apply change = (between, none) →
      Run between following after →
      Run before (change :: following) after

/-- Changes of a run are applied up to the end. -/
theorem applyAll_of_run
    {changes : List Change}
    (run : Run before changes after) :
    before.applyAll changes = (after, none) := by
  induction run with
  | done batch => rfl
  | step applied _ inductionHypothesis =>
      rw [applyAll, applied]
      exact inductionHypothesis

/-- Changes are either all applied, or up to the first that stops the batch. -/
theorem run_or_stopped
    (before : Batch)
    (changes : List Change) :
    (∃ after, Run before changes after) ∨
      ∃ earlier failing later between stopped failure,
        changes = earlier ++ failing :: later ∧
          Run before earlier between ∧
          between.apply failing = (stopped, some failure) ∧
          ∀ behind, before.applyAll (earlier ++ failing :: behind) = (stopped, some failure) := by
  induction changes generalizing before with
  | nil => exact .inl ⟨before, .done before⟩
  | cons change following inductionHypothesis =>
      cases step : before.apply change with
      | mk between outcome =>
          cases outcome with
          | some failure =>
              refine .inr
                ⟨[], change, following, before, between, failure, rfl, .done before, step, ?_⟩
              intro behind
              rw [List.nil_append, applyAll, step]
          | none =>
              rcases inductionHypothesis between with ⟨after, run⟩ | stopped
              · exact .inl ⟨after, .step step run⟩
              · obtain ⟨earlier, failing, later, reached, stopped, failure, rfl, run, fails, all⟩ :=
                  stopped
                refine .inr
                  ⟨change :: earlier, failing, later, reached, stopped, failure, rfl,
                    .step step run, fails, ?_⟩
                intro behind
                rw [List.cons_append, applyAll, step]
                exact all behind

namespace Run

variable {changes : List Change}

/-- A run writes sources only. -/
theorem changesSourcesOnly
    (run : Run before changes after) :
    FileTree.ChangesSourcesOnly before.tree after.tree := by
  induction run with
  | done batch => exact .refl batch.tree
  | step applied _ inductionHypothesis =>
      exact (applied_of_apply applied).changesSourcesOnly.trans inductionHypothesis

/-- A run stays in its directory and keeps the path of the manifest and its stored text. -/
theorem file_eq
    (run : Run before changes after) :
    after.directory = before.directory ∧
      after.file.path = before.file.path ∧ after.file.stored = before.file.stored := by
  induction run with
  | done batch => exact ⟨rfl, rfl, rfl⟩
  | step applied _ inductionHypothesis =>
      have one := applied_of_apply applied
      obtain ⟨directory, path, stored⟩ := inductionHypothesis
      exact ⟨directory.trans one.directory, path.trans one.path, stored.trans one.stored⟩

/-- Changes that move no module write nothing. -/
theorem tree_eq
    (run : Run before changes after)
    (unmoved : ∀ change ∈ changes, change.oldPath = none) :
    after.tree = before.tree := by
  induction run with
  | done batch => rfl
  | step applied _ inductionHypothesis =>
      have later := inductionHypothesis fun change member => unmoved change (by simp [member])
      exact later.trans ((applied_of_apply applied).unmoved (unmoved _ (by simp)))

end Run

/-- The state in front of the first change. -/
def start (tree : FileTree) (directory : Text) (file : ManifestFile) : Batch :=
  { directory
    tree
    file
    notes := [.step ("Loading ".toList ++ ManifestFile.pathIn directory)] }

end Batch

/-- An update of a manifest that can be read, with a batch that passes validation. -/
theorem updateDependencies_eq
    {tree : FileTree}
    {directory : Text}
    {file : ManifestFile}
    {dependencies : List Dependency}
    (loaded : ManifestFile.load tree directory = .ok file)
    (validated : ∀ dependency ∈ dependencies, dependency.validate = .ok ()) :
    updateDependencies tree directory dependencies =
      match (Batch.start tree directory file).applyAll (dependencies.map Change.ofValid) with
      | (batch, none) => batch.conclude
      | (batch, some failure) =>
          { result := .error failure, tree := batch.tree, notes := batch.notes } := by
  have changes := Change.ofDependencies_eq_ok_iff.mpr ⟨validated, rfl⟩
  simp only [updateDependencies]
  rw [loaded]
  dsimp only
  rw [changes]
  rfl

/-- An update whose batch is applied up to its end. -/
theorem updateDependencies_of_run
    {tree : FileTree}
    {directory : Text}
    {file : ManifestFile}
    {dependencies : List Dependency}
    {after : Batch}
    (loaded : ManifestFile.load tree directory = .ok file)
    (validated : ∀ dependency ∈ dependencies, dependency.validate = .ok ())
    (run : Batch.Run (.start tree directory file) (dependencies.map Change.ofValid) after) :
    updateDependencies tree directory dependencies = after.conclude := by
  rw [updateDependencies_eq loaded validated, Batch.applyAll_of_run run]

/--
An update succeeds by reading the manifest, validating the batch, applying all of it and sorting the
lines that it leads to.
-/
theorem run_of_updateDependencies
    {tree : FileTree}
    {directory : Text}
    {dependencies : List Dependency}
    {changed : List Text}
    (succeeded : (updateDependencies tree directory dependencies).result = .ok changed) :
    ∃ file after,
      ManifestFile.load tree directory = .ok file ∧
        (∀ dependency ∈ dependencies, dependency.validate = .ok ()) ∧
        Batch.Run (.start tree directory file) (dependencies.map Change.ofValid) after ∧
        after.file.manifest.isSortable = true ∧
        updateDependencies tree directory dependencies = after.finish := by
  cases loaded : ManifestFile.load tree directory with
  | error failure => simp [updateDependencies, loaded] at succeeded
  | ok file =>
      cases found : Change.ofDependencies dependencies with
      | error error => simp [updateDependencies, loaded, found] at succeeded
      | ok changes =>
          obtain ⟨validated, rfl⟩ := Change.ofDependencies_eq_ok_iff.mp found
          rcases Batch.run_or_stopped (.start tree directory file)
              (dependencies.map Change.ofValid) with ⟨after, run⟩ | stopped
          · have whole := updateDependencies_of_run loaded validated run
            rw [whole, Batch.conclude] at succeeded
            split at succeeded
            · next isSortable =>
                rw [Batch.conclude, if_pos isSortable] at whole
                exact ⟨file, after, rfl, validated, run, isSortable, whole⟩
            · cases succeeded
          · obtain ⟨_, _, later, _, _, _, split, _, _, stops⟩ := stopped
            have whole := updateDependencies_eq loaded validated
            rw [split, stops later] at whole
            rw [whole] at succeeded
            cases succeeded

end ModuleUpdate
