import ModuleUpdate.Proofs.Manifest.Sortable
import ModuleUpdate.Proofs.Sorting
import ModuleUpdate.Proofs.Update.Redirecting
import ModuleUpdate.Proofs.Update.Requirements

namespace ModuleUpdate

/-!
# A batch in another order

The dependencies of a batch are unrelated when no module that one of them names is nested in a
module that another one names.  Then every import moves with one of them at most, and each sets
requirements of its own.  So the batch does the same in any order: it succeeds, tells of the same
sources, and leaves the same files and the same requirements.  Only the lines of the manifest come
in another order, and where they are tangled that may keep them from being sorted.
-/

namespace Dependency

/-- The modules that a dependency names: its own, and the one that it is upgraded from. -/
def paths (dependency : Dependency) : List Text :=
  dependency.name :: dependency.majorUpgradeFrom?.toList

/-- No module that one dependency names is nested in a module that the other one names. -/
def AreUnrelated (first second : Dependency) : Prop :=
  ∀ path ∈ first.paths, ∀ other ∈ second.paths, ModulePath.AreApart path other

instance (first second : Dependency) : Decidable (AreUnrelated first second) :=
  inferInstanceAs (Decidable (∀ path ∈ first.paths, ∀ other ∈ second.paths, _))

variable {first second dependency : Dependency} {dependencies : List Dependency}

theorem AreUnrelated.symm
    (unrelated : first.AreUnrelated second) :
    second.AreUnrelated first :=
  fun path isPath other isOther => (unrelated other isOther path isPath).symm

/-- How a dependency relocates imports, if it does. -/
def relocation? (dependency : Dependency) : Option Source.Relocation :=
  dependency.majorUpgradeFrom?.map fun old => { old, new := dependency.name }

/-- How dependencies relocate imports, one after the other. -/
def relocations (dependencies : List Dependency) : List Source.Relocation :=
  dependencies.filterMap relocation?

theorem mem_paths_of_relocation?
    {relocation : Source.Relocation}
    (relocates : dependency.relocation? = some relocation) :
    relocation.old ∈ dependency.paths ∧ relocation.new ∈ dependency.paths := by
  obtain ⟨old, moves, rfl⟩ := Option.map_eq_some_iff.mp relocates
  simp [paths, moves]

/-- Unrelated dependencies relocate imports of unrelated modules. -/
theorem pairwise_relocations
    (unrelated : dependencies.Pairwise AreUnrelated) :
    (relocations dependencies).Pairwise Source.Relocation.AreUnrelated := by
  refine unrelated.filterMap relocation? ?_
  intro first second areUnrelated earlier isEarlier later isLater
  obtain ⟨earlierOld, earlierNew⟩ := mem_paths_of_relocation? isEarlier
  obtain ⟨laterOld, laterNew⟩ := mem_paths_of_relocation? isLater
  exact
    ⟨areUnrelated _ earlierOld _ laterOld, areUnrelated _ earlierOld _ laterNew,
      areUnrelated _ earlierNew _ laterOld⟩

/-- Only the modules that a dependency names are required otherwise once it is applied. -/
theorem revise_of_not_mem
    {path : Text}
    (isOther : path ∉ dependency.paths)
    (versions : Text → Option Text) :
    dependency.revise versions path = versions path := by
  simp only [paths, List.mem_cons, not_or] at isOther
  rw [revise, Function.update_of_ne isOther.1]
  cases moves : dependency.majorUpgradeFrom? with
  | none => rfl
  | some old =>
      rw [moves, Option.toList_some, List.mem_singleton] at isOther
      exact Function.update_of_ne isOther.2 none versions

/-- How the modules that a dependency names are required does not depend on what was before. -/
theorem revise_of_mem
    {path : Text}
    (isNamed : path ∈ dependency.paths)
    (versions others : Text → Option Text) :
    dependency.revise versions path = dependency.revise others path := by
  simp only [revise, Function.update_apply]
  split
  · rfl
  · next notName =>
      rw [paths, List.mem_cons, or_iff_right notName] at isNamed
      cases moves : dependency.majorUpgradeFrom? with
      | none =>
          rw [moves] at isNamed
          cases isNamed
      | some old =>
          rw [moves, Option.toList_some, List.mem_singleton] at isNamed
          simp [isNamed]

theorem revise_comm
    (unrelated : first.AreUnrelated second)
    (versions : Text → Option Text) :
    second.revise (first.revise versions) = first.revise (second.revise versions) := by
  funext path
  by_cases isFirst : path ∈ first.paths
  · have notSecond : path ∉ second.paths :=
      fun isSecond => (unrelated path isFirst path isSecond).ne rfl
    rw [revise_of_not_mem notSecond]
    exact revise_of_mem isFirst versions (second.revise versions)
  · rw [revise_of_not_mem isFirst]
    by_cases isSecond : path ∈ second.paths
    · exact revise_of_mem isSecond (first.revise versions) versions
    · rw [revise_of_not_mem isSecond, revise_of_not_mem isSecond, revise_of_not_mem isFirst]

/-- Unrelated dependencies revise requirements to the same in any order. -/
theorem foldl_revise_perm
    {reordered : List Dependency}
    (perm : reordered.Perm dependencies)
    (unrelated : dependencies.Pairwise AreUnrelated)
    (versions : Text → Option Text) :
    reordered.foldl (fun versions dependency => dependency.revise versions) versions =
      dependencies.foldl (fun versions dependency => dependency.revise versions) versions := by
  have : Std.Symm AreUnrelated := ⟨fun _ _ => AreUnrelated.symm⟩
  refine (perm.symm.foldl_eq' (fun first isFirst second isSecond versions => ?_) versions).symm
  by_cases same : first = second
  · rw [same]
  · exact revise_comm (unrelated.forall isFirst isSecond same) versions

end Dependency

namespace Batch

variable {before after : Batch} {dependencies : List Dependency}

/-- An applied dependency redirects the tree, and tells of the sources with imports that move. -/
theorem Applied.redirects
    {dependency : Dependency}
    {old : Text}
    (applied : Applied before (Change.ofValid dependency) after)
    (moves : dependency.majorUpgradeFrom? = some old)
    (plainName : Source.IsPlain dependency.name)
    (plain : ∀ spec, before.tree.Imports before.directory spec → Source.IsPlain spec.path) :
    FileTree.Redirects before.directory (ModulePath.move? · old dependency.name)
        before.tree after.tree ∧
      ∀ path,
        path ∈ after.changed ↔
          path ∈ before.changed ∨
            before.tree.Tells before.directory (ModulePath.move? · old dependency.name) path := by
  obtain ⟨moved, isMoved, sameTree⟩ := applied.moved old moves
  rw [sameTree, applied.told old moved moves isMoved]
  refine ⟨ImportMove.redirects_below isMoved plain plainName, fun path => ?_⟩
  rw [List.mem_append, ImportMove.mem_changed_iff isMoved]
  rfl

/-- A run redirects the tree by its relocations in turn. -/
theorem Run.redirects
    (run : Run before (dependencies.map Change.ofValid) after)
    (plainNames : ∀ dependency ∈ dependencies, Source.IsPlain dependency.name)
    (plain : ∀ spec, before.tree.Imports before.directory spec → Source.IsPlain spec.path) :
    FileTree.Redirects before.directory
        (Source.Relocation.move? (Dependency.relocations dependencies)) before.tree after.tree ∧
      ∀ path,
        path ∈ after.changed ↔
          path ∈ before.changed ∨
            before.tree.Tells before.directory
              (Source.Relocation.move? (Dependency.relocations dependencies)) path := by
  induction dependencies generalizing before with
  | nil =>
      cases run
      refine ⟨.refl _ _, fun path => ?_⟩
      exact (or_iff_left FileTree.not_tells_none).symm
  | cons dependency following inductionHypothesis =>
      cases run with
      | @step _ between _ _ _ step rest =>
          have applied := applied_of_apply step
          have later := inductionHypothesis rest
            fun other member => plainNames other (List.mem_cons_of_mem dependency member)
          rw [applied.directory] at later
          cases moves : dependency.majorUpgradeFrom? with
          | none =>
              have sameRelocations :
                  Dependency.relocations (dependency :: following) =
                    Dependency.relocations following :=
                List.filterMap_cons_none (by rw [Dependency.relocation?, moves]; rfl)
              rw [applied.unmoved moves, applied.silent moves] at later
              rw [sameRelocations]
              exact later plain
          | some old =>
              have plainName := plainNames dependency List.mem_cons_self
              obtain ⟨redirects, told⟩ := applied.redirects moves plainName plain
              obtain ⟨redirectsLater, toldLater⟩ :=
                later (redirects.plainImports plain plainName)
              have oneMore :
                  Dependency.relocations (dependency :: following) =
                    { old, new := dependency.name } :: Dependency.relocations following :=
                List.filterMap_cons_some (by rw [Dependency.relocation?, moves]; rfl)
              rw [oneMore]
              refine ⟨redirects.trans redirectsLater, fun path => ?_⟩
              rw [toldLater, told, or_assoc]
              exact or_congr_right redirects.tells_inTurn_iff.symm

/-- The first move of a run finds the tree in front of the run, and moves its imports. -/
theorem Run.exists_below_before
    (run : Run before (dependencies.map Change.ofValid) after)
    {dependency : Dependency}
    (member : dependency ∈ dependencies)
    (moves : dependency.majorUpgradeFrom?.isSome = true) :
    ∃ old new moved,
      ImportMove.below before.tree before.directory before.directory old new = .ok moved := by
  induction dependencies generalizing before with
  | nil => cases member
  | cons first following inductionHypothesis =>
      cases run with
      | step step rest =>
          have applied := applied_of_apply step
          cases movesFirst : first.majorUpgradeFrom? with
          | some old =>
              obtain ⟨moved, isMoved, _⟩ := applied.moved old movesFirst
              exact ⟨old, _, moved, isMoved⟩
          | none =>
              have isLater : dependency ∈ following := by
                rcases List.mem_cons.mp member with rfl | later
                · rw [movesFirst] at moves
                  cases moves
                · exact later
              rw [← applied.unmoved movesFirst, ← applied.directory]
              exact inductionHypothesis rest isLater

/-- A valid batch is applied where imports can be moved, if names and imports are plain. -/
theorem exists_run
    (valid : ∀ dependency ∈ dependencies, Version.isValid dependency.version = true)
    (plainNames : ∀ dependency ∈ dependencies, Source.IsPlain dependency.name)
    (plain : ∀ spec, before.tree.Imports before.directory spec → Source.IsPlain spec.path)
    (moved : ∀ dependency ∈ dependencies,
      dependency.majorUpgradeFrom?.isSome = true →
        ∃ old new moved,
          ImportMove.below before.tree before.directory before.directory old new = .ok moved) :
    ∃ after, Run before (dependencies.map Change.ofValid) after := by
  induction dependencies generalizing before with
  | nil => exact ⟨before, .done before⟩
  | cons dependency following inductionHypothesis =>
      obtain ⟨between, step⟩ :
          ∃ between, before.apply (Change.ofValid dependency) = (between, none) := by
        refine exists_apply (valid dependency List.mem_cons_self) fun old moves => ?_
        obtain ⟨_, _, _, isMoved⟩ :=
          moved dependency List.mem_cons_self (Option.isSome_of_eq_some moves)
        obtain ⟨graph, loaded, _⟩ := ImportMove.below_eq_ok isMoved
        exact ImportMove.exists_below_of_sameLayout isMoved (.refl before.tree)
          (PackageGraph.isReadable_of_load loaded) _ _ _
      have applied := applied_of_apply step
      suffices state :
          (∀ spec, between.tree.Imports between.directory spec → Source.IsPlain spec.path) ∧
            ∀ other ∈ following,
              other.majorUpgradeFrom?.isSome = true →
                ∃ old new moved,
                  ImportMove.below between.tree between.directory between.directory old new =
                    .ok moved by
        obtain ⟨after, run⟩ := inductionHypothesis
          (fun other member => valid other (List.mem_cons_of_mem dependency member))
          (fun other member => plainNames other (List.mem_cons_of_mem dependency member))
          state.1 state.2
        exact ⟨after, .step step run⟩
      rw [applied.directory]
      cases moves : dependency.majorUpgradeFrom? with
      | none =>
          rw [applied.unmoved moves]
          exact ⟨plain, fun other member => moved other (List.mem_cons_of_mem dependency member)⟩
      | some old =>
          have plainName := plainNames dependency List.mem_cons_self
          obtain ⟨redirects, _⟩ := applied.redirects moves plainName plain
          obtain ⟨_, _, _, isMoved⟩ :=
            moved dependency List.mem_cons_self (Option.isSome_of_eq_some moves)
          obtain ⟨graph, loaded, _⟩ := ImportMove.below_eq_ok isMoved
          have readable := redirects.isReadable (PackageGraph.isReadable_of_load loaded)
          exact
            ⟨redirects.plainImports plain plainName, fun _ _ _ =>
              ⟨old, dependency.name,
                ImportMove.exists_below_of_sameLayout isMoved redirects.layout readable _ _ _⟩⟩

/-- The manifest that is saved behind a run requires what the dependencies lead to. -/
theorem Run.exists_load_finish
    {tree : FileTree}
    {directory : Text}
    {file : ManifestFile}
    (loaded : ManifestFile.load tree directory = .ok file)
    (run : Run (.start tree directory file) (dependencies.map Change.ofValid) after)
    (validated : ∀ dependency ∈ dependencies, dependency.validate = .ok ())
    (oneLine : ∀ dependency ∈ dependencies,
      '\n' ∉ dependency.name ∧ '\n' ∉ dependency.version) :
    ∃ saved,
      ManifestFile.load after.finish.tree directory = .ok saved ∧
        saved.manifest.versionOf? =
          dependencies.foldl (fun versions dependency => dependency.revise versions)
            file.manifest.versionOf? := by
  obtain ⟨_, _, read⟩ := ManifestFile.load_eq_ok_iff.mp loaded
  obtain ⟨sound, _, versions⟩ := run.revises (Manifest.isSound_ofText read) validated oneLine
  obtain ⟨again, reread, saysSame⟩ := Manifest.exists_formatted sound
  have permuted : (again.said .require).Perm (after.file.manifest.said .require) :=
    (saysSame .require).symm ▸ after.file.manifest.said_canonical .require
  exact
    ⟨_, (run.load_finish loaded reread).2,
      (Manifest.versionOf?_of_said sound permuted).trans versions⟩

/-- Unrelated dependencies that are applied in two orders lead to the same sources. -/
theorem Run.sources_of_perm
    {reordered : List Dependency}
    {other : Batch}
    (unrelated : dependencies.Pairwise Dependency.AreUnrelated)
    (plainNames : ∀ dependency ∈ dependencies, Source.IsPlain dependency.name)
    (plain : ∀ spec, before.tree.Imports before.directory spec → Source.IsPlain spec.path)
    (perm : reordered.Perm dependencies)
    (run : Run before (dependencies.map Change.ofValid) after)
    (runOther : Run before (reordered.map Change.ofValid) other) :
    (∀ location : Location, other.tree.file? location = after.tree.file? location) ∧
      ∀ path, path ∈ other.changed ↔ path ∈ after.changed := by
  have plainOthers : ∀ dependency ∈ reordered, Source.IsPlain dependency.name :=
    fun dependency member => plainNames dependency (perm.mem_iff.mp member)
  obtain ⟨redirects, told⟩ := run.redirects plainNames plain
  obtain ⟨redirectsOther, toldOther⟩ := runOther.redirects plainOthers plain
  have sameMoves :
      Source.Relocation.move? (Dependency.relocations dependencies) =
        Source.Relocation.move? (Dependency.relocations reordered) :=
    Source.Relocation.move?_perm (perm.symm.filterMap Dependency.relocation?)
      (Dependency.pairwise_relocations unrelated)
  rw [← sameMoves] at redirectsOther toldOther
  exact ⟨redirects.unique redirectsOther, fun path => (toldOther path).trans (told path).symm⟩

/-- The end of an update writes no file but the manifest, if it writes that. -/
theorem file?_conclude_of_other
    {batch : Batch}
    {directory : Text}
    (path : batch.file.path = ManifestFile.pathIn directory)
    {location : Location}
    (isOther : location.getLast? ≠ some manifestName) :
    batch.conclude.tree.file? location = batch.tree.file? location := by
  unfold conclude
  split
  · exact ManifestFile.file?_save_of_other path batch.tree isOther
  · rfl

end Batch

/--
A batch of unrelated dependencies that succeeds, whose names and versions hold neither line feeds
nor the marks of raw literals, as the imports of the tree, is applied in another order.  Every file
but the manifest is left the same.  Where the lines of the manifest can be sorted, the update tells
of the same sources, and every module is required at the same version.  Otherwise sorting breaks
off, and the manifest is left as it was.  That takes a block of more than twenty requirements that
are tangled, so some module has a version for its path.
-/
theorem update_reordered
    {tree : FileTree}
    {directory : Text}
    {dependencies reordered : List Dependency}
    {changed : List Text}
    (unrelated : dependencies.Pairwise Dependency.AreUnrelated)
    (plain : ∀ dependency ∈ dependencies,
      Source.IsPlain dependency.name ∧ Source.IsPlain dependency.version)
    (plainImports : ∀ spec, tree.Imports directory spec → Source.IsPlain spec.path)
    (perm : reordered.Perm dependencies)
    (succeeded : (updateDependencies tree directory dependencies).result = .ok changed) :
    (∀ location : Location,
        location.getLast? ≠ some manifestName →
          (updateDependencies tree directory reordered).tree.file? location =
            (updateDependencies tree directory dependencies).tree.file? location) ∧
      ∃ file,
        ManifestFile.load tree directory = .ok file ∧
          ((file.manifest.updated reordered).isSortable = true →
            (updateDependencies tree directory reordered).result = .ok changed ∧
              ∃ first second,
                ManifestFile.load (updateDependencies tree directory dependencies).tree directory =
                    .ok first ∧
                  ManifestFile.load (updateDependencies tree directory reordered).tree directory =
                    .ok second ∧
                  second.manifest.versionOf? = first.manifest.versionOf?) ∧
          ((file.manifest.updated reordered).isSortable = false →
            (updateDependencies tree directory reordered).result = .error .unsortable ∧
              (updateDependencies tree directory reordered).tree.resolve
                  (ManifestFile.pathIn directory) =
                tree.resolve (ManifestFile.pathIn directory) ∧
              (∃ statement ∈ (file.manifest.updated reordered).statements, ∃ block,
                statement.content = .block block ∧ block.IsLongTangle) ∧
              ∃ path,
                Version.isValid path = true ∧
                  (file.manifest.Requires path ∨
                    ∃ dependency ∈ dependencies, dependency.name = path)) := by
  obtain ⟨file, last, loaded, validated, run, isSortable, whole⟩ :=
    run_of_updateDependencies succeeded
  have everyMember : ∀ {holds : Dependency → Prop},
      (∀ dependency ∈ dependencies, holds dependency) →
        ∀ dependency ∈ reordered, holds dependency :=
    fun all dependency member => all dependency (perm.mem_iff.mp member)
  have plainNames : ∀ dependency ∈ dependencies, Source.IsPlain dependency.name :=
    fun dependency member => (plain dependency member).1
  have oneLine : ∀ dependency ∈ dependencies,
      '\n' ∉ dependency.name ∧ '\n' ∉ dependency.version :=
    fun dependency member =>
      ⟨(plain dependency member).1.noLineFeed, (plain dependency member).2.noLineFeed⟩
  have accepted : ∀ dependency ∈ dependencies, dependency.IsAccepted :=
    fun dependency member =>
      ⟨Change.isValid_of_validate (validated dependency member), (oneLine dependency member).1,
        (oneLine dependency member).2⟩
  obtain ⟨isPath, _, read⟩ := ManifestFile.load_eq_ok_iff.mp loaded
  obtain ⟨other, runOther⟩ :
      ∃ other,
        Batch.Run (.start tree directory file) (reordered.map Change.ofValid) other :=
    Batch.exists_run (everyMember fun dependency member => (accepted dependency member).valid)
      (everyMember plainNames) plainImports
      (everyMember fun _ member moves => run.exists_below_before member moves)
  obtain ⟨sameFiles, sameTold⟩ :=
    Batch.Run.sources_of_perm unrelated plainNames plainImports perm run runOther
  have lastManifest : last.file.manifest = file.manifest.updated dependencies := run.manifest_eq
  have otherManifest : other.file.manifest = file.manifest.updated reordered :=
    runOther.manifest_eq
  rw [whole] at succeeded ⊢
  rw [updateDependencies_of_run loaded (everyMember validated) runOther]
  refine
    ⟨fun location isOther => ?_, file, loaded, fun sortable => ?_, fun notSortable => ?_⟩
  · calc
      other.conclude.tree.file? location = other.tree.file? location :=
        Batch.file?_conclude_of_other (runOther.file_eq.2.1.trans isPath) isOther
      _ = last.tree.file? location := sameFiles location
      _ = last.finish.tree.file? location :=
        (ManifestFile.file?_save_of_other (run.file_eq.2.1.trans isPath) last.tree isOther).symm
  · rw [Batch.conclude, otherManifest, if_pos sortable]
    obtain ⟨first, loadedFirst, versionsFirst⟩ := run.exists_load_finish loaded validated oneLine
    obtain ⟨second, loadedSecond, versionsSecond⟩ :=
      runOther.exists_load_finish loaded (everyMember validated) (everyMember oneLine)
    refine ⟨?_, first, second, loadedFirst, loadedSecond, ?_⟩
    · rw [← succeeded]
      exact congrArg Except.ok (sortedSet_congr sameTold)
    · rw [versionsFirst, versionsSecond]
      exact Dependency.foldl_revise_perm perm unrelated file.manifest.versionOf?
  · rw [Batch.conclude, otherManifest, if_neg (Bool.eq_false_iff.mp notSortable)]
    exact
      ⟨rfl, runOther.changesSourcesOnly.resolve_manifest directory,
        Manifest.exists_isLongTangle_of_reordered (Manifest.isSound_ofText read) accepted perm
          (lastManifest ▸ isSortable) notSortable⟩

/-- Two requirements, and a source that imports both modules in literals of both styles. -/
private def sharedSource : FileTree where
  files :=
    [(["go.mod".toList],
        Text.toBytes "module m\n\nrequire m.io/a v1.0.0\n\nrequire m.io/b v1.0.0\n".toList),
      (["m.go".toList],
        Text.toBytes "package m\n\nimport (\n\t\"m.io/a/x\"\n\t`m.io/b`\n)\n".toList)]
  distinct := by decide

/-- Both modules move to their second major version, and a third one is added. -/
private def movesAndAddition : List Dependency :=
  [{ name := "m.io/a/v2".toList, version := "v2.0.0".toList, previous := some "v1.0.0".toList },
    { name := "m.io/b/v2".toList, version := "v2.1.0".toList, previous := some "v1.0.0".toList },
    { name := "m.io/c".toList, version := "v0.1.0".toList, indirect := true }]

/-- A module that requires nothing. -/
private def nothingRequired : FileTree where
  files := [(["go.mod".toList], Text.toBytes "module m\n".toList)]
  distinct := by decide

/-- The first release of a module. -/
private def firstRelease (name : String) : Dependency where
  name := name.toList
  version := "v1.0.0".toList

/-- New modules of which all but the last one have a version for their path. -/
private def versionPaths : List Dependency :=
  ["v1.1.0", "v1.2.0", "v1.3.0", "v1.4.0", "v1.5.0", "v1.6.0", "v1.7.0", "v1.8.0", "v1.9.0",
    "v1.10.0", "v1.11.0", "v1.12.0", "v1.13.0", "v1.14.0", "v1.15.0", "v1.16.0", "v1.17.0",
    "v1.18.0", "v1.19.0", "v1.2"].map firstRelease

/--
Applied from the last dependency to the first, the batch moves the same imports.  But modules that
are added in one order keep the manifest from being sorted in another one.
-/
theorem update_reordered_reversed :
    (updateDependencies sharedSource FilePath.here movesAndAddition.reverse).result =
        .ok ["m.go".toList] ∧
      (updateDependencies sharedSource FilePath.here movesAndAddition.reverse).tree.file?
          ["m.go".toList] =
        some
          (Text.toBytes
            "package m\n\nimport (\n\t\"m.io/a/v2/x\"\n\t`m.io/b/v2`\n)\n".toList) ∧
      (updateDependencies nothingRequired FilePath.here
          (versionPaths ++ [firstRelease "v1.3"])).result =
        .ok [] ∧
      (updateDependencies nothingRequired FilePath.here
          (firstRelease "v1.3" :: versionPaths)).result =
        .error .unsortable ∧
      (updateDependencies nothingRequired FilePath.here
          (firstRelease "v1.3" :: versionPaths)).tree.resolve
          (ManifestFile.pathIn FilePath.here) =
        nothingRequired.resolve (ManifestFile.pathIn FilePath.here) := by
  have inOrder :
      (updateDependencies sharedSource FilePath.here movesAndAddition).result =
          .ok ["m.go".toList] ∧
        (updateDependencies sharedSource FilePath.here movesAndAddition).tree.file?
            ["m.go".toList] =
          some
            (Text.toBytes
              "package m\n\nimport (\n\t\"m.io/a/v2/x\"\n\t`m.io/b/v2`\n)\n".toList) := by
    decide +kernel
  have sorts :
      (updateDependencies sharedSource FilePath.here movesAndAddition.reverse).result ≠
        .error .unsortable := by
    decide +kernel
  obtain ⟨files, file, _, succeeds, fails⟩ :=
    update_reordered (by decide +kernel : movesAndAddition.Pairwise Dependency.AreUnrelated)
      (by decide) (FileTree.forall_imports (by decide +kernel)) movesAndAddition.reverse_perm
      inOrder.1
  have added :
      (updateDependencies nothingRequired FilePath.here
          (versionPaths ++ [firstRelease "v1.3"])).result =
        .ok [] := by
    decide +kernel
  have breaksOff :
      (updateDependencies nothingRequired FilePath.here
          (firstRelease "v1.3" :: versionPaths)).result =
        .error .unsortable := by
    decide +kernel
  obtain ⟨_, bareFile, _, bareSucceeds, bareFails⟩ :=
    update_reordered (by decide +kernel) (by decide) (FileTree.forall_imports (by decide +kernel))
      (List.perm_append_singleton (firstRelease "v1.3") versionPaths).symm added
  refine ⟨?_, (files ["m.go".toList] (by decide)).trans inOrder.2, added, breaksOff, ?_⟩
  · cases isSortable : (file.manifest.updated movesAndAddition.reverse).isSortable with
    | false => exact absurd (fails isSortable).1 sorts
    | true => exact (succeeds isSortable).1
  · cases isSortable :
        (bareFile.manifest.updated (firstRelease "v1.3" :: versionPaths)).isSortable with
    | false => exact (bareFails isSortable).2.1
    | true =>
        rw [(bareSucceeds isSortable).1] at breaksOff
        cases breaksOff

end ModuleUpdate
