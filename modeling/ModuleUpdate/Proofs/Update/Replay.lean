import ModuleUpdate.Proofs.Manifest.UpdatedTwice
import ModuleUpdate.Proofs.Update.Requirements
import ModuleUpdate.Proofs.Update.Sources

namespace ModuleUpdate

/-!
# A batch that is applied again

A batch that went through leaves a manifest to which the same batch adds nothing.  Applied again
it leaves every file alone exactly if none of its moves finds an import of its old module, and
that is so where no later move of the batch leads an import back to what an earlier one left.
-/

namespace Dependency

/-- What becomes of an import when a dependency is applied. -/
def Redirects (dependency : Dependency) (before after : Source.Import) : Prop :=
  match dependency.majorUpgradeFrom? with
  | none => after = before
  | some old => before.IsMoved old dependency.name after

/--
Of two moves of a batch, the later one leads into the new module of the earlier one, or to a module
that is not nested with the old one.
-/
def LeadOnward (dependencies : List Dependency) : Prop :=
  dependencies.Pairwise fun earlier later =>
    ∀ old ∈ earlier.majorUpgradeFrom?,
      later.majorUpgradeFrom?.isSome = true →
        ModulePath.isWithin later.name earlier.name = true ∨
          (ModulePath.isWithin later.name old = false ∧
            ModulePath.isWithin old later.name = false)

instance (dependencies : List Dependency) : Decidable (LeadOnward dependencies) :=
  inferInstanceAs (Decidable (dependencies.Pairwise _))

variable {dependency : Dependency} {before after : Source.Import}

theorem Redirects.isOneLine
    (redirects : dependency.Redirects before after)
    (nameOneLine : '\n' ∉ dependency.name)
    (oneLine : before.IsOneLine) :
    after.IsOneLine := by
  simp only [Redirects] at redirects
  split at redirects
  · exact redirects ▸ oneLine
  · next old _ =>
      intro isInterpreted
      have beforeOneLine := oneLine (redirects.quote.symm.trans isInterpreted)
      rw [redirects.path]
      cases isMoved : ModulePath.move? before.path old dependency.name with
      | none => exact beforeOneLine
      | some moved =>
          obtain ⟨rest, split, rfl⟩ := ModulePath.exists_of_move? isMoved
          rw [split, List.mem_append, not_or] at beforeOneLine
          rw [Option.getD_some, List.mem_append, not_or]
          exact ⟨nameOneLine, beforeOneLine.2⟩

/-- The imports that a move leaves are moved no further by it. -/
theorem Redirects.move?_eq_none
    {old : Text}
    (redirects : dependency.Redirects before after)
    (moves : dependency.majorUpgradeFrom? = some old) :
    ModulePath.move? after.path old dependency.name = none := by
  simp only [Redirects, moves] at redirects
  rw [redirects.path]
  exact ModulePath.move?_getD_eq_none before.path old dependency.name

/-- An import that an earlier move leaves alone is not led back by a later one. -/
theorem Redirects.move?_eq_none_of_leadOnward
    {earlier : Dependency}
    {following : List Dependency}
    (redirects : dependency.Redirects before after)
    (onward : LeadOnward (earlier :: following))
    (isLater : dependency ∈ following)
    {old : Text}
    (moves : earlier.majorUpgradeFrom? = some old)
    (stays : ModulePath.move? before.path old earlier.name = none) :
    ModulePath.move? after.path old earlier.name = none := by
  have leads := (List.pairwise_cons.mp onward).1 dependency isLater old moves
  simp only [Redirects] at redirects
  split at redirects
  · exact redirects ▸ stays
  · next laterOld laterMoves =>
      rw [redirects.path]
      refine ModulePath.move?_getD_eq_none_of_onward stays (leads ?_) laterOld
      rw [laterMoves]
      rfl

end Dependency

namespace Batch

variable {before after : Batch} {dependencies : List Dependency}

theorem Applied.imports
    {dependency : Dependency}
    (applied : Applied before (Change.ofValid dependency) after)
    (oneLine : ∀ spec, before.tree.Imports before.directory spec → spec.IsOneLine) :
    (before.tree.IsReadable before.directory ∨ dependency.majorUpgradeFrom?.isSome = true →
        after.tree.IsReadable after.directory) ∧
      ∀ spec,
        after.tree.Imports after.directory spec →
          ∃ earlier,
            before.tree.Imports before.directory earlier ∧ dependency.Redirects earlier spec := by
  rw [applied.directory]
  cases moves : dependency.majorUpgradeFrom? with
  | none =>
      rw [applied.unmoved moves]
      simp only [Dependency.Redirects, moves]
      exact ⟨fun readable => readable.resolve_right (by simp), fun spec isImport =>
        ⟨spec, isImport, rfl⟩⟩
  | some old =>
      obtain ⟨moved, isMoved, same⟩ := applied.moved old moves
      have alike :=
        Source.spelledAlike_of_isMajorChange (Dependency.isMajorChange_of_majorUpgradeFrom? moves)
      obtain ⟨readable, imports⟩ := ImportMove.imports_below isMoved alike oneLine
      rw [same]
      simp only [Dependency.Redirects, moves]
      exact ⟨fun _ => readable, imports⟩

theorem Applied.oneLine
    {dependency : Dependency}
    (applied : Applied before (Change.ofValid dependency) after)
    (nameOneLine : '\n' ∉ dependency.name)
    (oneLine : ∀ spec, before.tree.Imports before.directory spec → spec.IsOneLine) :
    ∀ spec, after.tree.Imports after.directory spec → spec.IsOneLine := by
  intro spec isImport
  obtain ⟨earlier, wasImport, redirects⟩ := (applied.imports oneLine).2 spec isImport
  exact redirects.isOneLine nameOneLine (oneLine earlier wasImport)

namespace Run

/-- What every dependency of a run keeps of an import holds of the imports behind the run. -/
theorem imports
    {holds : Source.Import → Prop}
    (run : Run before (dependencies.map Change.ofValid) after)
    (namesOneLine : ∀ dependency ∈ dependencies, '\n' ∉ dependency.name)
    (oneLine : ∀ spec, before.tree.Imports before.directory spec → spec.IsOneLine)
    (keeps : ∀ dependency ∈ dependencies, ∀ earlier later,
      dependency.Redirects earlier later → holds earlier → holds later)
    (initially : ∀ spec, before.tree.Imports before.directory spec → holds spec) :
    (before.tree.IsReadable before.directory → after.tree.IsReadable after.directory) ∧
      ∀ spec, after.tree.Imports after.directory spec → holds spec := by
  induction dependencies generalizing before with
  | nil =>
      cases run
      exact ⟨id, initially⟩
  | cons dependency following inductionHypothesis =>
      cases run with
      | step step rest =>
          have applied := applied_of_apply step
          obtain ⟨readable, imports⟩ := applied.imports oneLine
          obtain ⟨restReadable, restImports⟩ :=
            inductionHypothesis rest (fun other member => namesOneLine other (by simp [member]))
              (applied.oneLine (namesOneLine dependency (by simp)) oneLine)
              (fun other member => keeps other (by simp [member]))
              (fun spec isImport => by
                obtain ⟨earlier, wasImport, redirects⟩ := imports spec isImport
                exact keeps dependency (by simp) earlier spec redirects
                  (initially earlier wasImport))
          exact ⟨fun wasReadable => restReadable (readable (.inl wasReadable)), restImports⟩

/-- A run of moves that lead onward leaves no import to any of them. -/
theorem hasLeft
    (run : Run before (dependencies.map Change.ofValid) after)
    (namesOneLine : ∀ dependency ∈ dependencies, '\n' ∉ dependency.name)
    (oneLine : ∀ spec, before.tree.Imports before.directory spec → spec.IsOneLine)
    (onward : Dependency.LeadOnward dependencies) :
    ∀ dependency ∈ dependencies, ∀ old,
      dependency.majorUpgradeFrom? = some old →
        after.tree.HasLeft after.directory old dependency.name := by
  induction dependencies generalizing before with
  | nil => simp
  | cons dependency following inductionHypothesis =>
      cases run with
      | step step rest =>
          have applied := applied_of_apply step
          obtain ⟨readable, imports⟩ := applied.imports oneLine
          have laterOneLine : ∀ other ∈ following, '\n' ∉ other.name :=
            fun other member => namesOneLine other (by simp [member])
          have betweenOneLine := applied.oneLine (namesOneLine dependency (by simp)) oneLine
          intro moving member old moves
          rcases List.mem_cons.mp member with rfl | later
          · obtain ⟨restReadable, stay⟩ :=
              rest.imports laterOneLine betweenOneLine
                (fun other isLater earlier spec redirects =>
                  redirects.move?_eq_none_of_leadOnward onward isLater moves)
                (fun spec isImport => by
                  obtain ⟨earlier, _, redirects⟩ := imports spec isImport
                  exact redirects.move?_eq_none moves)
            exact ⟨restReadable (readable (.inr (by rw [moves]; rfl))), stay⟩
          · exact inductionHypothesis rest laterOneLine betweenOneLine
              (List.pairwise_cons.mp onward).2 moving later old moves

/-- Every move of a run moves the imports of a tree with the layout of the last one. -/
theorem exists_below
    (run : Run before (dependencies.map Change.ofValid) after)
    {dependency : Dependency}
    (member : dependency ∈ dependencies)
    (moves : dependency.majorUpgradeFrom?.isSome = true) :
    ∃ tree old new moved,
      ImportMove.below tree before.directory before.directory old new = .ok moved ∧
        FileTree.SameLayout tree after.tree := by
  induction dependencies generalizing before with
  | nil => cases member
  | cons first following inductionHypothesis =>
      cases run with
      | step step rest =>
          have applied := applied_of_apply step
          rcases List.mem_cons.mp member with rfl | later
          · obtain ⟨old, isOld⟩ := Option.isSome_iff_exists.mp moves
            obtain ⟨moved, isMoved, _⟩ := applied.moved old isOld
            exact ⟨before.tree, old, _, moved, isMoved,
              applied.changesSourcesOnly.layout.trans rest.changesSourcesOnly.layout⟩
          · rw [← applied.directory]
            exact inductionHypothesis rest later

/-- A run that tells of no source leaves the tree as it is, and no import is left to move. -/
theorem hasLeft_of_changed_eq_nil
    (run : Run before (dependencies.map Change.ofValid) after)
    (silent : after.changed = []) :
    before.changed = [] ∧
      after.tree = before.tree ∧
        ∀ dependency ∈ dependencies, ∀ old,
          dependency.majorUpgradeFrom? = some old →
            before.tree.HasLeft before.directory old dependency.name := by
  induction dependencies generalizing before with
  | nil =>
      cases run
      exact ⟨silent, rfl, by simp⟩
  | cons dependency following inductionHypothesis =>
      cases run with
      | step step rest =>
          have applied := applied_of_apply step
          obtain ⟨betweenSilent, sameTree, others⟩ := inductionHypothesis rest
          rw [applied.directory] at others
          cases moves : dependency.majorUpgradeFrom? with
          | none =>
              rw [applied.unmoved moves] at sameTree others
              refine ⟨(applied.silent moves).symm.trans betweenSilent, sameTree, ?_⟩
              intro moving member old moving
              rcases List.mem_cons.mp member with rfl | later
              · rw [moves] at moving
                cases moving
              · exact others _ later old moving
          | some old =>
              obtain ⟨moved, isMoved, isTree⟩ := applied.moved old moves
              rw [applied.told old moved moves isMoved, List.append_eq_nil_iff] at betweenSilent
              obtain ⟨beforeSilent, movedSilent⟩ := betweenSilent
              obtain ⟨unmoved, hasLeft⟩ :=
                ImportMove.hasLeft_of_changed_eq_nil isMoved movedSilent
              rw [isTree, unmoved] at sameTree others
              refine ⟨beforeSilent, sameTree, ?_⟩
              intro moving member other isOther
              rcases List.mem_cons.mp member with rfl | later
              · obtain rfl := Option.some_inj.mp (moves.symm.trans isOther)
                exact hasLeft
              · exact others moving later other isOther

end Run

/-- Where no import is left to move, a valid batch is applied and tells of no source. -/
theorem exists_run_of_hasLeft
    (valid : ∀ dependency ∈ dependencies, Version.isValid dependency.version = true)
    (moved : ∀ dependency ∈ dependencies,
      dependency.majorUpgradeFrom?.isSome = true →
        ∃ tree old new moved,
          ImportMove.below tree before.directory before.directory old new = .ok moved ∧
            FileTree.SameLayout tree before.tree)
    (hasLeft : ∀ dependency ∈ dependencies, ∀ old,
      dependency.majorUpgradeFrom? = some old →
        before.tree.HasLeft before.directory old dependency.name) :
    ∃ after,
      Run before (dependencies.map Change.ofValid) after ∧
        after.tree = before.tree ∧ after.changed = before.changed := by
  induction dependencies generalizing before with
  | nil => exact ⟨before, .done before, rfl, rfl⟩
  | cons dependency following inductionHypothesis =>
      have idle : ∀ old,
          dependency.majorUpgradeFrom? = some old →
            ∃ again,
              ImportMove.below before.tree before.directory before.directory old
                  dependency.name =
                .ok again ∧
                again.tree = before.tree ∧ again.changed = [] := by
        intro old moves
        obtain ⟨tree, _, _, _, wasMoved, same⟩ :=
          moved dependency (by simp) (by rw [moves]; rfl)
        exact ImportMove.below_of_hasLeft wasMoved same
          (hasLeft dependency (by simp) old moves) _
      obtain ⟨between, step⟩ :
          ∃ between, before.apply (Change.ofValid dependency) = (between, none) :=
        exists_apply (valid dependency (by simp)) fun old moves =>
          (idle old moves).imp fun _ isIdle => isIdle.1
      have applied := applied_of_apply step
      have same : between.tree = before.tree ∧ between.changed = before.changed := by
        cases moves : dependency.majorUpgradeFrom? with
        | none => exact ⟨applied.unmoved moves, applied.silent moves⟩
        | some old =>
            obtain ⟨again, isMoved, unchanged, silent⟩ := idle old moves
            obtain ⟨other, isOther, sameTree⟩ := applied.moved old moves
            obtain rfl := Except.ok.inj (isMoved.symm.trans isOther)
            have told := applied.told old again moves isMoved
            rw [silent, List.append_nil] at told
            exact ⟨sameTree.trans unchanged, told⟩
      obtain ⟨after, run, tree, changed⟩ := inductionHypothesis
        (fun other member => valid other (by simp [member]))
        (by
          rw [applied.directory, same.1]
          exact fun other member => moved other (by simp [member]))
        (by
          rw [applied.directory, same.1]
          exact fun other member => hasLeft other (by simp [member]))
      exact ⟨after, .step step run, tree.trans same.1, changed.trans same.2⟩

end Batch

/-- A task that succeeds, tells of no source and leaves every file of a tree as it was. -/
structure Outcome.LeavesAll (outcome : Outcome (List Text)) (tree : FileTree) : Prop where
  result : outcome.result = .ok []
  tree : outcome.tree = tree

/-- The end of a run that tells of no source, with the manifest that is stored already. -/
private theorem Batch.leavesAll_finish
    {batch : Batch}
    (silent : batch.changed = [])
    (isStored : batch.file.manifest.format = batch.file.stored) :
    batch.finish.LeavesAll batch.tree := by
  refine ⟨?_, ?_⟩
  · simp only [finish, silent]
    rfl
  · have unchanged : batch.file.manifest.canonical.toText = batch.file.stored := isStored
    simp only [finish, ManifestFile.save, unchanged, if_true]

private theorem Batch.changed_eq_nil_of_finish
    {batch : Batch}
    (result : batch.finish.result = .ok []) :
    batch.changed = [] := by
  have sorted : sortedSet batch.changed = [] := Except.ok.inj result
  rw [List.eq_nil_iff_forall_not_mem]
  intro path told
  have isTold := mem_sortedSet.mpr told
  rw [sorted] at isTold
  cases isTold

section

variable
  {tree : FileTree}
  {directory : Text}
  {dependencies : List Dependency}
  {changed : List Text}
  {file : ManifestFile}
  {updated : FileTree}

/-- Behind a successful update, the same batch changes nothing where no import is left to move. -/
private theorem leavesAll_of_hasLeft
    {last : Batch}
    (oneLine : ∀ dependency ∈ dependencies,
      '\n' ∉ dependency.name ∧ '\n' ∉ dependency.version)
    (inOrder : Dependency.AreInOrder dependencies)
    (loaded : ManifestFile.load tree directory = .ok file)
    (once : file.manifest.MarksOnce dependencies)
    (lends : (file.manifest.updated dependencies).LendsUnmarked dependencies)
    (validated : ∀ dependency ∈ dependencies, dependency.validate = .ok ())
    (run : Batch.Run (.start tree directory file) (dependencies.map Change.ofValid) last)
    (hasLeft : ∀ dependency ∈ dependencies, ∀ old,
      dependency.majorUpgradeFrom? = some old →
        last.finish.tree.HasLeft directory old dependency.name) :
    (updateDependencies last.finish.tree directory dependencies).LeavesAll last.finish.tree := by
  obtain ⟨_, _, read⟩ := ManifestFile.load_eq_ok_iff.mp loaded
  have sound := Manifest.isSound_ofText read
  have valid : ∀ dependency ∈ dependencies, Version.isValid dependency.version = true :=
    fun dependency member => Change.isValid_of_validate (validated dependency member)
  have accepted : ∀ dependency ∈ dependencies, dependency.IsAccepted :=
    fun dependency member =>
      ⟨valid dependency member, (oneLine dependency member).1, (oneLine dependency member).2⟩
  have isUpdated : last.file.manifest = file.manifest.updated dependencies := run.manifest_eq
  obtain ⟨again, reread, _⟩ := Manifest.exists_reread (Manifest.isSound_updated sound accepted)
  rw [← isUpdated] at reread
  obtain ⟨lastPath, reloaded⟩ := run.load_finish loaded reread
  have layout := (ManifestFile.sameSources_save lastPath last.tree).layout
  have wasMoved : ∀ dependency ∈ dependencies,
      dependency.majorUpgradeFrom?.isSome = true →
        ∃ earlier old new moved,
          ImportMove.below earlier directory directory old new = .ok moved ∧
            FileTree.SameLayout earlier last.finish.tree := by
    intro dependency member moves
    obtain ⟨earlier, old, new, moved, isMoved, same⟩ := run.exists_below member moves
    exact ⟨earlier, old, new, moved, isMoved, same.trans layout⟩
  obtain ⟨after, runAgain, sameTree, sameChanged⟩ :
      ∃ after,
        Batch.Run
            (.start last.finish.tree directory
              { path := ManifestFile.pathIn directory
                manifest := again
                stored := last.file.manifest.format })
            (dependencies.map Change.ofValid) after ∧
          after.tree = last.finish.tree ∧ after.changed = [] :=
    Batch.exists_run_of_hasLeft valid wasMoved hasLeft
  rw [isUpdated] at reread
  obtain ⟨isSortable, sameFormat⟩ :=
    Manifest.format_updated_again sound accepted inOrder once lends reread
  have isStored : after.file.manifest.format = after.file.stored := by
    rw [runAgain.manifest_eq, runAgain.file_eq.2.2]
    exact sameFormat.trans (congrArg Manifest.format isUpdated.symm)
  have sortsAgain : after.file.manifest.isSortable = true := by
    rw [runAgain.manifest_eq]
    exact isSortable
  rw [updateDependencies_of_run reloaded validated runAgain, Batch.conclude, if_pos sortsAgain]
  have leaves := Batch.leavesAll_finish sameChanged isStored
  rwa [sameTree] at leaves

/--
A batch that went through is applied again.  It succeeds, tells of no source and leaves every file
as it was, exactly if, for each move of the batch, every source can be read and no import is left
to move.  That is so where the moves lead onward and line feeds stand in raw literals only.
-/
theorem update_again
    (oneLine : ∀ dependency ∈ dependencies,
      '\n' ∉ dependency.name ∧ '\n' ∉ dependency.version)
    (inOrder : Dependency.AreInOrder dependencies)
    (loaded : ManifestFile.load tree directory = .ok file)
    (once : file.manifest.MarksOnce dependencies)
    (lends : (file.manifest.updated dependencies).LendsUnmarked dependencies)
    (succeeded : (updateDependencies tree directory dependencies).result = .ok changed)
    (isUpdated : (updateDependencies tree directory dependencies).tree = updated) :
    ((updateDependencies updated directory dependencies).LeavesAll updated ↔
      ∀ dependency ∈ dependencies, ∀ old,
        dependency.majorUpgradeFrom? = some old →
          updated.HasLeft directory old dependency.name) ∧
      (Dependency.LeadOnward dependencies →
        (∀ spec, tree.Imports directory spec → spec.IsOneLine) →
          (updateDependencies updated directory dependencies).LeavesAll updated) := by
  obtain ⟨found, last, isFound, validated, run, _, whole⟩ := run_of_updateDependencies succeeded
  obtain rfl : found = file := Except.ok.inj (isFound.symm.trans loaded)
  obtain rfl : last.finish.tree = updated := (congrArg Outcome.tree whole).symm.trans isUpdated
  have leaves : (∀ dependency ∈ dependencies, ∀ old,
      dependency.majorUpgradeFrom? = some old →
        last.finish.tree.HasLeft directory old dependency.name) →
      (updateDependencies last.finish.tree directory dependencies).LeavesAll
        last.finish.tree :=
    leavesAll_of_hasLeft oneLine inOrder loaded once lends validated run
  refine ⟨⟨fun leavesAll => ?_, leaves⟩, fun onward importsOneLine => leaves ?_⟩
  · obtain ⟨_, after, _, _, runAgain, _, wholeAgain⟩ := run_of_updateDependencies leavesAll.result
    have result := leavesAll.result
    rw [wholeAgain] at result
    exact (runAgain.hasLeft_of_changed_eq_nil (Batch.changed_eq_nil_of_finish result)).2.2
  · have hasLeft := run.hasLeft (fun dependency member => (oneLine dependency member).1)
      importsOneLine onward
    rw [run.file_eq.1] at hasLeft
    have lastPath := run.file_eq.2.1.trans (ManifestFile.load_eq_ok_iff.mp loaded).1
    exact fun dependency member old moves =>
      (ManifestFile.sameSources_save lastPath last.tree).hasLeft
        (hasLeft dependency member old moves)

/-- A module with two requirements and a source that imports a package of one of them. -/
private def importingModule : FileTree where
  files :=
    [(["go.mod".toList],
        Text.toBytes
          "module m\n\nrequire (\n\tm.io/a v1.0.0\n\tm.io/b v0.9.0 // indirect\n)\n".toList),
      (["m.go".toList], Text.toBytes "package m\n\nimport \"m.io/a/x\"\n".toList)]
  distinct := by decide

/-- A move to the second major version and a new requirement. -/
private def moveAndAddition : List Dependency :=
  [{ name := "m.io/a/v2".toList, version := "v2.0.0".toList, previous := some "v1.0.0".toList },
    { name := "m.io/c".toList, version := "v0.1.0".toList, indirect := true }]

/-- The module with the move and the addition applied. -/
private def movedModule : FileTree :=
  (updateDependencies importingModule FilePath.here moveAndAddition).tree

theorem update_again_importing :
    (updateDependencies importingModule FilePath.here moveAndAddition).result =
        .ok ["m.go".toList] ∧
      (updateDependencies movedModule FilePath.here moveAndAddition).LeavesAll movedModule := by
  have succeeded :
      (updateDependencies importingModule FilePath.here moveAndAddition).result =
        .ok ["m.go".toList] := by
    decide +kernel
  have oneLine : ∀ dependency ∈ moveAndAddition,
      '\n' ∉ dependency.name ∧ '\n' ∉ dependency.version := by
    decide
  have inOrder : Dependency.AreInOrder moveAndAddition := by decide +kernel
  have onward : Dependency.LeadOnward moveAndAddition := by decide +kernel
  have importsOneLine : ∀ spec,
      importingModule.Imports FilePath.here spec → spec.IsOneLine := by
    have noLineFeed : ∀ spec, importingModule.Imports FilePath.here spec → '\n' ∉ spec.path :=
      FileTree.forall_imports (by decide +kernel)
    exact fun spec isImport _ => noLineFeed spec isImport
  have comments :
      (ManifestFile.load importingModule FilePath.here).toOption.map (fun file =>
        decide (file.manifest.MarksOnce moveAndAddition) &&
          (file.manifest.updated moveAndAddition).statements.all fun statement =>
            statement.content.opening?.isNone) =
        some true := by
    decide +kernel
  cases loaded : ManifestFile.load importingModule FilePath.here with
  | error failure =>
      rw [loaded] at comments
      cases comments
  | ok file =>
      rw [loaded] at comments
      simp only [Except.toOption, Option.map_some, Option.some_inj, Bool.and_eq_true,
        decide_eq_true_eq, List.all_eq_true, Option.isNone_iff_eq_none] at comments
      obtain ⟨once, noComments⟩ := comments
      have lends := Manifest.lendsUnmarked_of_opening? noComments moveAndAddition
      exact ⟨succeeded,
        (update_again oneLine inOrder loaded once lends succeeded rfl).2 onward importsOneLine⟩

/-- A module that requires two major versions of another one. -/
private def chainedModule : FileTree where
  files :=
    [(["go.mod".toList],
        Text.toBytes
          "module m\n\nrequire (\n\tm.io/a v1.0.0\n\tm.io/a/v2 v2.0.0\n)\n".toList),
      (["m.go".toList], Text.toBytes "package m\n\nimport \"m.io/a/b\"\n".toList)]
  distinct := by decide

/-- Moves from major version to major version. -/
private def chain : List Dependency :=
  [{ name := "m.io/a/v2".toList, version := "v2.1.0".toList, previous := some "v1.0.0".toList },
    { name := "m.io/a/v3".toList, version := "v3.0.0".toList, previous := some "v2.0.0".toList }]

/-- The module with both moves applied. -/
private def movedChain : FileTree :=
  (updateDependencies chainedModule FilePath.here chain).tree

/-- A module with a block for each of two major versions. -/
private def splitModule : FileTree where
  files :=
    [(["go.mod".toList],
        Text.toBytes
          ("module m\n\nrequire m.io/a/v2 v2.0.0\n\n" ++
            "require (\n\tm.io/a v1.0.0\n)\n").toList)]
  distinct := by decide

/-- A move away from a module that is asked for again. -/
private def moveAndReturn : List Dependency :=
  [{ name := "m.io/a/v2".toList, version := "v2.0.0".toList, previous := some "v1.0.0".toList },
    { name := "m.io/a".toList, version := "v1.5.0".toList }]

/-- The module with the old major version dropped and required again. -/
private def returnedModule : FileTree :=
  (updateDependencies splitModule FilePath.here moveAndReturn).tree

/--
Moves in a chain move an import further with every update, and a module that is dropped and asked
for again ends up in the last statement that is left at the time.
-/
theorem chains_and_returns_change_again :
    ((updateDependencies chainedModule FilePath.here chain).result = .ok ["m.go".toList] ∧
      movedChain.file? ["m.go".toList] =
        some (Text.toBytes "package m\n\nimport \"m.io/a/v3/b\"\n".toList) ∧
      (updateDependencies movedChain FilePath.here chain).result = .ok ["m.go".toList] ∧
      (updateDependencies movedChain FilePath.here chain).tree.file? ["m.go".toList] =
        some (Text.toBytes "package m\n\nimport \"m.io/a/v3/v3/b\"\n".toList)) ∧
      (updateDependencies splitModule FilePath.here moveAndReturn).result = .ok [] ∧
      returnedModule.file? ["go.mod".toList] =
        some
          (Text.toBytes
            ("module m\n\nrequire m.io/a/v2 v2.0.0\n\n" ++
              "require m.io/a v1.5.0\n").toList) ∧
      (updateDependencies returnedModule FilePath.here moveAndReturn).tree.file?
          ["go.mod".toList] =
        some
          (Text.toBytes
            "module m\n\nrequire (\n\tm.io/a v1.5.0\n\tm.io/a/v2 v2.0.0\n)\n".toList) := by
  decide +kernel

end

end ModuleUpdate
