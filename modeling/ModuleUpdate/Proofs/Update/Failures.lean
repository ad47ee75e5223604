import Mathlib.Data.List.Basic
import ModuleUpdate.Proofs.Moving
import ModuleUpdate.Proofs.Update.Batch

namespace ModuleUpdate

/-!
# What a failed update leaves behind

The manifest is written at the very end, so a failed update leaves it as it was.  The whole batch
is validated before its first change, and the packages are loaded before the first source is
written.  So behind a written source an update only fails at a major upgrade: at one that follows
another one, or in front of a source whose full path is too long.  Sorting the lines of the
manifest is the last step, and where it breaks off every change has been applied.
-/

/-- The dependency that stops an update: those in front of it are applied, and it fails. -/
structure StopsAt
    (tree : FileTree)
    (directory : Text)
    (earlier : List Dependency)
    (failing : Dependency)
    (failure : Failure) :
    Prop where
  applied : ∃ file between,
    ManifestFile.load tree directory = .ok file ∧
      Batch.Run (.start tree directory file) (earlier.map Change.ofValid) between
  fails : (updateDependencies tree directory (earlier ++ [failing])).result = .error failure

/-- The failures that end a move of imports. -/
def Failure.EndsMove (failure : Failure) : Prop :=
  (∃ error, failure = .imports error) ∨ ∃ path fault, failure = .unreadable path fault

/-- A manifest that cannot be loaded ends no move of imports. -/
private theorem not_endsMove_of_load
    {tree : FileTree}
    {directory : Text}
    {failure : Failure}
    (failed : ManifestFile.load tree directory = .error failure) :
    ¬failure.EndsMove := by
  unfold ManifestFile.load at failed
  dsimp only at failed
  split at failed
  · cases failed
    simp [Failure.EndsMove]
  · cases failed
    simp [Failure.EndsMove]
  · split at failed
    · cases failed
      simp [Failure.EndsMove]
    · cases failed

/--
An update fails in front of its first change, at a major upgrade whose move halts, or at its end,
where the lines of the manifest cannot be sorted.
-/
theorem failed_update_cases
    {tree : FileTree}
    {directory : Text}
    {dependencies : List Dependency}
    {failure : Failure}
    (failed : (updateDependencies tree directory dependencies).result = .error failure) :
    ((updateDependencies tree directory dependencies).tree = tree ∧ ¬failure.EndsMove) ∨
      (∃ earlier failing later between old halted,
        dependencies = earlier ++ failing :: later ∧
          StopsAt tree directory earlier failing failure ∧
          failing.majorUpgradeFrom? = some old ∧
          (∃ file, Batch.Run (.start tree directory file) (earlier.map Change.ofValid) between) ∧
          ImportMove.below between.tree directory directory old failing.name = .error halted ∧
          failure = halted.failure ∧
          (updateDependencies tree directory dependencies).tree = halted.tree) ∨
      ∃ file after,
        Batch.Run (.start tree directory file) (dependencies.map Change.ofValid) after ∧
          failure = .unsortable ∧
          (updateDependencies tree directory dependencies).tree = after.tree := by
  cases loaded : ManifestFile.load tree directory with
  | error cause =>
      simp only [updateDependencies, loaded, Except.error.injEq] at failed ⊢
      exact .inl ⟨trivial, failed ▸ not_endsMove_of_load loaded⟩
  | ok file =>
      cases found : Change.ofDependencies dependencies with
      | error cause =>
          simp only [updateDependencies, loaded, found, Except.error.injEq] at failed ⊢
          exact .inl ⟨trivial, failed ▸ by simp [Failure.EndsMove]⟩
      | ok changes =>
          obtain ⟨validated, rfl⟩ := Change.ofDependencies_eq_ok_iff.mp found
          rcases Batch.run_or_stopped (.start tree directory file)
              (dependencies.map Change.ofValid) with ⟨after, run⟩ | isStopped
          · rw [updateDependencies_of_run loaded validated run] at failed ⊢
            unfold Batch.conclude at failed ⊢
            split at failed
            · cases failed
            · next notSortable =>
                cases failed
                rw [if_neg notSortable]
                exact .inr (.inr ⟨file, after, run, rfl, rfl⟩)
          · obtain ⟨_, _, _, between, stopped, cause, split, run, fails, stops⟩ := isStopped
            have whole := updateDependencies_eq loaded validated
            obtain ⟨earlier, rest, rfl, rfl, isRest⟩ := List.map_eq_append_iff.mp split
            obtain ⟨failing, later, rfl, rfl, rfl⟩ := List.map_eq_cons_iff.mp isRest
            rw [split, stops] at whole
            rw [whole, Except.error.injEq] at failed
            subst failed
            have failingValid : failing.validate = .ok () := validated failing (by simp)
            have validVersion : Version.isValid (Change.ofValid failing).dependency.version :=
              Change.isValid_of_validate failingValid
            obtain ⟨old, halted, moves, isHalted, isFailure, sameTree⟩ :=
              Batch.stopped_of_apply validVersion fails
            rw [run.file_eq.1] at isHalted
            have upToFailing : ∀ dependency ∈ earlier ++ [failing],
                dependency.validate = .ok () := by
              intro dependency member
              rcases List.mem_append.mp member with isEarlier | isFailing
              · exact validated dependency (by simp [isEarlier])
              · rw [List.mem_singleton.mp isFailing]
                exact failingValid
            refine .inr (.inl
              ⟨earlier, failing, later, between, old, halted, rfl,
                ⟨⟨file, between, loaded, run⟩, ?_⟩, moves, ⟨file, run⟩, isHalted, isFailure, ?_⟩)
            · rw [updateDependencies_eq loaded upToFailing, List.map_append, List.map_singleton,
                stops]
            · rw [whole]
              exact sameTree

/--
What a move of imports that halts leaves behind: either every file as it was, or, where the full
path of a source is too long, the sources rewritten that are visited in front of that one.
-/
def LeavesVisited
    (before after : FileTree)
    (directory : Text)
    (moving : Dependency)
    (failure : Failure) :
    Prop :=
  (∃ error, failure = .imports error) ∧ after = before ∨
    ∃ old graph visited names following,
      moving.majorUpgradeFrom? = some old ∧
        PackageGraph.load before directory = .ok graph ∧
        graph.visited.map SourceFile.names = visited ++ names :: following ∧
        before.isResolvable (FilePath.descendant directory names) = false ∧
        failure = .unreadable (FilePath.descendant directory names) .tooLong ∧
        ImportMove.RewritesExactly before after graph.root old moving.name (· ∈ visited)

/-- A move that halts leaves the sources rewritten that it has visited. -/
private theorem leavesVisited_of_halted
    {tree : FileTree}
    {directory old : Text}
    {moving : Dependency}
    {halted : HaltedMove}
    (moves : moving.majorUpgradeFrom? = some old)
    (isHalted : ImportMove.below tree directory directory old moving.name = .error halted) :
    LeavesVisited tree halted.tree directory moving halted.failure := by
  rcases ImportMove.rewritesExactly_of_halted isHalted with
    ⟨error, _, isImports, sameTree⟩ | visited
  · exact .inl ⟨⟨error, isImports⟩, sameTree⟩
  · obtain ⟨graph, earlier, names, later, loaded, split, _, notReached, isUnreadable, rewritten⟩ :=
      visited
    exact .inr
      ⟨old, graph, earlier, names, later, moves, loaded, split, notReached, isUnreadable, rewritten⟩

/--
A failed update leaves the manifest as it was.  It leaves every file as it was unless a move of
imports halted behind another major upgrade, or in front of a source whose full path is too long.
Without a major upgrade before, that move has rewritten the sources visited in front of that one
and no other file.  Sorting that breaks off returns no error, and the changes before it stay.
-/
theorem tree_of_failed_update
    {tree : FileTree}
    {directory : Text}
    {dependencies : List Dependency}
    {failure : Failure}
    (failed : (updateDependencies tree directory dependencies).result = .error failure) :
    (updateDependencies tree directory dependencies).tree.resolve
          (ManifestFile.pathIn directory) =
        tree.resolve (ManifestFile.pathIn directory) ∧
      (¬failure.EndsMove → failure ≠ .unsortable →
        (updateDependencies tree directory dependencies).tree = tree) ∧
      (failure.EndsMove →
        ∃ earlier failing later,
          dependencies = earlier ++ failing :: later ∧
            StopsAt tree directory earlier failing failure ∧
            failing.majorUpgradeFrom?.isSome = true ∧
            ((∀ dependency ∈ earlier, dependency.majorUpgradeFrom? = none) →
              LeavesVisited tree (updateDependencies tree directory dependencies).tree directory
                failing failure)) := by
  rcases failed_update_cases failed with ⟨sameTree, notOfMove⟩ | stopped | unsorted
  · rw [sameTree]
    exact ⟨rfl, fun _ _ => rfl, fun endsMove => absurd endsMove notOfMove⟩
  · obtain ⟨earlier, failing, later, between, old, halted, split, stopsAt, moves, ⟨file, run⟩,
      isHalted, isFailure, sameTree⟩ := stopped
    have leaves := leavesVisited_of_halted moves isHalted
    rw [sameTree, isFailure]
    refine ⟨?_, fun notOfMove _ => absurd ?_ notOfMove, fun _ => ?_⟩
    · have sourcesOnly :=
        run.changesSourcesOnly.trans (ImportMove.changesSourcesOnly_of_halted isHalted)
      exact sourcesOnly.resolve_manifest directory
    · rcases leaves with ⟨isImports, _⟩ | ⟨_, _, _, _, _, _, _, _, _, isUnreadable, _⟩
      · exact .inl isImports
      · exact .inr ⟨_, _, isUnreadable⟩
    · refine ⟨earlier, failing, later, split, isFailure ▸ stopsAt, Option.isSome_of_eq_some moves,
        fun unmoved => ?_⟩
      have unchanged : between.tree = tree :=
        run.tree_eq (by simpa [Change.ofValid] using unmoved)
      rwa [unchanged] at leaves
  · obtain ⟨file, after, run, rfl, sameTree⟩ := unsorted
    rw [sameTree]
    refine ⟨run.changesSourcesOnly.resolve_manifest directory, fun _ => absurd rfl, ?_⟩
    simp [Failure.EndsMove]

/-- A module whose only source names no package. -/
private def malformedTree : FileTree where
  files :=
    [(["go.mod".toList], Text.toBytes "module m\n\nrequire example.com/mod v1.0.0\n".toList),
      (["main.go".toList], Text.toBytes "import \"example.com/mod\"\n".toList)]
  distinct := by decide

/-- An upgrade to the second major version. -/
private def majorUpgrade : Dependency where
  name := "example.com/mod/v2".toList
  version := "v2.0.0".toList
  previous := some "v1.0.0".toList

/-- A first major upgrade that cannot load the packages leaves every file as it was. -/
theorem tree_of_failed_update_malformed :
    (updateDependencies malformedTree FilePath.here [majorUpgrade]).tree.resolve
        (ManifestFile.pathIn FilePath.here) =
      malformedTree.resolve (ManifestFile.pathIn FilePath.here) := by
  have failed :
      (updateDependencies malformedTree FilePath.here [majorUpgrade]).result =
        .error
          (.imports
            (.malformed "./main.go".toList { line := 1, fault := .packageExpected })) := by
    decide +kernel
  exact (tree_of_failed_update failed).1

/-- A current directory whose full path has not much less than the greatest length. -/
private def deepDirectory : Location :=
  List.replicate 20 (List.replicate 200 'd')

/-- A directory whose name makes the full path of what is in it too long. -/
private def lastStraw : Text :=
  List.replicate 100 'e'

/-- A source that imports the module that moves. -/
private def importingMain : Text :=
  "package m\n\nimport \"example.com/mod\"\n".toList

/-- Two such sources, of which the second has a full path that is too long. -/
private def deepTree : FileTree where
  current := deepDirectory
  files :=
    [(deepDirectory ++ ["go.mod".toList],
        Text.toBytes "module m\n\nrequire example.com/mod v1.0.0\n".toList),
      (deepDirectory ++ ["a.go".toList], Text.toBytes importingMain),
      (deepDirectory ++ [lastStraw, "b.go".toList], Text.toBytes importingMain)]
  distinct := by decide +kernel

/-- A first major upgrade that cannot find out the full path of a source leaves another written. -/
theorem halted_update_leaves_source_rewritten :
    (updateDependencies deepTree FilePath.here [majorUpgrade]).result =
        .error (.unreadable ("./".toList ++ lastStraw ++ "/b.go".toList) .tooLong) ∧
      deepTree.file? (deepDirectory ++ ["a.go".toList]) = some (Text.toBytes importingMain) ∧
      (updateDependencies deepTree FilePath.here [majorUpgrade]).tree.file?
          (deepDirectory ++ ["a.go".toList]) =
        some (Text.toBytes "package m\n\nimport \"example.com/mod/v2\"\n".toList) := by
  decide +kernel

end ModuleUpdate
