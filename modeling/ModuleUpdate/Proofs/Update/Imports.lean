import Mathlib.Data.List.MinMax
import ModuleUpdate.Proofs.Manifest.File
import ModuleUpdate.Proofs.Source.Header
import ModuleUpdate.Proofs.Update.Batch

namespace ModuleUpdate

/-!
# Imports after a major change

A major change redirects the imports of the module that it moves.  Which imports these are is
decided by their paths alone: an import moves if its path is the old module path or lies below
it, and does not lie within the new one.  Requirements of other modules are not consulted.
-/

/-- A file of the module in a directory whose name and directories make it a source. -/
def FileTree.HasSource (tree : FileTree) (directory : Text) (location : Location) : Prop :=
  ∃ root names,
    tree.directory? directory = some root ∧
      location = root ++ names ∧
        SourceFile.isEligible tree directory root names = true ∧
          (tree.file? location).isSome = true

/-- What the head of the source at a location says, if a text stands there. -/
def FileTree.readHeader? (tree : FileTree) (location : Location) :
    Option (Except ScanError Source.Header) :=
  ((tree.file? location).bind Text.ofBytes?).map Source.Header.ofText

theorem Dependency.isMajorChange_of_majorUpgradeFrom?
    {dependency : Dependency}
    {old : Text}
    (moves : dependency.majorUpgradeFrom? = some old) :
    ModulePath.isMajorChange old dependency.name = true :=
  (Option.filter_eq_some_iff.mp moves).2

theorem Source.spelledAlike_of_isMajorChange
    {old new : Text}
    (isMajor : ModulePath.isMajorChange old new = true) :
    SpelledAlike old new where
  lineFeeds := ModulePath.count_of_isMajorChange isMajor (by decide)
  rawMarks := ModulePath.count_of_isMajorChange isMajor (by decide)

/-- An import that is read after a move is one from before that has moved. -/
theorem Source.exists_isMoved_of_mem
    {old new : Text}
    {before after : List Source.Import}
    (areMoved : List.Forall₂ (Source.Import.IsMoved old new) before after)
    {spec : Source.Import}
    (member : spec ∈ after) :
    ∃ earlier ∈ before, earlier.IsMoved old new spec := by
  induction areMoved with
  | nil => cases member
  | @cons first second _ _ isMoved _ inductionHypothesis =>
      rcases List.mem_cons.mp member with rfl | later
      · exact ⟨first, by simp, isMoved⟩
      · obtain ⟨earlier, isEarlier, specMoved⟩ := inductionHypothesis later
        exact ⟨earlier, by simp [isEarlier], specMoved⟩

/--
After imports are moved below a directory, a source is read with the same imports at their new
paths, or one of its imports is stuck and it is not read.
-/
theorem ImportMove.readHeader?_below
    {tree : FileTree}
    {directory relativeTo old new : Text}
    {location : Location}
    {moved : ImportMove}
    (isMoved : below tree directory relativeTo old new = .ok moved)
    (alike : Source.SpelledAlike old new)
    (isSource : tree.HasSource directory location) :
    ∃ before,
      tree.readHeader? location = some (.ok before) ∧
        ((∃ after,
          moved.tree.readHeader? location = some (.ok after) ∧
            List.Forall₂ (Source.Import.IsMoved old new) before.imports after.imports) ∨
          ((∃ spec ∈ before.imports, spec.IsStuck old new) ∧
            ∃ error, moved.tree.readHeader? location = some (.error error))) := by
  obtain ⟨root, names, isRoot, rfl, eligible, present⟩ := isSource
  obtain ⟨bytes, held⟩ := Option.isSome_iff_exists.mp present
  obtain ⟨text, before, spelled, scanned, heldAfter⟩ :=
    file?_below_of_eligible isMoved isRoot eligible held
  have spelledAfter :
      Text.ofBytes? ((Source.moveImports? text before old new).elim bytes Text.toBytes) =
        some (Source.applyEdits 0 (before.edits old new) text) := by
    rw [← Source.moveImports?_getD]
    cases Source.moveImports? text before old new with
    | none => exact spelled
    | some moved => exact Text.ofBytes?_toBytes moved
  have readAfter :
      moved.tree.readHeader? (root ++ names) =
        some (Source.Header.ofText (Source.applyEdits 0 (before.edits old new) text)) := by
    rw [FileTree.readHeader?, heldAfter, Option.bind_some, spelledAfter, Option.map_some]
  refine ⟨before, ?_, ?_⟩
  · rw [FileTree.readHeader?, held, Option.bind_some, spelled, Option.map_some, scanned]
  · rw [readAfter]
    rcases Source.Header.ofText_applyEdits alike scanned with
      ⟨after, isRead, _, areMoved⟩ | ⟨stuck, error, refused⟩
    · exact .inl ⟨after, congrArg some isRead, areMoved⟩
    · exact .inr ⟨stuck, error, congrArg some refused⟩

section MajorChange

variable
  {tree : FileTree}
  {directory old : Text}
  {dependency : Dependency}
  {changed : List Text}
  {location : Location}

/-- A single major change moves the imports, and every source holds then what it holds last. -/
private theorem exists_below_of_major_change
    (moves : dependency.majorUpgradeFrom? = some old)
    (succeeded : (updateDependencies tree directory [dependency]).result = .ok changed) :
    ∃ moved,
      ImportMove.below tree directory directory old dependency.name = .ok moved ∧
        ∀ location,
          tree.HasSource directory location →
            (updateDependencies tree directory [dependency]).tree.file? location =
              moved.tree.file? location := by
  obtain ⟨file, last, loaded, _, run, _, whole⟩ := run_of_updateDependencies succeeded
  obtain ⟨_, path, _⟩ := run.file_eq
  cases run with
  | step applied rest =>
      cases rest
      obtain ⟨moved, isMoved, sameTree⟩ := (Batch.applied_of_apply applied).moved old moves
      refine ⟨moved, isMoved, ?_⟩
      rintro _ ⟨root, names, _, rfl, eligible, _⟩
      have lastPath : last.file.path = ManifestFile.pathIn directory :=
        path.trans (ManifestFile.load_eq_ok_iff.mp loaded).1
      have isNamed := SourceFile.isSourceName_of_isEligible eligible
      calc
        (updateDependencies tree directory [dependency]).tree.file? (root ++ names) =
            (last.file.save last.tree).tree.file? (root ++ names) := by
          rw [whole]
          rfl
        _ = moved.tree.file? (root ++ names) := by
          rw [ManifestFile.file?_save lastPath last.tree isNamed, sameTree]

/-- After a major change a source holds its text with the imports moved, where any is. -/
theorem file?_of_major_change
    (moves : dependency.majorUpgradeFrom? = some old)
    (succeeded : (updateDependencies tree directory [dependency]).result = .ok changed)
    (isSource : tree.HasSource directory location) :
    ∃ bytes text header,
      tree.file? location = some bytes ∧
        Text.ofBytes? bytes = some text ∧
          Source.Header.ofText text = .ok header ∧
            (updateDependencies tree directory [dependency]).tree.file? location =
              some
                ((Source.moveImports? text header old dependency.name).elim bytes
                  Text.toBytes) := by
  obtain ⟨moved, isMoved, same⟩ := exists_below_of_major_change moves succeeded
  have sameFile := same location isSource
  obtain ⟨root, names, isRoot, rfl, eligible, present⟩ := isSource
  obtain ⟨bytes, held⟩ := Option.isSome_iff_exists.mp present
  obtain ⟨text, header, spelled, scanned, isHeld⟩ :=
    ImportMove.file?_below_of_eligible isMoved isRoot eligible held
  exact ⟨bytes, text, header, held, spelled, scanned, sameFile.trans isHeld⟩

/--
After a major change a source is read with the same imports at their new paths, or one of its
imports is stuck and it is not read.
-/
theorem readHeader?_of_major_change
    (moves : dependency.majorUpgradeFrom? = some old)
    (succeeded : (updateDependencies tree directory [dependency]).result = .ok changed)
    (isSource : tree.HasSource directory location) :
    ∃ before,
      tree.readHeader? location = some (.ok before) ∧
        ((∃ after,
          (updateDependencies tree directory [dependency]).tree.readHeader? location =
              some (.ok after) ∧
            List.Forall₂ (Source.Import.IsMoved old dependency.name)
              before.imports after.imports) ∨
          ((∃ spec ∈ before.imports, spec.IsStuck old dependency.name) ∧
            ∃ error,
              (updateDependencies tree directory [dependency]).tree.readHeader? location =
                some (.error error))) := by
  obtain ⟨moved, isMoved, same⟩ := exists_below_of_major_change moves succeeded
  have alike :=
    Source.spelledAlike_of_isMajorChange (Dependency.isMajorChange_of_majorUpgradeFrom? moves)
  have sameHeader :
      (updateDependencies tree directory [dependency]).tree.readHeader? location =
        moved.tree.readHeader? location := by
    rw [FileTree.readHeader?, same location isSource, FileTree.readHeader?]
  rw [sameHeader]
  exact ImportMove.readHeader?_below isMoved alike isSource

/--
An import of the old module is one of the new module afterwards.  It stays where it already was
one of a new module that lies below the old one.
-/
def Source.Import.Follows (old new : Text) (before after : Source.Import) : Prop :=
  ∀ rest,
    before.path = old ++ rest →
      (rest = [] ∨ rest.head? = some '/') →
        if ModulePath.isWithin new old = true ∧ ModulePath.isWithin before.path new = true then
          after.path = before.path
        else
          after.path = new ++ rest

private theorem follows_of_isMoved
    {new : Text}
    (notNested : ModulePath.isWithin old new = false)
    {before after : Source.Import}
    (isMoved : before.IsMoved old new after) :
    before.Follows old new after := by
  intro rest split ends
  have withinOld := ModulePath.isWithin_iff.mpr ⟨rest, split, ends⟩
  have path := isMoved.path
  rw [ModulePath.move?_getD] at path
  cases withinNew : ModulePath.isWithin before.path new with
  | true =>
      have newBelow : ModulePath.isWithin new old = true := by
        rcases ModulePath.isWithin_or_isWithin withinNew withinOld with below | above
        · exact below
        · rw [above] at notNested
          cases notNested
      rw [if_pos ⟨newBelow, rfl⟩, path, withinNew, if_neg (by simp)]
  | false =>
      rw [if_neg (by simp), path, if_pos ⟨withinOld, withinNew⟩, split, List.drop_left]

/-- After a move an import lies within the old module only where it lies within the new one. -/
private theorem isWithin_new_of_areMoved
    {new : Text}
    {before after : List Source.Import}
    (areMoved : List.Forall₂ (Source.Import.IsMoved old new) before after) :
    ∀ spec ∈ after,
      ModulePath.isWithin spec.path old = true → ModulePath.isWithin spec.path new = true := by
  intro spec member withinOld
  obtain ⟨earlier, _, isMoved⟩ := Source.exists_isMoved_of_mem areMoved member
  have stays := ModulePath.move?_getD_eq_none earlier.path old new
  rw [← isMoved.path] at stays
  by_contra outside
  have moves := ModulePath.move?_eq_some_iff.mpr
    ⟨withinOld, Bool.eq_false_iff.mpr outside, rfl⟩
  rw [stays] at moves
  cases moves

/--
A major change moves every import of the old module, unless the old module path lies within the
new one.  In that case no source changes.  A source that would have to spell a line feed in a
moved path is not read afterwards.
-/
theorem imports_of_moved_module
    (moves : dependency.majorUpgradeFrom? = some old)
    (succeeded : (updateDependencies tree directory [dependency]).result = .ok changed)
    (isSource : tree.HasSource directory location) :
    ∃ before,
      tree.readHeader? location = some (.ok before) ∧
        (ModulePath.isWithin old dependency.name = true →
          (updateDependencies tree directory [dependency]).tree.file? location =
            tree.file? location) ∧
        (ModulePath.isWithin old dependency.name = false →
          (∃ after,
            (updateDependencies tree directory [dependency]).tree.readHeader? location =
                some (.ok after) ∧
              List.Forall₂ (Source.Import.Follows old dependency.name)
                before.imports after.imports ∧
              ∀ spec ∈ after.imports,
                ModulePath.isWithin spec.path old = true →
                  ModulePath.isWithin spec.path dependency.name = true) ∨
            ((∃ spec ∈ before.imports, spec.IsStuck old dependency.name) ∧
              ∃ error,
                (updateDependencies tree directory [dependency]).tree.readHeader? location =
                  some (.error error))) := by
  obtain ⟨before, isRead, outcome⟩ := readHeader?_of_major_change moves succeeded isSource
  refine ⟨before, isRead, ?_, ?_⟩
  · intro nested
    obtain ⟨bytes, text, header, held, _, _, heldAfter⟩ :=
      file?_of_major_change moves succeeded isSource
    have noEdits : header.edits old dependency.name = [] := by
      rw [Source.Header.edits, List.filterMap_eq_nil_iff]
      intro spec _
      rw [Source.Import.edit?, ModulePath.move?_eq_none_of_isWithin nested]
      rfl
    rw [heldAfter, Source.moveImports?, noEdits, held]
    rfl
  · intro notNested
    rcases outcome with ⟨after, isReadAfter, areMoved⟩ | notRead
    · refine .inl ⟨after, isReadAfter, ?_, ?_⟩
      · exact areMoved.imp fun _ _ isMoved => follows_of_isMoved notNested isMoved
      · exact isWithin_new_of_areMoved areMoved
    · exact .inr notRead

/-- A module with one requirement, and a source that imports a package of it. -/
private def upgradedTree : FileTree where
  files :=
    [(["go.mod".toList], Text.toBytes "module m\nrequire m.io/a v1.9.0\n".toList),
      (["m.go".toList], Text.toBytes "package m\nimport m \"m.io/a/b\"\n".toList)]
  distinct := by decide

/-- The same module at its second major version. -/
private def downgradedTree : FileTree where
  files :=
    [(["go.mod".toList], Text.toBytes "module m\nrequire m.io/a/v2 v2.0.0\n".toList),
      (["m.go".toList], Text.toBytes "package m\nimport m \"m.io/a/v2/b\"\n".toList)]
  distinct := by decide

/-- The way to the second major version. -/
private def upgradeOfModule : Dependency where
  name := "m.io/a/v2".toList
  version := "v2.0.0".toList
  previous := some "v1.9.0".toList

/-- The way back. -/
private def downgradeOfModule : Dependency where
  name := "m.io/a".toList
  version := "v1.9.0".toList
  previous := some "v2.0.0".toList

/-- An import follows the way up and does not follow the way back. -/
theorem imports_of_moved_module_up_and_down :
    (∃ after : Source.Header,
      (updateDependencies upgradedTree FilePath.here [upgradeOfModule]).tree.readHeader?
          ["m.go".toList] =
          some (.ok after) ∧
        after.imports.map Source.Import.path = ["m.io/a/v2/b".toList]) ∧
      (updateDependencies downgradedTree FilePath.here [downgradeOfModule]).tree.file?
          ["m.go".toList] =
        downgradedTree.file? ["m.go".toList] := by
  have upgrade :
      upgradeOfModule.majorUpgradeFrom? = some "m.io/a".toList ∧
        (updateDependencies upgradedTree FilePath.here [upgradeOfModule]).result =
          .ok ["m.go".toList] ∧
        upgradedTree.readHeader? ["m.go".toList] =
          some
            (.ok
              { package := ['m']
                imports :=
                  [{ localName := some ['m'], path := "m.io/a/b".toList, start := 19, stop := 29,
                     quote := .interpreted, line := 2 }] }) := by
    decide +kernel
  have downgrade :
      downgradeOfModule.majorUpgradeFrom? = some "m.io/a/v2".toList ∧
        (updateDependencies downgradedTree FilePath.here [downgradeOfModule]).result =
          .ok [] := by
    decide +kernel
  have isSource :
      ∀ tree ∈ [upgradedTree, downgradedTree], tree.HasSource FilePath.here ["m.go".toList] := by
    intro tree member
    rcases List.mem_pair.mp member with rfl | rfl
    · exact ⟨[], ["m.go".toList], by decide, rfl, by decide +kernel, rfl⟩
    · exact ⟨[], ["m.go".toList], by decide, rfl, by decide +kernel, rfl⟩
  constructor
  · obtain ⟨moves, succeeded, found⟩ := upgrade
    obtain ⟨before, isRead, _, follow⟩ :=
      imports_of_moved_module moves succeeded (isSource upgradedTree (by simp))
    rw [found, Option.some_inj, Except.ok.injEq] at isRead
    subst isRead
    rcases follow (by decide) with ⟨⟨package, imports⟩, isReadAfter, follows, _⟩ | ⟨stuck, _⟩
    · cases follows with
      | cons first others =>
          cases others
          have path := first "/b".toList (by decide) (by decide)
          rw [if_neg (by decide)] at path
          exact ⟨_, isReadAfter, congrArg (fun path => [path]) path⟩
    · obtain ⟨spec, member, stuck⟩ := stuck
      rw [List.mem_singleton.mp member] at stuck
      exact absurd stuck.hasLineFeed (by decide)
  · obtain ⟨moves, succeeded⟩ := downgrade
    obtain ⟨_, _, stays, _⟩ :=
      imports_of_moved_module moves succeeded (isSource downgradedTree (by simp))
    exact stays (by decide)

/-- The module that provides a path: the longest required path that it lies within. -/
def Manifest.owner? (manifest : Manifest) (path : Text) : Option Text :=
  ((manifest.requirements.map Requirement.path).filter fun base =>
    ModulePath.isWithin path base).argmax List.length

/-- Of the required modules that a path lies within, the owner is nested in all others. -/
theorem Manifest.isWithin_owner
    {manifest : Manifest}
    {path base : Text}
    (isRequired : base ∈ manifest.requirements.map Requirement.path)
    (within : ModulePath.isWithin path base = true) :
    ∃ owner, manifest.owner? path = some owner ∧ ModulePath.isWithin owner base = true := by
  have candidate :
      base ∈ (manifest.requirements.map Requirement.path).filter fun other =>
        ModulePath.isWithin path other :=
    List.mem_filter.mpr ⟨isRequired, within⟩
  cases owned : manifest.owner? path with
  | none =>
      rw [owner?, List.argmax_eq_none] at owned
      rw [owned] at candidate
      cases candidate
  | some owner =>
      refine ⟨owner, rfl, ?_⟩
      have withinOwner := (List.mem_filter.mp (List.argmax_mem owned)).2
      have longest : base.length ≤ owner.length := List.le_of_mem_argmax candidate owned
      rcases ModulePath.isWithin_or_isWithin withinOwner within with nested | above
      · exact nested
      · obtain ⟨rest, rfl, _⟩ := ModulePath.isWithin_iff.mp above
        have noRest : rest = [] := by
          rw [List.length_append] at longest
          exact List.length_eq_zero_iff.mp (by omega)
        rw [noRest, List.append_nil]
        exact ModulePath.isWithin_refl owner

/--
An import that another module provides keeps its path.  It goes along if it lies below the old
module path and outside the new one; where the old module is required, the other module is then
nested in it.
-/
def Source.Import.KeepsOwner
    (manifest : Manifest)
    (old new : Text)
    (before after : Import) :
    Prop :=
  manifest.owner? before.path ≠ some old →
    if
      ModulePath.isWithin before.path old = true ∧ ModulePath.isWithin before.path new = false
    then
      after.path = new ++ before.path.drop old.length ∧
        (old ∈ manifest.requirements.map Requirement.path →
          ∃ owner,
            manifest.owner? before.path = some owner ∧
              owner ≠ old ∧ ModulePath.isWithin owner old = true)
    else
      after.path = before.path

private theorem keepsOwner_of_isMoved
    {new : Text}
    (manifest : Manifest)
    {before after : Source.Import}
    (isMoved : before.IsMoved old new after) :
    before.KeepsOwner manifest old new after := by
  intro isOther
  have path := isMoved.path
  rw [ModulePath.move?_getD] at path
  split at path
  · next moves =>
      rw [if_pos moves]
      refine ⟨path, fun isRequired => ?_⟩
      obtain ⟨owner, owned, nested⟩ := Manifest.isWithin_owner isRequired moves.1
      refine ⟨owner, owned, ?_, nested⟩
      rintro rfl
      exact isOther owned
  · next stays =>
      rw [if_neg stays]
      exact path

/--
A major change keeps the imports of other modules, except for those that lie below the old
module path.  Sources with a stuck import are left out.
-/
theorem imports_of_other_modules
    (moves : dependency.majorUpgradeFrom? = some old)
    (succeeded : (updateDependencies tree directory [dependency]).result = .ok changed)
    (isSource : tree.HasSource directory location) :
    ∃ file before,
      ManifestFile.load tree directory = .ok file ∧
        tree.readHeader? location = some (.ok before) ∧
        ((∃ after,
          (updateDependencies tree directory [dependency]).tree.readHeader? location =
              some (.ok after) ∧
            List.Forall₂ (Source.Import.KeepsOwner file.manifest old dependency.name)
              before.imports after.imports) ∨
          ∃ spec ∈ before.imports, spec.IsStuck old dependency.name) := by
  obtain ⟨file, _, loaded, _⟩ := run_of_updateDependencies succeeded
  obtain ⟨before, isRead, outcome⟩ := readHeader?_of_major_change moves succeeded isSource
  refine ⟨file, before, loaded, isRead, ?_⟩
  rcases outcome with ⟨after, isReadAfter, areMoved⟩ | ⟨stuck, _⟩
  · refine .inl ⟨after, isReadAfter, ?_⟩
    exact areMoved.imp fun _ _ isMoved => keepsOwner_of_isMoved file.manifest isMoved
  · exact .inr stuck

/-- A module that requires modules nested in another required module. -/
private def nestedTree : FileTree where
  files :=
    [(["go.mod".toList],
        Text.toBytes
          ("module m\nrequire m.io/a v1.0.0\nrequire m.io/a/b v1.0.0\n" ++
            "require m.io/a/v3 v3.0.0\n").toList),
      (["m.go".toList],
        Text.toBytes
          ("package m\nimport \"m.io/a/b/x\"\nimport \"m.io/a/v3/y\"\n" ++
            "import \"m.io/c\"\n").toList)]
  distinct := by decide

/-- The upgrade of the outer module to its second major version. -/
private def upgradeOfOuter : Dependency where
  name := "m.io/a/v2".toList
  version := "v2.0.0".toList
  previous := some "v1.0.0".toList

/-- What the source of that module imports. -/
private def nestedHeader : Source.Header where
  package := ['m']
  imports :=
    [{ localName := none, path := "m.io/a/b/x".toList, start := 17, stop := 29,
       quote := .interpreted, line := 2 },
     { localName := none, path := "m.io/a/v3/y".toList, start := 37, stop := 50,
       quote := .interpreted, line := 3 },
     { localName := none, path := "m.io/c".toList, start := 58, stop := 66,
       quote := .interpreted, line := 4 }]

/-- The paths that a source imports, where it is read. -/
private def importPaths? (tree : FileTree) (location : Location) : Option (List Text) :=
  (tree.readHeader? location).bind fun read =>
    read.toOption.map fun header => header.imports.map Source.Import.path

/-- The owners of the imports, according to the manifest of the module in a directory. -/
private def owners? (tree : FileTree) (directory : Text) (header : Source.Header) :
    Option (List (Option Text)) :=
  (ManifestFile.load tree directory).toOption.map fun file =>
    header.imports.map fun spec => file.manifest.owner? spec.path

private theorem nested_update :
    upgradeOfOuter.majorUpgradeFrom? = some "m.io/a".toList ∧
      (updateDependencies nestedTree FilePath.here [upgradeOfOuter]).result =
        .ok ["m.go".toList] ∧
      nestedTree.readHeader? ["m.go".toList] = some (.ok nestedHeader) ∧
      owners? nestedTree FilePath.here nestedHeader =
        some [some "m.io/a/b".toList, some "m.io/a/v3".toList, none] ∧
      importPaths? (updateDependencies nestedTree FilePath.here [upgradeOfOuter]).tree
          ["m.go".toList] =
        some ["m.io/a/v2/b/x".toList, "m.io/a/v2/v3/y".toList, "m.io/c".toList] := by
  decide +kernel

private theorem hasSource_nestedTree :
    nestedTree.HasSource FilePath.here ["m.go".toList] :=
  ⟨[], ["m.go".toList], by decide, rfl, by decide +kernel, rfl⟩

/-- Imports of a submodule and of another major version go along with the outer module. -/
theorem nested_modules_go_along :
    upgradeOfOuter.majorUpgradeFrom? = some "m.io/a".toList ∧
      (updateDependencies nestedTree FilePath.here [upgradeOfOuter]).result =
        .ok ["m.go".toList] ∧
      nestedTree.HasSource FilePath.here ["m.go".toList] ∧
      importPaths? nestedTree ["m.go".toList] =
        some ["m.io/a/b/x".toList, "m.io/a/v3/y".toList, "m.io/c".toList] ∧
      owners? nestedTree FilePath.here nestedHeader =
        some [some "m.io/a/b".toList, some "m.io/a/v3".toList, none] ∧
      importPaths? (updateDependencies nestedTree FilePath.here [upgradeOfOuter]).tree
          ["m.go".toList] =
        some ["m.io/a/v2/b/x".toList, "m.io/a/v2/v3/y".toList, "m.io/c".toList] := by
  obtain ⟨moves, succeeded, isRead, owners, imported⟩ := nested_update
  refine ⟨moves, succeeded, hasSource_nestedTree, ?_, owners, imported⟩
  rw [importPaths?, isRead]
  rfl

/-- An import outside the old module stays when the outer module moves. -/
theorem imports_of_other_modules_nested :
    ∃ after : Source.Header,
      (updateDependencies nestedTree FilePath.here [upgradeOfOuter]).tree.readHeader?
          ["m.go".toList] =
          some (.ok after) ∧
        after.imports.getLast?.map Source.Import.path = some "m.io/c".toList := by
  obtain ⟨moves, succeeded, isFirstRead, owners, _⟩ := nested_update
  obtain ⟨file, before, loaded, isRead, outcome⟩ :=
    imports_of_other_modules moves succeeded hasSource_nestedTree
  rw [isFirstRead, Option.some_inj, Except.ok.injEq] at isRead
  subst isRead
  have unowned : file.manifest.owner? "m.io/c".toList = none := by
    rw [owners?, loaded] at owners
    simp only [nestedHeader, Except.toOption, Option.map_some, List.map_cons, Option.some_inj,
      List.cons.injEq] at owners
    exact owners.2.2.1
  rcases outcome with ⟨⟨package, imports⟩, isReadAfter, kept⟩ | ⟨spec, member, stuck⟩
  · refine ⟨_, isReadAfter, ?_⟩
    cases kept with
    | cons _ others =>
        cases others with
        | cons _ others =>
            cases others with
            | cons keeps none =>
                cases none
                have path := keeps (by rw [unowned]; simp)
                rw [if_neg (by decide)] at path
                exact congrArg some path
  · have oneLine : ∀ spec ∈ nestedHeader.imports, '\n' ∉ spec.path := by decide
    exact absurd stuck.hasLineFeed (oneLine spec member)

end MajorChange

end ModuleUpdate
