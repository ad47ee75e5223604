import ModuleUpdate.Proofs.Source.Commuting
import ModuleUpdate.Proofs.Update.Sources

namespace ModuleUpdate

/-!
# Trees whose imports are redirected

A tree is redirected when the imports of one module in it move and nothing else changes.  What it
becomes is determined by where its imports move to, and so are the sources that are told of: those
with an import that moves.  Redirecting one tree after the other redirects the first one in turn.
-/

namespace FileTree

/-- A source of the module in a directory that can be read, with its text and its head. -/
structure HoldsSource
    (tree : FileTree)
    (directory : Text)
    (location : Location)
    (text : Text)
    (header : Source.Header) :
    Prop where
  isSource : tree.HasSource directory location
  held : tree.file? location = some (Text.toBytes text)
  scanned : Source.Header.ofText text = .ok header

variable
  {tree before between after : FileTree}
  {directory path : Text}
  {location : Location}
  {first second : Text → Option Text}

/-- A place holds one source at most. -/
theorem HoldsSource.unique
    {text other : Text}
    {header otherHeader : Source.Header}
    (holds : tree.HoldsSource directory location text header)
    (holdsOther : tree.HoldsSource directory location other otherHeader) :
    text = other ∧ header = otherHeader := by
  have sameBytes := Option.some_inj.mp (holds.held.symm.trans holdsOther.held)
  have sameText := congrArg Text.ofBytes? sameBytes
  rw [Text.ofBytes?_toBytes, Text.ofBytes?_toBytes, Option.some_inj] at sameText
  subst sameText
  exact ⟨rfl, Except.ok.inj (holds.scanned.symm.trans holdsOther.scanned)⟩

/-- The sources that can be read are those whose head is. -/
theorem exists_holdsSource_iff
    {header : Source.Header} :
    (∃ text, tree.HoldsSource directory location text header) ↔
      tree.HasSource directory location ∧ tree.readHeader? location = some (.ok header) := by
  rw [readHeader?_eq_ok_iff]
  constructor
  · rintro ⟨text, holds⟩
    exact ⟨holds.isSource, _, text, holds.held, Text.ofBytes?_toBytes text, holds.scanned⟩
  · rintro ⟨isSource, bytes, text, held, spelled, scanned⟩
    exact ⟨text, isSource, by rw [held, Text.toBytes_of_ofBytes? spelled], scanned⟩

theorem isReadable_iff_exists_holdsSource :
    tree.IsReadable directory ↔
      ∀ location,
        tree.HasSource directory location →
          ∃ text header, tree.HoldsSource directory location text header := by
  refine forall_congr' fun location => forall_congr' fun isSource => ?_
  rw [exists_comm]
  simp only [exists_holdsSource_iff, isSource, true_and]

theorem imports_iff_exists_holdsSource
    {spec : Source.Import} :
    tree.Imports directory spec ↔
      ∃ location text header,
        tree.HoldsSource directory location text header ∧ spec ∈ header.imports := by
  refine exists_congr fun location => ?_
  rw [exists_comm]
  simp only [exists_and_right, exists_holdsSource_iff, and_assoc]

/-- The imports of the sources that can be read move, and nothing else changes. -/
structure Redirects
    (directory : Text)
    (move : Text → Option Text)
    (before after : FileTree) :
    Prop where
  layout : SameLayout before after
  sources : ∀ location text header,
    before.HoldsSource directory location text header →
      ∃ result moved,
        after.HoldsSource directory location result moved ∧
          Source.Becomes move text header result moved
  others : ∀ location,
    (∀ text header, ¬before.HoldsSource directory location text header) →
      after.file? location = before.file? location

namespace Redirects

theorem refl (directory : Text) (tree : FileTree) :
    Redirects directory (fun _ => none) tree tree where
  layout := .refl tree
  sources _ text header holds :=
    ⟨text, header, holds, .refl holds.scanned fun _ _ => rfl⟩
  others _ _ := rfl

/-- Every source is one from before whose imports have moved. -/
theorem exists_before
    (redirects : Redirects directory first before after)
    {result : Text}
    {moved : Source.Header}
    (holds : after.HoldsSource directory location result moved) :
    ∃ text header,
      before.HoldsSource directory location text header ∧
        Source.Becomes first text header result moved := by
  by_cases held : ∃ text header, before.HoldsSource directory location text header
  · obtain ⟨text, header, heldBefore⟩ := held
    obtain ⟨other, otherMoved, holdsOther, becomes⟩ :=
      redirects.sources location text header heldBefore
    obtain ⟨rfl, rfl⟩ := holds.unique holdsOther
    exact ⟨text, header, heldBefore, becomes⟩
  · simp only [not_exists] at held
    have isSource := redirects.layout.hasSource_iff.mp holds.isSource
    have same := redirects.others location held
    exact absurd ⟨isSource, same.symm.trans holds.held, holds.scanned⟩ (held result moved)

theorem trans
    (earlier : Redirects directory first before between)
    (later : Redirects directory second between after) :
    Redirects directory (Source.inTurn first second) before after where
  layout := earlier.layout.trans later.layout
  sources location text header holds := by
    obtain ⟨result, moved, holdsBetween, becomes⟩ := earlier.sources location text header holds
    obtain ⟨last, lastMoved, holdsAfter, becomesLast⟩ :=
      later.sources location result moved holdsBetween
    exact ⟨last, lastMoved, holdsAfter, becomes.trans becomesLast⟩
  others location notHeld := by
    have notBetween : ∀ text header, ¬between.HoldsSource directory location text header := by
      intro result moved holds
      obtain ⟨text, header, heldBefore, _⟩ := earlier.exists_before holds
      exact notHeld text header heldBefore
    exact (later.others location notBetween).trans (earlier.others location notHeld)

/-- What a tree becomes is determined by where its imports move to. -/
theorem unique
    {other : FileTree}
    (redirects : Redirects directory first before after)
    (redirectsOther : Redirects directory first before other)
    (location : Location) :
    other.file? location = after.file? location := by
  by_cases held : ∃ text header, before.HoldsSource directory location text header
  · obtain ⟨text, header, holds⟩ := held
    obtain ⟨result, _, holdsAfter, becomes⟩ := redirects.sources location text header holds
    obtain ⟨otherResult, _, holdsOther, becomesOther⟩ :=
      redirectsOther.sources location text header holds
    rw [holdsAfter.held, holdsOther.held, becomes.unique becomesOther]
  · simp only [not_exists] at held
    rw [redirects.others location held, redirectsOther.others location held]

theorem isReadable
    (redirects : Redirects directory first before after)
    (readable : before.IsReadable directory) :
    after.IsReadable directory := by
  rw [isReadable_iff_exists_holdsSource] at readable ⊢
  intro location isSource
  obtain ⟨text, header, holds⟩ := readable location (redirects.layout.hasSource_iff.mp isSource)
  obtain ⟨result, moved, holdsAfter, _⟩ := redirects.sources location text header holds
  exact ⟨result, moved, holdsAfter⟩

/-- Every import is one from before at the path to which it moved, or where it stood. -/
theorem exists_import
    (redirects : Redirects directory first before after)
    {spec : Source.Import}
    (isImport : after.Imports directory spec) :
    ∃ earlier,
      before.Imports directory earlier ∧
        (first earlier.path).getD earlier.path = spec.path := by
  obtain ⟨location, result, moved, holds, member⟩ := imports_iff_exists_holdsSource.mp isImport
  obtain ⟨text, header, heldBefore, becomes⟩ := redirects.exists_before holds
  obtain ⟨earlier, wasImport, path⟩ := becomes.exists_import member
  exact
    ⟨earlier, imports_iff_exists_holdsSource.mpr ⟨location, text, header, heldBefore, wasImport⟩,
      path⟩

/-- Plain imports move to plain paths. -/
theorem plainImports
    {old new : Text}
    (redirects : Redirects directory (ModulePath.move? · old new) before after)
    (plain : ∀ spec, before.Imports directory spec → Source.IsPlain spec.path)
    (plainNew : Source.IsPlain new) :
    ∀ spec, after.Imports directory spec → Source.IsPlain spec.path := by
  intro spec isImport
  obtain ⟨earlier, wasImport, path⟩ := redirects.exists_import isImport
  have plainEarlier := plain earlier wasImport
  rw [← path]
  cases isMoved : ModulePath.move? earlier.path old new with
  | none => exact plainEarlier
  | some moved => exact plainEarlier.of_move? plainNew isMoved

end Redirects

/-- The path of a source with an import that moves, from the directory of its module. -/
def Tells
    (tree : FileTree)
    (directory : Text)
    (move : Text → Option Text)
    (path : Text) :
    Prop :=
  ∃ root names text header,
    tree.directory? directory = some root ∧
      tree.HoldsSource directory (root ++ names) text header ∧
      (∃ spec ∈ header.imports, (move spec.path).isSome = true) ∧
      path = FilePath.relativeTo directory (FilePath.descendant directory names)

theorem not_tells_none : ¬tree.Tells directory (fun _ => none) path := by
  rintro ⟨_, _, _, _, _, _, ⟨_, _, moves⟩, _⟩
  cases moves

/-- A source is told of where its imports move at first, or once they are redirected. -/
theorem Redirects.tells_inTurn_iff
    (redirects : Redirects directory first before after) :
    before.Tells directory (Source.inTurn first second) path ↔
      before.Tells directory first path ∨ after.Tells directory second path := by
  constructor
  · rintro ⟨root, names, text, header, isRoot, holds, ⟨spec, member, moves⟩, told⟩
    cases isFirst : first spec.path with
    | some moved =>
        exact .inl
          ⟨root, names, text, header, isRoot, holds, ⟨spec, member, by rw [isFirst]; rfl⟩, told⟩
    | none =>
        obtain ⟨result, moved, holdsAfter, becomes⟩ := redirects.sources _ text header holds
        have stays : spec.path ∈ moved.imports.map Source.Import.path := by
          rw [becomes.paths]
          exact List.mem_map.mpr ⟨spec, member, by rw [isFirst]; rfl⟩
        obtain ⟨later, isLater, path⟩ := List.mem_map.mp stays
        simp only [Source.inTurn, isFirst] at moves
        exact .inr
          ⟨root, names, result, moved, (redirects.layout.directory? directory).trans isRoot,
            holdsAfter, ⟨later, isLater, by rw [path]; exact moves⟩, told⟩
  · rintro (⟨root, names, text, header, isRoot, holds, ⟨spec, member, moves⟩, told⟩ |
        ⟨root, names, result, moved, isRoot, holds, ⟨spec, member, moves⟩, told⟩)
    · obtain ⟨moved, isFirst⟩ := Option.isSome_iff_exists.mp moves
      exact
        ⟨root, names, text, header, isRoot, holds,
          ⟨spec, member, by simp only [Source.inTurn, isFirst, Option.isSome_some]⟩, told⟩
    · obtain ⟨text, header, heldBefore, becomes⟩ := redirects.exists_before holds
      obtain ⟨earlier, wasImport, path⟩ := becomes.exists_import member
      rw [redirects.layout.directory? directory] at isRoot
      refine ⟨root, names, text, header, isRoot, heldBefore, ⟨earlier, wasImport, ?_⟩, told⟩
      simp only [Source.inTurn]
      cases isFirst : first earlier.path with
      | some moved => rfl
      | none =>
          rw [isFirst, Option.getD_none] at path
          rw [path]
          exact moves

end FileTree

/-- The files of a loaded graph are the sources that can be read. -/
theorem PackageGraph.mem_files_iff_holdsSource
    {tree : FileTree}
    {directory : Text}
    {graph : PackageGraph}
    (loaded : load tree directory = .ok graph)
    {file : SourceFile} :
    file ∈ graph.files ↔
      tree.HoldsSource directory (graph.root ++ file.names) file.text file.header := by
  obtain ⟨isRoot, _⟩ := load_eq_ok loaded
  constructor
  · intro isFile
    obtain ⟨bytes, held, eligible, read⟩ := (mem_files_iff loaded).mp isFile
    obtain ⟨_, spelled, scanned⟩ := SourceFile.ofBytes_eq_ok read
    rw [← Text.toBytes_of_ofBytes? spelled] at held
    exact ⟨⟨graph.root, file.names, isRoot, rfl, eligible, by rw [held]; rfl⟩, held, scanned⟩
  · rintro ⟨⟨root, names, isOther, same, eligible, _⟩, held, scanned⟩
    obtain rfl := Option.some_inj.mp (isRoot.symm.trans isOther)
    obtain rfl := List.append_cancel_left same
    obtain ⟨found, isFound, read⟩ := exists_mem_files loaded held eligible
    obtain ⟨sameNames, spelled, foundScanned⟩ := SourceFile.ofBytes_eq_ok read
    rw [Text.ofBytes?_toBytes, Option.some_inj] at spelled
    rw [← spelled] at foundScanned
    have sameHeader := Except.ok.inj (foundScanned.symm.trans scanned)
    have sameFile : found = file := by
      cases found
      cases file
      congr
      exact spelled.symm
    exact sameFile ▸ isFound

namespace ImportMove

variable {tree : FileTree} {directory old new path : Text} {moved : ImportMove}

/-- Moving plain imports to a plain module redirects the tree. -/
theorem redirects_below
    (isMoved : below tree directory directory old new = .ok moved)
    (plain : ∀ spec, tree.Imports directory spec → Source.IsPlain spec.path)
    (plainNew : Source.IsPlain new) :
    FileTree.Redirects directory (ModulePath.move? · old new) tree moved.tree where
  layout := sameLayout_below isMoved
  sources location text header holds := by
    have isSourceAfter := (sameLayout_below isMoved).hasSource_iff.mpr holds.isSource
    obtain ⟨root, names, isRoot, rfl, eligible, _⟩ := holds.isSource
    obtain ⟨other, otherHeader, spelled, scanned, heldAfter⟩ :=
      file?_below_of_eligible isMoved isRoot eligible holds.held
    rw [Text.ofBytes?_toBytes, Option.some_inj] at spelled
    subst spelled
    obtain rfl := Except.ok.inj (holds.scanned.symm.trans scanned)
    have plainPaths : ∀ spec ∈ header.imports, Source.IsPlain spec.path := fun spec member =>
      plain spec (FileTree.imports_iff_exists_holdsSource.mpr ⟨_, text, header, holds, member⟩)
    obtain ⟨movedHeader, becomes⟩ :
        ∃ movedHeader,
          Source.Becomes (ModulePath.move? · old new) text header
            ((Source.moveImports? text header old new).getD text) movedHeader :=
      Source.becomes_moveImports?_getD holds.scanned plainPaths plainNew
    refine ⟨_, movedHeader, ⟨isSourceAfter, ?_, becomes.scanned⟩, becomes⟩
    rw [heldAfter]
    cases Source.moveImports? text header old new <;> rfl
  others location notHeld := by
    obtain ⟨graph, loaded, _⟩ := below_eq_ok isMoved
    cases held : tree.file? location with
    | none =>
        have sameFiles := (sameLayout_below isMoved).file?_isSome location
        rw [held] at sameFiles
        exact Option.isNone_iff_eq_none.mp (by simpa using sameFiles)
    | some bytes =>
        rw [← held]
        refine file?_below_of_not_eligible isMoved ?_
        rintro root names isRoot eligible rfl
        have readable := FileTree.isReadable_iff_exists_holdsSource.mp
          (PackageGraph.isReadable_of_load loaded)
        obtain ⟨text, header, holds⟩ :=
          readable _ ⟨root, names, isRoot, rfl, eligible, by rw [held]; rfl⟩
        exact notHeld text header holds

/-- A source changes where one of its imports moves. -/
private theorem exists_moveImports?_iff
    {text : Text}
    {header : Source.Header} :
    (∃ result, Source.moveImports? text header old new = some result) ↔
      ∃ spec ∈ header.imports, (ModulePath.move? spec.path old new).isSome = true := by
  rw [← Option.isSome_iff_exists, ← not_iff_not, Option.not_isSome_iff_eq_none,
    Source.moveImports?_eq_none_iff]
  simp

/-- A move of imports tells of the sources with an import that moves. -/
theorem mem_changed_iff
    (isMoved : below tree directory directory old new = .ok moved) :
    path ∈ moved.changed ↔ tree.Tells directory (ModulePath.move? · old new) path := by
  obtain ⟨graph, loaded, _, _, isTold⟩ := below_eq_ok isMoved
  obtain ⟨isGraphRoot, _⟩ := PackageGraph.load_eq_ok loaded
  rw [isTold, (stableSort_perm _ _).mem_iff, List.mem_map]
  constructor
  · rintro ⟨⟨file, text⟩, isAffected, rfl⟩
    obtain ⟨isFile, rewritten⟩ := (mem_affected_iff loaded).mp isAffected
    exact
      ⟨graph.root, file.names, file.text, file.header, isGraphRoot,
        (PackageGraph.mem_files_iff_holdsSource loaded).mp isFile,
        exists_moveImports?_iff.mp ⟨text, rewritten⟩, rfl⟩
  · rintro ⟨root, names, text, header, isRoot, holds, moves, rfl⟩
    obtain rfl := Option.some_inj.mp (isGraphRoot.symm.trans isRoot)
    obtain ⟨result, rewritten⟩ := exists_moveImports?_iff.mpr moves
    have isFile : SourceFile.mk names text header ∈ graph.files :=
      (PackageGraph.mem_files_iff_holdsSource loaded).mpr holds
    exact ⟨(_, result), (mem_affected_iff loaded).mpr ⟨isFile, rewritten⟩, rfl⟩

end ImportMove

end ModuleUpdate
