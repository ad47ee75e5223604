import ModuleUpdate.Proofs.Loading
import ModuleUpdate.Proofs.Moving
import ModuleUpdate.Proofs.Source.Relocation
import ModuleUpdate.Proofs.Update.Imports

namespace ModuleUpdate

/-!
# The imports of a tree

Writing files changes neither which files are sources of a module nor whether its directories can
be listed.  So once a module was loaded, it is loaded again as long as its sources can be read.
Moving its imports takes each of them to its new path, and finds nothing to do exactly if none of
them moves.
-/

section Layout

variable {before after : FileTree}

theorem SourceFile.isOwnDirectory_of_sameLayout
    (same : FileTree.SameLayout before after)
    (path : Text)
    (root names : Location) :
    isOwnDirectory after path root names = isOwnDirectory before path root names := by
  induction names generalizing path root with
  | nil => rfl
  | cons name following inductionHypothesis =>
      simp only [isOwnDirectory, holdsManifest, same.file?_isSome, inductionHypothesis]

/-- Trees of one layout have the same eligible files. -/
theorem SourceFile.isEligible_of_sameLayout
    (same : FileTree.SameLayout before after)
    (path : Text)
    (root names : Location) :
    isEligible after path root names = isEligible before path root names := by
  simp only [isEligible, isOwnDirectory_of_sameLayout same]

/-- Trees of one layout have their sources in the same places. -/
theorem FileTree.SameLayout.hasSource_iff
    (same : SameLayout before after)
    {directory : Text}
    {location : Location} :
    after.HasSource directory location ↔ before.HasSource directory location := by
  simp only [HasSource, same.directory?, SourceFile.isEligible_of_sameLayout same,
    same.file?_isSome]

end Layout

/-- An import whose path holds a line feed only if it stands in a raw literal. -/
def Source.Import.IsOneLine (spec : Source.Import) : Prop :=
  spec.quote = .interpreted → '\n' ∉ spec.path

namespace FileTree

/-- Every source of the module in a directory can be read. -/
def IsReadable (tree : FileTree) (directory : Text) : Prop :=
  ∀ location,
    tree.HasSource directory location →
      ∃ header, tree.readHeader? location = some (.ok header)

/-- An import of the module in a directory: it stands in a source that can be read. -/
def Imports (tree : FileTree) (directory : Text) (spec : Source.Import) : Prop :=
  ∃ location header,
    tree.HasSource directory location ∧
      tree.readHeader? location = some (.ok header) ∧ spec ∈ header.imports

/-- Every source of the module in a directory can be read, and no import is left to move. -/
structure HasLeft (tree : FileTree) (directory old new : Text) : Prop where
  readable : tree.IsReadable directory
  imports : ∀ spec, tree.Imports directory spec → ModulePath.move? spec.path old new = none

/-- A text with a header stands where a header is read. -/
theorem readHeader?_eq_ok_iff
    {tree : FileTree}
    {location : Location}
    {header : Source.Header} :
    tree.readHeader? location = some (.ok header) ↔
      ∃ bytes text,
        tree.file? location = some bytes ∧
          Text.ofBytes? bytes = some text ∧ Source.Header.ofText text = .ok header := by
  simp only [readHeader?, Option.map_eq_some_iff, Option.bind_eq_some_iff]
  constructor
  · rintro ⟨text, ⟨bytes, held, spelled⟩, scanned⟩
    exact ⟨bytes, text, held, spelled, scanned⟩
  · rintro ⟨bytes, text, held, spelled, scanned⟩
    exact ⟨text, ⟨bytes, held, spelled⟩, scanned⟩

/-- What holds of the imports of every file holds of the imports of a module. -/
theorem forall_imports
    {tree : FileTree}
    {directory : Text}
    {holds : Source.Import → Prop}
    (ofFiles : ∀ location ∈ tree.files.map Prod.fst,
      ∀ header ∈ (tree.readHeader? location).bind Except.toOption,
        ∀ spec ∈ header.imports, holds spec) :
    ∀ spec, tree.Imports directory spec → holds spec := by
  rintro spec ⟨location, header, ⟨_, _, _, _, _, present⟩, isRead, member⟩
  exact ofFiles location (FileTree.file?_isSome_iff.mp present) header (by rw [isRead]; rfl) spec
    member

/-- Trees that lay out the same files and hold the same sources. -/
structure SameSources (before after : FileTree) : Prop where
  layout : SameLayout before after
  sources : ∀ location : Location,
    location.getLast?.any SourceFile.isSourceName = true →
      after.file? location = before.file? location

namespace SameSources

variable {before after : FileTree} {directory : Text}

theorem readHeader?
    (same : SameSources before after)
    {location : Location}
    (isSource : before.HasSource directory location) :
    after.readHeader? location = before.readHeader? location := by
  obtain ⟨root, names, _, rfl, eligible, _⟩ := isSource
  have isNamed := SourceFile.isSourceName_of_isEligible eligible
  rw [FileTree.readHeader?, same.sources _ isNamed, FileTree.readHeader?]

theorem isReadable_iff
    (same : SameSources before after) :
    after.IsReadable directory ↔ before.IsReadable directory := by
  simp only [IsReadable, same.layout.hasSource_iff]
  refine forall_congr' fun location => forall_congr' fun isSource => ?_
  rw [same.readHeader? isSource]

/-- Trees with the same sources have the same imports. -/
theorem imports_iff
    (same : SameSources before after)
    {spec : Source.Import} :
    after.Imports directory spec ↔ before.Imports directory spec := by
  simp only [Imports, same.layout.hasSource_iff]
  refine exists_congr fun location => exists_congr fun header => and_congr_right fun isSource => ?_
  rw [same.readHeader? isSource]

theorem hasLeft
    (same : SameSources before after)
    {old new : Text}
    (hasLeft : before.HasLeft directory old new) :
    after.HasLeft directory old new :=
  ⟨same.isReadable_iff.mpr hasLeft.readable,
    fun spec isImport => hasLeft.imports spec (same.imports_iff.mp isImport)⟩

end SameSources

end FileTree

/-- Saving a manifest keeps the sources. -/
theorem ManifestFile.sameSources_save
    {file : ManifestFile}
    {directory : Text}
    (path : file.path = pathIn directory)
    (tree : FileTree) :
    FileTree.SameSources tree (file.save tree).tree := by
  refine ⟨?_, fun location isSource => file?_save path tree isSource⟩
  unfold save
  dsimp only
  split
  · exact .refl tree
  · cases led : tree.resolve file.path with
    | file location bytes =>
        rw [path] at led
        obtain ⟨held, _⟩ := FileTree.file?_of_resolve (by decide) led
        exact FileTree.sameLayout_write (by rw [held]; rfl) _
    | _ => exact .refl tree

namespace PackageGraph

variable {before after : FileTree} {path : Text} {graph : PackageGraph}

/-- Once the packages are loaded, every source can be read. -/
theorem isReadable_of_load
    (loaded : load before path = .ok graph) :
    before.IsReadable path := by
  rintro _ ⟨root, names, isRoot, rfl, eligible, present⟩
  obtain ⟨bytes, held⟩ := Option.isSome_iff_exists.mp present
  have loadable := (exists_load_iff isRoot).mp ⟨graph, loaded⟩
  obtain ⟨_, text, header, spelled, scanned⟩ :=
    loadable.sources names bytes held (SourceFile.isEligible_iff.mp eligible)
  exact ⟨header, FileTree.readHeader?_eq_ok_iff.mpr ⟨bytes, text, held, spelled, scanned⟩⟩

/-- What was loaded once is loaded again as long as every source can be read. -/
theorem exists_load_of_sameLayout
    (loaded : load before path = .ok graph)
    (same : FileTree.SameLayout before after)
    (readable : after.IsReadable path) :
    ∃ again, load after path = .ok again := by
  obtain ⟨isRoot, _⟩ := load_eq_ok loaded
  have loadable := (exists_load_iff isRoot).mp ⟨graph, loaded⟩
  have isRootAfter : after.directory? path = some graph.root := (same.directory? path).trans isRoot
  rw [exists_load_iff isRootAfter]
  constructor
  · intro names isDirectory isOwn
    rw [same.isDirectory] at isDirectory
    rw [← SourceFile.isOwnDirectory_iff, SourceFile.isOwnDirectory_of_sameLayout same,
      SourceFile.isOwnDirectory_iff] at isOwn
    exact loadable.directories names isDirectory isOwn
  · intro names bytes held isSource
    have eligible := SourceFile.isEligible_iff.mpr isSource
    have present : (after.file? (graph.root ++ names)).isSome = true := by
      rw [held]
      rfl
    obtain ⟨header, isRead⟩ := readable _ ⟨graph.root, names, isRootAfter, rfl, eligible, present⟩
    obtain ⟨found, text, isHeld, spelled, scanned⟩ := FileTree.readHeader?_eq_ok_iff.mp isRead
    cases held.symm.trans isHeld
    refine ⟨?_, text, header, spelled, scanned⟩
    rw [SourceFile.isEligible_of_sameLayout same] at eligible
    rw [same.file?_isSome, Option.isSome_iff_exists] at present
    obtain ⟨earlier, wasHeld⟩ := present
    exact (loadable.sources names earlier wasHeld (SourceFile.isEligible_iff.mp eligible)).1

/-- The files of a loaded graph are read as the sources of the tree are. -/
theorem exists_source_of_mem_files
    (loaded : load before path = .ok graph)
    {file : SourceFile}
    (isFile : file ∈ graph.files) :
    before.HasSource path (graph.root ++ file.names) ∧
      before.readHeader? (graph.root ++ file.names) = some (.ok file.header) := by
  obtain ⟨isRoot, _⟩ := load_eq_ok loaded
  obtain ⟨bytes, held, eligible, read⟩ := (mem_files_iff loaded).mp isFile
  obtain ⟨_, spelled, scanned⟩ := SourceFile.ofBytes_eq_ok read
  refine ⟨⟨graph.root, file.names, isRoot, rfl, eligible, by rw [held]; rfl⟩, ?_⟩
  exact FileTree.readHeader?_eq_ok_iff.mpr ⟨bytes, file.text, held, spelled, scanned⟩

/-- A loaded graph has the imports of the tree. -/
theorem imports_iff_of_load
    (loaded : load before path = .ok graph)
    {spec : Source.Import} :
    before.Imports path spec ↔ ∃ file ∈ graph.files, spec ∈ file.header.imports := by
  constructor
  · rintro ⟨_, header, ⟨root, names, isRoot, rfl, eligible, present⟩, isRead, member⟩
    obtain ⟨bytes, held⟩ := Option.isSome_iff_exists.mp present
    obtain ⟨isGraphRoot, _⟩ := load_eq_ok loaded
    obtain rfl : root = graph.root := Option.some_inj.mp (isRoot.symm.trans isGraphRoot)
    obtain ⟨file, isFile, read⟩ := exists_mem_files loaded held eligible
    obtain ⟨rfl, _⟩ := SourceFile.ofBytes_eq_ok read
    obtain ⟨_, isFileRead⟩ := exists_source_of_mem_files loaded isFile
    cases isRead.symm.trans isFileRead
    exact ⟨file, isFile, member⟩
  · rintro ⟨file, isFile, member⟩
    obtain ⟨isSource, isRead⟩ := exists_source_of_mem_files loaded isFile
    exact ⟨_, file.header, isSource, isRead, member⟩

end PackageGraph

namespace ImportMove

variable {tree : FileTree} {directory relativeTo old new : Text} {moved : ImportMove}

/--
Where line feeds stand in raw literals only, every source is read after a move, and every import is
one from before that has moved.
-/
theorem imports_below
    (isMoved : below tree directory relativeTo old new = .ok moved)
    (alike : Source.SpelledAlike old new)
    (oneLine : ∀ spec, tree.Imports directory spec → spec.IsOneLine) :
    moved.tree.IsReadable directory ∧
      ∀ after,
        moved.tree.Imports directory after →
          ∃ before, tree.Imports directory before ∧ before.IsMoved old new after := by
  have layout := sameLayout_below isMoved
  have reads : ∀ location,
      tree.HasSource directory location →
        ∃ before after,
          tree.readHeader? location = some (.ok before) ∧
            moved.tree.readHeader? location = some (.ok after) ∧
              List.Forall₂ (Source.Import.IsMoved old new) before.imports after.imports := by
    intro location isSource
    obtain ⟨before, isRead, ⟨after, isReadAfter, areMoved⟩ | ⟨⟨spec, member, stuck⟩, _⟩⟩ :=
      readHeader?_below isMoved alike isSource
    · exact ⟨before, after, isRead, isReadAfter, areMoved⟩
    · have isImport : tree.Imports directory spec :=
        ⟨location, before, isSource, isRead, member⟩
      exact absurd stuck.hasLineFeed (oneLine spec isImport stuck.isInterpreted)
  constructor
  · intro location isSource
    obtain ⟨_, after, _, isReadAfter, _⟩ := reads location (layout.hasSource_iff.mp isSource)
    exact ⟨after, isReadAfter⟩
  · rintro spec ⟨location, header, isSource, isReadAfter, member⟩
    have wasSource := layout.hasSource_iff.mp isSource
    obtain ⟨before, after, isRead, isFound, areMoved⟩ := reads location wasSource
    cases isReadAfter.symm.trans isFound
    obtain ⟨earlier, wasImport, specMoved⟩ := Source.exists_isMoved_of_mem areMoved member
    exact ⟨earlier, ⟨location, before, wasSource, isRead, wasImport⟩, specMoved⟩

/-- A move that tells of no file leaves the tree as it is, and no import is left to move. -/
theorem hasLeft_of_changed_eq_nil
    (isMoved : below tree directory relativeTo old new = .ok moved)
    (silent : moved.changed = []) :
    moved.tree = tree ∧ tree.HasLeft directory old new := by
  obtain ⟨graph, loaded, _, written, told⟩ := below_eq_ok isMoved
  have notAffected : affected graph.visited old new = [] := by
    have noPaths := ((stableSort_perm _ _).symm.trans (.of_eq (told.symm.trans silent))).eq_nil
    simpa using noPaths
  rw [written]
  refine ⟨by simp only [notAffected, writeAll, List.foldl_nil],
    PackageGraph.isReadable_of_load loaded, fun spec isImport => ?_⟩
  obtain ⟨file, isFile, member⟩ := (PackageGraph.imports_iff_of_load loaded).mp isImport
  refine (Source.moveImports?_eq_none_iff file.text file.header old new).mp ?_ spec member
  rw [Option.eq_none_iff_forall_ne_some]
  intro text rewritten
  have isAffected := (mem_affected_iff loaded).mpr ⟨isFile, rewritten⟩
  rw [notAffected] at isAffected
  cases isAffected

/-- Imports that could be moved in a tree can be moved in another one with its layout. -/
theorem exists_below_of_sameLayout
    {earlier : FileTree}
    (isMoved : below earlier directory relativeTo old new = .ok moved)
    (same : FileTree.SameLayout earlier tree)
    (readable : tree.IsReadable directory)
    (otherTo otherOld otherNew : Text) :
    ∃ again, below tree directory otherTo otherOld otherNew = .ok again := by
  obtain ⟨graph, loaded, _⟩ := below_eq_ok isMoved
  obtain ⟨isRoot, _⟩ := PackageGraph.load_eq_ok loaded
  have isRootAfter : tree.directory? directory = some graph.root :=
    (same.directory? directory).trans isRoot
  obtain ⟨_, resolvable⟩ := (exists_below_iff isRoot relativeTo old new).mp ⟨moved, isMoved⟩
  rw [exists_below_iff isRootAfter]
  refine ⟨?_, fun names present isSource => ?_⟩
  · rw [← PackageGraph.exists_load_iff isRootAfter]
    exact PackageGraph.exists_load_of_sameLayout loaded same readable
  · rw [same.file?_isSome] at present
    rw [← SourceFile.isEligible_iff, SourceFile.isEligible_of_sameLayout same,
      SourceFile.isEligible_iff] at isSource
    rw [same.isResolvable]
    exact resolvable names present isSource

/--
A tree in which no import is left to move is loaded if imports of another one with its layout were
moved, and the move tells of no file and writes none.
-/
theorem below_of_hasLeft
    {earlier : FileTree}
    {otherTo otherOld otherNew : Text}
    (wasMoved : below earlier directory otherTo otherOld otherNew = .ok moved)
    (same : FileTree.SameLayout earlier tree)
    (hasLeft : tree.HasLeft directory old new)
    (relativeTo : Text) :
    ∃ again,
      below tree directory relativeTo old new = .ok again ∧
        again.tree = tree ∧ again.changed = [] := by
  obtain ⟨again, isMoved⟩ :=
    exists_below_of_sameLayout wasMoved same hasLeft.readable relativeTo old new
  obtain ⟨graph, loaded, _, written, told⟩ := below_eq_ok isMoved
  have notAffected : affected graph.visited old new = [] := by
    rw [List.eq_nil_iff_forall_not_mem]
    rintro ⟨file, text⟩ isAffected
    obtain ⟨isFile, rewritten⟩ := (mem_affected_iff loaded).mp isAffected
    have stays : ∀ spec ∈ file.header.imports, ModulePath.move? spec.path old new = none :=
      fun spec member => hasLeft.imports spec
        ((PackageGraph.imports_iff_of_load loaded).mpr ⟨file, isFile, member⟩)
    rw [(Source.moveImports?_eq_none_iff file.text file.header old new).mpr stays] at rewritten
    cases rewritten
  rw [notAffected] at written told
  exact ⟨again, isMoved, written, told⟩

end ImportMove

end ModuleUpdate
