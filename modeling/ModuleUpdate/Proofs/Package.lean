import Mathlib.Data.List.Nodup
import Mathlib.Data.List.Perm.Basic
import ModuleUpdate.Package
import ModuleUpdate.Proofs.FileTree
import ModuleUpdate.Proofs.Sorting

namespace ModuleUpdate

/-!
# The files of a package graph

Loading a directory reads every eligible file below it and no other.  The files are sorted into
packages without a loss, so going through the packages meets every one of them once.
-/

/-- Elements that are told apart by a key, each where it is met first. -/
private theorem eraseDupsBy_spec
    [BEq κ]
    [LawfulBEq κ]
    (key : α → κ)
    (elements : List α) :
    ((elements.eraseDupsBy fun left right => key left == key right).map key).Nodup ∧
      (∀ element ∈ elements.eraseDupsBy fun left right => key left == key right,
        element ∈ elements) ∧
      ∀ element ∈ elements,
        key element ∈ (elements.eraseDupsBy fun left right => key left == key right).map key := by
  induction length : elements.length using Nat.strongRecOn generalizing elements with
  | ind bound inductionHypothesis =>
      cases elements with
      | nil => simp
      | cons first following =>
          have shorter :
              (following.filter fun other => (key other == key first) = false).length < bound := by
            rw [← length]
            exact Nat.lt_succ_of_le (List.length_filter_le _ _)
          obtain ⟨distinct, within, all⟩ := inductionHypothesis _ shorter _ rfl
          rw [List.eraseDupsBy_cons]
          refine ⟨?_, ?_, ?_⟩
          · rw [List.map_cons, List.nodup_cons]
            refine ⟨?_, distinct⟩
            intro member
            obtain ⟨other, isOther, same⟩ := List.mem_map.mp member
            have apart := (List.mem_filter.mp (within other isOther)).2
            simp [same] at apart
          · intro element member
            rcases List.mem_cons.mp member with rfl | later
            · exact List.mem_cons_self
            · exact List.mem_cons_of_mem _ (List.mem_filter.mp (within element later)).1
          · intro element member
            by_cases same : key element = key first
            · simp [same]
            · have isLater : element ∈ following := by
                rcases List.mem_cons.mp member with rfl | later
                · exact absurd rfl same
                · exact later
              have kept := all element (List.mem_filter.mpr ⟨isLater, by simpa using same⟩)
              exact List.mem_cons_of_mem _ kept

namespace SourceFile

private theorem chosen_iff
    {tree : FileTree}
    {path : Text}
    {root location names : Location}
    {bytes held : ByteArray} :
    ((root.isPrefixOf? location).bind fun way =>
        if isEligible tree path root way then some (way, bytes) else none) = some (names, held) ↔
      root ++ names = location ∧ isEligible tree path root names = true ∧ bytes = held := by
  constructor
  · intro chosen
    obtain ⟨way, leads, kept⟩ := Option.bind_eq_some_iff.mp chosen
    rw [List.isPrefixOf?_eq_some_iff_append_eq] at leads
    split at kept
    · next isEligible =>
        cases kept
        exact ⟨leads, isEligible, rfl⟩
    · cases kept
  · rintro ⟨rfl, isEligible, rfl⟩
    have leads : root.isPrefixOf? (root ++ names) = some names :=
      List.isPrefixOf?_eq_some_iff_append_eq.mpr rfl
    simp [leads, isEligible]

theorem isSourceName_of_isEligible
    {tree : FileTree}
    {path : Text}
    {root names : Location}
    (eligible : isEligible tree path root names = true) :
    (root ++ names).getLast?.any isSourceName = true := by
  have isSource : names.getLast?.any isSourceName = true :=
    (Bool.and_eq_true_iff.mp eligible).1
  have notEmpty : names ≠ [] := by
    rintro rfl
    cases isSource
  rw [List.getLast?_append_of_ne_nil root notEmpty]
  exact isSource

/-- The eligible files are the files of the tree at eligible places. -/
theorem mem_eligible_iff
    {tree : FileTree}
    {path : Text}
    {root names : Location}
    {bytes : ByteArray} :
    (names, bytes) ∈ eligible tree path root ↔
      tree.file? (root ++ names) = some bytes ∧ isEligible tree path root names = true := by
  simp only [eligible]
  rw [(stableSort_perm _ _).mem_iff, List.mem_filterMap, FileTree.file?_eq_some_iff]
  constructor
  · rintro ⟨⟨location, held⟩, member, chosen⟩
    obtain ⟨rfl, isEligible, rfl⟩ := chosen_iff.mp chosen
    exact ⟨member, isEligible⟩
  · rintro ⟨member, isEligible⟩
    exact ⟨(root ++ names, bytes), member, chosen_iff.mpr ⟨rfl, isEligible, rfl⟩⟩

/-- No place is eligible twice. -/
theorem nodup_eligible
    (tree : FileTree)
    (path : Text)
    (root : Location) :
    ((eligible tree path root).map Prod.fst).Nodup := by
  simp only [eligible]
  rw [((stableSort_perm _ _).map Prod.fst).nodup_iff, List.Nodup, List.pairwise_map,
    List.pairwise_filterMap]
  have distinct := tree.distinct
  rw [List.Nodup, List.pairwise_map] at distinct
  refine distinct.imp ?_
  rintro ⟨left, leftBytes⟩ ⟨right, rightBytes⟩ apart ⟨names, _⟩ isLeft ⟨others, _⟩ isRight rfl
  obtain ⟨ofLeft, _⟩ := chosen_iff.mp isLeft
  obtain ⟨ofRight, _⟩ := chosen_iff.mp isRight
  exact apart (ofLeft.symm.trans ofRight)

/-- What reading a file gives. -/
theorem ofBytes_eq_ok
    {path : Text}
    {names : Location}
    {bytes : ByteArray}
    {file : SourceFile}
    (read : ofBytes path names bytes = .ok file) :
    file.names = names ∧
      Text.ofBytes? bytes = some file.text ∧ Source.Header.ofText file.text = .ok file.header := by
  simp only [ofBytes] at read
  split at read
  · cases read
  · split at read
    · cases read
    · next text spelled =>
        split at read
        · cases read
        · next header scanned =>
            cases read
            exact ⟨rfl, spelled, scanned⟩

private theorem readAll_cons
    {path : Text}
    {entry : Location × ByteArray}
    {following : List (Location × ByteArray)}
    {files : List SourceFile}
    (read : readAll path (entry :: following) = .ok files) :
    ∃ file others,
      ofBytes (FilePath.descendant path entry.1) entry.1 entry.2 = .ok file ∧
        readAll path following = .ok others ∧ files = file :: others := by
  simp only [readAll] at read
  split at read
  · cases read
  · next file first =>
      split at read
      · cases read
      · next others rest =>
          cases read
          exact ⟨file, others, first, rest, rfl⟩

/-- Files that are read keep their names. -/
theorem names_of_readAll
    {path : Text}
    {entries : List (Location × ByteArray)}
    {files : List SourceFile}
    (read : readAll path entries = .ok files) :
    files.map names = entries.map Prod.fst := by
  induction entries generalizing files with
  | nil =>
      cases read
      rfl
  | cons entry following inductionHypothesis =>
      obtain ⟨file, others, first, rest, rfl⟩ := readAll_cons read
      rw [List.map_cons, List.map_cons, inductionHypothesis rest, (ofBytes_eq_ok first).1]

/-- Files that are read in order are read one by one. -/
theorem mem_readAll_iff
    {path : Text}
    {entries : List (Location × ByteArray)}
    {files : List SourceFile}
    (read : readAll path entries = .ok files)
    {file : SourceFile} :
    file ∈ files ↔
      ∃ entry ∈ entries,
        ofBytes (FilePath.descendant path entry.1) entry.1 entry.2 = .ok file := by
  induction entries generalizing files with
  | nil =>
      cases read
      simp
  | cons entry following inductionHypothesis =>
      obtain ⟨first, others, isFirst, rest, rfl⟩ := readAll_cons read
      rw [List.mem_cons, inductionHypothesis rest, List.exists_mem_cons_iff, isFirst,
        Except.ok.injEq, eq_comm]

/-- Of every place among those to be read there is a file. -/
theorem exists_of_readAll
    {path : Text}
    {entries : List (Location × ByteArray)}
    {files : List SourceFile}
    (read : readAll path entries = .ok files)
    {entry : Location × ByteArray}
    (member : entry ∈ entries) :
    ∃ file, ofBytes (FilePath.descendant path entry.1) entry.1 entry.2 = .ok file := by
  induction entries generalizing files with
  | nil => cases member
  | cons first following inductionHypothesis =>
      obtain ⟨file, others, isFirst, rest, rfl⟩ := readAll_cons read
      rcases List.mem_cons.mp member with rfl | later
      · exact ⟨file, isFirst⟩
      · exact inductionHypothesis rest later

end SourceFile

namespace Package

private theorem mem_of_mem_named
    {files : List SourceFile}
    {name : Text}
    {file : SourceFile}
    (member : file ∈ named files name) :
    file ∈ files :=
  (List.mem_filter.mp member).1

private theorem mem_of_mem_ofDirectory
    {directory : Location}
    {files : List SourceFile}
    {package : Package}
    (isPackage : package ∈ ofDirectory directory files)
    {file : SourceFile}
    (member : file ∈ package.files) :
    file ∈ files := by
  simp only [ofDirectory] at isPackage
  rw [List.mem_append, List.mem_append, List.mem_map, List.mem_map, List.mem_map] at isPackage
  rcases isPackage with (⟨name, _, rfl⟩ | ⟨name, _, rfl⟩) | ⟨name, _, rfl⟩
  · exact (List.mem_filter.mp (mem_of_mem_named member)).1
  · rcases List.mem_append.mp member with isLibrary | isTest
    · exact (List.mem_filter.mp (mem_of_mem_named isLibrary)).1
    · exact (List.mem_filter.mp (mem_of_mem_named isTest)).1
  · exact (List.mem_filter.mp (mem_of_mem_named member)).1

/-- Files that are grouped by their package names are each in the group of their own. -/
private theorem mem_named
    {files : List SourceFile}
    {file : SourceFile}
    (member : file ∈ files) :
    file.header.package ∈ names files ∧ file ∈ named files file.header.package :=
  ⟨mem_sortedSet.mpr (List.mem_map_of_mem member), List.mem_filter.mpr ⟨member, beq_self_eq_true _⟩⟩

private theorem exists_mem_ofDirectory
    (directory : Location)
    {files : List SourceFile}
    {file : SourceFile}
    (member : file ∈ files) :
    ∃ package ∈ ofDirectory directory files, file ∈ package.files := by
  simp only [ofDirectory]
  by_cases isTest : file.isTest = true
  · by_cases isExternal : SourceFile.isExternalName file.header.package = true
    · have inTests :
          file ∈ files.filter fun other =>
            other.isTest && SourceFile.isExternalName other.header.package :=
        List.mem_filter.mpr ⟨member, by simp [isTest, isExternal]⟩
      obtain ⟨isName, held⟩ := mem_named inTests
      exact ⟨_, List.mem_append_right _ (List.mem_map_of_mem isName), held⟩
    · have inTests :
          file ∈ files.filter fun other =>
            other.isTest && !SourceFile.isExternalName other.header.package :=
        List.mem_filter.mpr ⟨member, by simp [isTest, isExternal]⟩
      obtain ⟨isName, held⟩ := mem_named inTests
      exact
        ⟨_, List.mem_append_left _ (List.mem_append_right _ (List.mem_map_of_mem isName)),
          List.mem_append_right _ held⟩
  · have inLibraries : file ∈ files.filter fun other => !other.isTest :=
      List.mem_filter.mpr ⟨member, by simp [isTest]⟩
    obtain ⟨isName, held⟩ := mem_named inLibraries
    exact
      ⟨_, List.mem_append_left _ (List.mem_append_left _ (List.mem_map_of_mem isName)), held⟩

/-- Every file is in a package, and every file of a package is one of the files. -/
theorem mem_ofFiles_iff
    {files : List SourceFile}
    {file : SourceFile} :
    (∃ package ∈ ofFiles files, file ∈ package.files) ↔ file ∈ files := by
  simp only [ofFiles]
  constructor
  · rintro ⟨package, isPackage, member⟩
    obtain ⟨directory, _, ofOne⟩ := List.mem_flatMap.mp isPackage
    exact (List.mem_filter.mp (mem_of_mem_ofDirectory ofOne member)).1
  · intro member
    have inDirectory :
        file ∈ files.filter fun other => other.directory == file.directory :=
      List.mem_filter.mpr ⟨member, beq_self_eq_true _⟩
    obtain ⟨package, isPackage, held⟩ := exists_mem_ofDirectory file.directory inDirectory
    refine ⟨package, List.mem_flatMap.mpr ⟨file.directory, ?_, isPackage⟩, held⟩
    exact mem_eraseReps.mpr (List.mem_map_of_mem member)

end Package

namespace PackageGraph

/-- What loading a directory gives. -/
theorem load_eq_ok
    {tree : FileTree}
    {path : Text}
    {graph : PackageGraph}
    (loaded : load tree path = .ok graph) :
    tree.directory? path = some graph.root ∧
      SourceFile.readAll path (SourceFile.eligible tree path graph.root) = .ok graph.files ∧
      graph.packages = Package.ofFiles graph.files := by
  simp only [load] at loaded
  split at loaded
  · cases loaded
  · next root isRoot =>
      split at loaded
      · cases loaded
      · split at loaded
        · cases loaded
        · next files read =>
            cases loaded
            exact ⟨isRoot, read, rfl⟩

/-- Going through the packages meets every file once and nothing else. -/
theorem visited_of_load
    {tree : FileTree}
    {path : Text}
    {graph : PackageGraph}
    (loaded : load tree path = .ok graph) :
    (graph.visited.map SourceFile.names).Nodup ∧
      ∀ file, file ∈ graph.visited ↔ file ∈ graph.files := by
  obtain ⟨_, read, packages⟩ := load_eq_ok loaded
  have distinct : (graph.files.map SourceFile.names).Nodup := by
    rw [SourceFile.names_of_readAll read]
    exact SourceFile.nodup_eligible tree path graph.root
  have collected : ∀ file, file ∈ graph.packages.flatMap Package.files ↔ file ∈ graph.files := by
    intro file
    rw [packages, List.mem_flatMap]
    exact Package.mem_ofFiles_iff
  obtain ⟨namesDistinct, within, all⟩ :=
    eraseDupsBy_spec SourceFile.names (graph.packages.flatMap Package.files)
  refine ⟨namesDistinct, fun file => ⟨fun met => (collected file).mp (within file met), ?_⟩⟩
  intro member
  obtain ⟨other, met, sameNames⟩ := List.mem_map.mp (all file ((collected file).mpr member))
  have isFile := (collected other).mp (within other met)
  rw [← List.inj_on_of_nodup_map distinct isFile member sameNames]
  exact met

/-- The files of a loaded graph are the eligible files of the tree. -/
theorem mem_files_iff
    {tree : FileTree}
    {path : Text}
    {graph : PackageGraph}
    (loaded : load tree path = .ok graph)
    {file : SourceFile} :
    file ∈ graph.files ↔
      ∃ bytes,
        tree.file? (graph.root ++ file.names) = some bytes ∧
          SourceFile.isEligible tree path graph.root file.names = true ∧
          SourceFile.ofBytes (FilePath.descendant path file.names) file.names bytes =
            .ok file := by
  obtain ⟨_, read, _⟩ := load_eq_ok loaded
  rw [SourceFile.mem_readAll_iff read]
  constructor
  · rintro ⟨⟨names, bytes⟩, isEntry, isFile⟩
    obtain ⟨held, eligible⟩ := SourceFile.mem_eligible_iff.mp isEntry
    obtain ⟨rfl, _⟩ := SourceFile.ofBytes_eq_ok isFile
    exact ⟨bytes, held, eligible, isFile⟩
  · rintro ⟨bytes, held, eligible, isFile⟩
    exact ⟨(file.names, bytes), SourceFile.mem_eligible_iff.mpr ⟨held, eligible⟩, isFile⟩

/-- Every eligible file of the tree is in a loaded graph. -/
theorem exists_mem_files
    {tree : FileTree}
    {path : Text}
    {graph : PackageGraph}
    (loaded : load tree path = .ok graph)
    {names : Location}
    {bytes : ByteArray}
    (held : tree.file? (graph.root ++ names) = some bytes)
    (eligible : SourceFile.isEligible tree path graph.root names = true) :
    ∃ file ∈ graph.files,
      SourceFile.ofBytes (FilePath.descendant path names) names bytes = .ok file := by
  obtain ⟨_, read, _⟩ := load_eq_ok loaded
  have isEntry := SourceFile.mem_eligible_iff.mpr ⟨held, eligible⟩
  obtain ⟨file, isFile⟩ := SourceFile.exists_of_readAll read isEntry
  exact ⟨file, (SourceFile.mem_readAll_iff read).mpr ⟨_, isEntry, isFile⟩, isFile⟩

end PackageGraph

end ModuleUpdate
