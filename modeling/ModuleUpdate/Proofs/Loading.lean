import ModuleUpdate.Proofs.FilePath
import ModuleUpdate.Proofs.Package

namespace ModuleUpdate

/-!
# Which trees are loaded

The sources of a module are told by their names and by the directories on the way to them.  The
packages below a directory are loaded exactly if each directory of the module can be listed and
each of its sources can be read.
-/

namespace SourceFile

/--
A directory that belongs to a module: none on the way to it from the root, itself included, has an
ignored name or is seen to hold a manifest.  A manifest is not seen where its path is too long.
-/
def IsOwnDirectory (tree : FileTree) (path : Text) (root names : Location) : Prop :=
  ∀ above name,
    above ++ [name] <+: names →
      (name ≠ "vendor".toList ∧ name ≠ "testdata".toList ∧
        name.head? ≠ some '.' ∧ name.head? ≠ some '_') ∧
        (tree.file? (root ++ above ++ [name, manifestName]) = none ∨
          FilePath.isLong
              (FilePath.child (FilePath.descendant path (above ++ [name])) manifestName) =
            true)

/-- A source of a module: its name is that of a source, and its directory belongs to the module. -/
structure IsSource (tree : FileTree) (path : Text) (root names : Location) : Prop where
  name :
    ∃ name ∈ names.getLast?,
      ".go".toList <:+ name ∧ name.head? ≠ some '.' ∧ name.head? ≠ some '_'
  directory : IsOwnDirectory tree path root names.dropLast

/-- The names of directories that are looked into. -/
theorem isIgnoredName_eq_false_iff {name : Text} :
    isIgnoredName name = false ↔
      name ≠ "vendor".toList ∧ name ≠ "testdata".toList ∧
        name.head? ≠ some '.' ∧ name.head? ≠ some '_' := by
  simp [isIgnoredName, isHiddenName]
  tauto

/-- No manifest is seen where there is none or its path is too long. -/
theorem holdsManifest_eq_false_iff
    {tree : FileTree}
    {path : Text}
    {directory : Location} :
    holdsManifest tree path directory = false ↔
      tree.file? (directory ++ [manifestName]) = none ∨
        FilePath.isLong (FilePath.child path manifestName) = true := by
  simp only [holdsManifest, Bool.and_eq_false_iff, Bool.not_eq_false', Option.isSome_eq_false_iff,
    Option.isNone_iff_eq_none]
  exact or_comm

/-- The first directory on a way belongs to the module, and so do those that follow. -/
private theorem isOwnDirectory_cons_iff
    {tree : FileTree}
    {path name : Text}
    {root following : Location} :
    IsOwnDirectory tree path root (name :: following) ↔
      (isIgnoredName name = false ∧
        holdsManifest tree (FilePath.child path name) (root ++ [name]) = false) ∧
        IsOwnDirectory tree (FilePath.child path name) (root ++ [name]) following := by
  rw [isIgnoredName_eq_false_iff, holdsManifest_eq_false_iff]
  constructor
  · intro isOwn
    refine ⟨?_, fun above other leads => ?_⟩
    · simpa [FilePath.descendant] using isOwn [] name (by simp)
    · have deeper := isOwn (name :: above) other (by simpa using leads)
      simpa [FilePath.descendant] using deeper
  · rintro ⟨isFirst, others⟩ above other leads
    cases above with
    | nil =>
        obtain rfl : other = name := by simpa using leads
        simpa [FilePath.descendant] using isFirst
    | cons first between =>
        obtain ⟨rfl, leadsOn⟩ : first = name ∧ between ++ [other] <+: following := by
          simpa using leads
        have deeper := others between other leadsOn
        simpa [FilePath.descendant] using deeper

/-- A directory passes the test exactly if it is own. -/
theorem isOwnDirectory_iff
    {tree : FileTree}
    {path : Text}
    {root names : Location} :
    isOwnDirectory tree path root names = true ↔ IsOwnDirectory tree path root names := by
  induction names generalizing path root with
  | nil => simp [isOwnDirectory, IsOwnDirectory]
  | cons name following inductionHypothesis =>
      rw [isOwnDirectory_cons_iff, ← inductionHypothesis]
      simp [isOwnDirectory]

/-- A file passes the test exactly if it is a source. -/
theorem isEligible_iff
    {tree : FileTree}
    {path : Text}
    {root names : Location} :
    isEligible tree path root names = true ↔ IsSource tree path root names := by
  simp only [isEligible, Bool.and_eq_true, isOwnDirectory_iff]
  constructor
  · rintro ⟨isSource, isOwn⟩
    refine ⟨?_, isOwn⟩
    cases last : names.getLast? with
    | none => simp [last] at isSource
    | some name => simpa [last, isSourceName, isHiddenName] using isSource
  · rintro ⟨⟨name, last, isSource⟩, isOwn⟩
    refine ⟨?_, isOwn⟩
    rw [Option.mem_def.mp last]
    simpa [isSourceName, isHiddenName] using isSource

/-- A directory below the root is on the way to one that has to exist. -/
private theorem exists_way_iff
    {tree : FileTree}
    {root names : Location}
    (notRoot : names ≠ []) :
    (∃ way ∈ tree.waysDown root, names <+: way) ↔ tree.isDirectory (root ++ names) = true := by
  have isBelow : root ++ names ≠ [] := by simp [notRoot]
  simp only [FileTree.isDirectory, FileTree.waysDown, isBelow, decide_false, Bool.false_or,
    Bool.or_eq_true, List.any_eq_true, List.isPrefixOf_iff_prefix, Bool.and_eq_true,
    decide_eq_true_eq]
  constructor
  · rintro ⟨way, isWay, leads⟩
    rcases List.mem_append.mp isWay with toDirectory | toFile
    · obtain ⟨directory, member, cut⟩ := List.mem_filterMap.mp toDirectory
      rw [List.isPrefixOf?_eq_some_iff_append_eq] at cut
      subst cut
      exact .inl ⟨_, member, (List.prefix_append_right_inj root).mpr leads⟩
    · obtain ⟨⟨other, bytes⟩, member, cut⟩ := List.mem_filterMap.mp toFile
      obtain ⟨rest, below, rfl⟩ := Option.map_eq_some_iff.mp cut
      rw [List.isPrefixOf?_eq_some_iff_append_eq] at below
      subst below
      have someNames := List.length_pos_iff.mpr notRoot
      have shorter := leads.length_le
      rw [List.length_dropLast] at shorter
      refine .inr ⟨_, member, ?_, fun same => ?_⟩
      · exact (List.prefix_append_right_inj root).mpr (leads.trans (List.dropLast_prefix rest))
      · rw [List.append_cancel_left same] at shorter someNames
        omega
  · rintro (⟨directory, member, rest, rfl⟩ | ⟨⟨other, bytes⟩, member, ⟨rest, rfl⟩, isProper⟩)
    · refine ⟨names ++ rest, List.mem_append_left _ (List.mem_filterMap.mpr ⟨_, member, ?_⟩),
        List.prefix_append _ _⟩
      rw [List.isPrefixOf?_eq_some_iff_append_eq, List.append_assoc]
    · have someRest : rest ≠ [] := by
        rintro rfl
        simp at isProper
      refine ⟨names ++ rest.dropLast,
        List.mem_append_right _ (List.mem_filterMap.mpr ⟨_, member, ?_⟩),
        List.prefix_append _ _⟩
      have below : root.isPrefixOf? (root ++ names ++ rest) = some (names ++ rest) :=
        List.isPrefixOf?_eq_some_iff_append_eq.mpr (by rw [List.append_assoc])
      rw [below, Option.map_some, List.dropLast_append_of_ne_nil someRest]

private theorem mem_map_take_iff
    {way names : Location} :
    names ∈ (List.range' 1 way.length).map way.take ↔ names <+: way ∧ names ≠ [] := by
  simp only [List.mem_map, List.mem_range'_1]
  constructor
  · rintro ⟨count, ⟨atLeast, atMost⟩, rfl⟩
    refine ⟨List.take_prefix count way, fun none => ?_⟩
    have noNames := congrArg List.length none
    rw [List.length_take, List.length_nil] at noNames
    omega
  · rintro ⟨leads, notRoot⟩
    have someNames := List.length_pos_iff.mpr notRoot
    have shorter := leads.length_le
    exact ⟨names.length, by omega, (List.prefix_iff_eq_take.mp leads).symm⟩

/-- Some directory of a module cannot be listed exactly if its path is too long. -/
theorem unlistable?_eq_none_iff
    {tree : FileTree}
    {path : Text}
    {root : Location} :
    unlistable? tree path root = none ↔
      ∀ names,
        names ≠ [] →
          tree.isDirectory (root ++ names) = true →
            IsOwnDirectory tree path root names →
              FilePath.isLong (FilePath.descendant path names) = false := by
  simp only [unlistable?]
  rw [List.head?_eq_none_iff, ← List.length_eq_zero_iff, (stableSort_perm _ _).length_eq,
    List.length_eq_zero_iff, List.filter_eq_nil_iff]
  simp only [List.mem_flatMap, List.mem_filter, mem_map_take_iff, Bool.and_eq_true, not_and,
    isOwnDirectory_iff]
  constructor
  · intro none names notRoot isDirectory isOwn
    obtain ⟨way, isWay, leads⟩ := (exists_way_iff notRoot).mpr isDirectory
    rw [Bool.eq_false_iff]
    intro isLong
    obtain ⟨rest, rfl⟩ := leads
    have wayLong : FilePath.isLong (FilePath.descendant path (names ++ rest)) = true := by
      rw [FilePath.descendant_append]
      exact FilePath.isLong_of_prefix (FilePath.prefix_descendant _ rest) isLong
    exact none names ⟨_, ⟨isWay, wayLong⟩, List.prefix_append _ _, notRoot⟩ isLong isOwn
  · rintro short names ⟨way, ⟨isWay, _⟩, leads, notRoot⟩ isLong isOwn
    rw [short names notRoot ((exists_way_iff notRoot).mp ⟨way, isWay, leads⟩) isOwn] at isLong
    cases isLong

/-- A file is read as a source where its path is not too long and its text is scanned. -/
theorem exists_ofBytes_iff
    {path : Text}
    {names : Location}
    {bytes : ByteArray} :
    (∃ file, ofBytes path names bytes = .ok file) ↔
      FilePath.isLong path = false ∧
        ∃ text header,
          Text.ofBytes? bytes = some text ∧ Source.Header.ofText text = .ok header := by
  simp only [ofBytes]
  cases FilePath.isLong path with
  | true => simp
  | false =>
      cases Text.ofBytes? bytes with
      | none => simp
      | some text => cases scanned : Source.Header.ofText text <;> simp [scanned]

/-- Files are all read as sources where each of them is. -/
theorem exists_readAll_iff
    {path : Text}
    {entries : List (Location × ByteArray)} :
    (∃ files, readAll path entries = .ok files) ↔
      ∀ entry ∈ entries,
        ∃ file, ofBytes (FilePath.descendant path entry.1) entry.1 entry.2 = .ok file := by
  constructor
  · rintro ⟨files, read⟩ entry member
    exact exists_of_readAll read member
  · intro each
    induction entries with
    | nil => exact ⟨[], rfl⟩
    | cons entry following inductionHypothesis =>
        obtain ⟨file, isFirst⟩ := each entry (by simp)
        obtain ⟨files, areOthers⟩ :=
          inductionHypothesis fun other member => each other (by simp [member])
        exact ⟨file :: files, by simp only [readAll, isFirst, areOthers]⟩

end SourceFile

namespace PackageGraph

/-- The root of a module is reached by a path that is not too long. -/
private theorem isLong_of_directory?
    {tree : FileTree}
    {path : Text}
    {root : Location}
    (isRoot : tree.directory? path = some root) :
    FilePath.isLong path = false := by
  rw [Bool.eq_false_iff]
  intro isLong
  simp only [FileTree.directory?, FileTree.resolve, isLong, if_true] at isRoot
  split at isRoot
  · next led => split at led <;> cases led
  · cases isRoot

/-- A module whose directories can all be listed, and whose sources can all be read. -/
structure IsLoadable (tree : FileTree) (path : Text) (root : Location) : Prop where
  directories :
    ∀ names,
      tree.isDirectory (root ++ names) = true →
        SourceFile.IsOwnDirectory tree path root names →
          FilePath.isLong (FilePath.descendant path names) = false
  sources :
    ∀ names bytes,
      tree.file? (root ++ names) = some bytes →
        SourceFile.IsSource tree path root names →
          FilePath.isLong (FilePath.descendant path names) = false ∧
            ∃ text header,
              Text.ofBytes? bytes = some text ∧ Source.Header.ofText text = .ok header

/--
The packages below a directory are loaded exactly if the path of every directory of the module can
be followed, and every source of the module has such a path, is text and has a header.
-/
theorem exists_load_iff
    {tree : FileTree}
    {path : Text}
    {root : Location}
    (isRoot : tree.directory? path = some root) :
    (∃ graph, load tree path = .ok graph) ↔ IsLoadable tree path root := by
  have listed :
      SourceFile.unlistable? tree path root = none ↔
        ∀ names,
          tree.isDirectory (root ++ names) = true →
            SourceFile.IsOwnDirectory tree path root names →
              FilePath.isLong (FilePath.descendant path names) = false := by
    rw [SourceFile.unlistable?_eq_none_iff]
    constructor
    · intro short names
      cases names with
      | nil => exact fun _ _ => isLong_of_directory? isRoot
      | cons name following => exact short (name :: following) (by simp)
    · exact fun short names _ => short names
  have read :
      (∃ files, SourceFile.readAll path (SourceFile.eligible tree path root) = .ok files) ↔
        ∀ names bytes,
          tree.file? (root ++ names) = some bytes →
            SourceFile.IsSource tree path root names →
              FilePath.isLong (FilePath.descendant path names) = false ∧
                ∃ text header,
                  Text.ofBytes? bytes = some text ∧ Source.Header.ofText text = .ok header := by
    rw [SourceFile.exists_readAll_iff]
    simp only [Prod.forall, SourceFile.mem_eligible_iff, SourceFile.isEligible_iff, and_imp,
      SourceFile.exists_ofBytes_iff]
  have both :
      IsLoadable tree path root ↔
        SourceFile.unlistable? tree path root = none ∧
          ∃ files,
            SourceFile.readAll path (SourceFile.eligible tree path root) = .ok files := by
    rw [listed, read]
    exact ⟨fun loadable => ⟨loadable.directories, loadable.sources⟩,
      fun parts => ⟨parts.1, parts.2⟩⟩
  rw [both]
  simp only [load, isRoot]
  cases SourceFile.unlistable? tree path root with
  | some names => simp
  | none =>
      cases SourceFile.readAll path (SourceFile.eligible tree path root) <;> simp

end PackageGraph

end ModuleUpdate
