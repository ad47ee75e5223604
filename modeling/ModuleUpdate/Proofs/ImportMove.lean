import Mathlib.Data.List.Nodup
import Mathlib.Data.List.TakeWhile
import ModuleUpdate.ImportMove
import ModuleUpdate.Proofs.Package

namespace ModuleUpdate.ImportMove

/-!
# What moving imports writes

Moving the imports below a directory gives every eligible file its text with the imports moved,
where any is, and leaves every other file as it is.  A move that halts does so before it writes
anything, or in front of a file whose full path is too long, and then has written the files that
were visited earlier.
-/

/-- A file that is not written keeps its bytes. -/
theorem file?_writeAll_of_not_mem
    {tree : FileTree}
    {root location : Location}
    {files : List (SourceFile × Text)}
    (others : ∀ written ∈ files, root ++ written.1.names ≠ location) :
    (writeAll tree root files).file? location = tree.file? location := by
  simp only [writeAll]
  induction files generalizing tree with
  | nil => rfl
  | cons first following inductionHypothesis =>
      have notFirst : location ≠ root ++ first.1.names :=
        fun same => others first (by simp) same.symm
      rw [List.foldl_cons,
        inductionHypothesis fun written member => others written (by simp [member]),
        FileTree.file?_write, if_neg notFirst]

/-- A file that is written holds the text that was written. -/
theorem file?_writeAll_of_mem
    {tree : FileTree}
    {root : Location}
    {files : List (SourceFile × Text)}
    (distinct : (files.map fun written => written.1.names).Nodup)
    {file : SourceFile}
    {text : Text}
    (member : (file, text) ∈ files) :
    (writeAll tree root files).file? (root ++ file.names) = some (Text.toBytes text) := by
  induction files generalizing tree with
  | nil => cases member
  | cons first following inductionHypothesis =>
      obtain ⟨absent, apart⟩ := List.nodup_cons.mp distinct
      rcases List.mem_cons.mp member with rfl | later
      · have notLater : ∀ written ∈ following, root ++ written.1.names ≠ root ++ file.names := by
          intro written isWritten same
          exact absent (List.mem_map.mpr ⟨written, isWritten, List.append_cancel_left same⟩)
        have kept : (writeAll (tree.write (root ++ file.names) (Text.toBytes text)) root
            following).file? (root ++ file.names) = _ := file?_writeAll_of_not_mem notLater
        exact kept.trans (by rw [FileTree.file?_write, if_pos rfl])
      · exact inductionHypothesis apart later

/-- Writing to files that are there keeps the layout of the tree. -/
theorem sameLayout_writeAll
    {tree : FileTree}
    {root : Location}
    {files : List (SourceFile × Text)}
    (areFiles : ∀ written ∈ files, (tree.file? (root ++ written.1.names)).isSome = true) :
    FileTree.SameLayout tree (writeAll tree root files) := by
  induction files generalizing tree with
  | nil => exact .refl tree
  | cons first following inductionHypothesis =>
      have written := FileTree.sameLayout_write (areFiles first (by simp)) (Text.toBytes first.2)
      refine written.trans (inductionHypothesis fun other member => ?_)
      rw [written.file?_isSome]
      exact areFiles other (by simp [member])

variable {tree : FileTree} {directory relativeTo old new : Text}

/-- The affected files are those whose imports move, with the text that moves them. -/
theorem mem_affected
    {files : List SourceFile}
    {file : SourceFile}
    {text : Text} :
    (file, text) ∈ affected files old new ↔
      file ∈ files ∧ Source.moveImports? file.text file.header old new = some text := by
  simp only [affected]
  rw [List.mem_filterMap]
  constructor
  · rintro ⟨other, met, chosen⟩
    obtain ⟨changed, rewritten, same⟩ := Option.map_eq_some_iff.mp chosen
    cases same
    exact ⟨met, rewritten⟩
  · rintro ⟨met, rewritten⟩
    exact ⟨file, met, by simp [rewritten]⟩

theorem nodup_names_affected
    {files : List SourceFile}
    (distinct : (files.map SourceFile.names).Nodup)
    (old new : Text) :
    ((affected files old new).map fun written => written.1.names).Nodup := by
  refine List.Nodup.sublist ?_ distinct
  simp only [affected]
  clear distinct
  induction files with
  | nil => exact .slnil
  | cons file following inductionHypothesis =>
      cases rewritten : Source.moveImports? file.text file.header old new with
      | none => simpa [rewritten] using inductionHypothesis.cons file.names
      | some text => simpa [rewritten] using inductionHypothesis.cons_cons file.names

/-- A file that was visited holds its text with the imports moved, where any is. -/
theorem file?_writeAll_affected
    {files : List SourceFile}
    {root : Location}
    (distinct : (files.map SourceFile.names).Nodup)
    {file : SourceFile}
    (member : file ∈ files)
    {bytes : ByteArray}
    (held : tree.file? (root ++ file.names) = some bytes) :
    (writeAll tree root (affected files old new)).file? (root ++ file.names) =
      some ((Source.moveImports? file.text file.header old new).elim bytes Text.toBytes) := by
  cases rewritten : Source.moveImports? file.text file.header old new with
  | some text =>
      exact file?_writeAll_of_mem (nodup_names_affected distinct old new)
        (mem_affected.mpr ⟨member, rewritten⟩)
  | none =>
      have kept : ∀ other ∈ affected files old new,
          root ++ other.1.names ≠ root ++ file.names := by
        rintro ⟨other, text⟩ isAffected same
        obtain ⟨isOther, changed⟩ := mem_affected.mp isAffected
        have sameFile : other = file :=
          List.inj_on_of_nodup_map distinct isOther member (List.append_cancel_left same)
        rw [sameFile, rewritten] at changed
        cases changed
      rw [file?_writeAll_of_not_mem kept]
      exact held

/-- A file that was not visited is as it was. -/
theorem file?_writeAll_affected_of_other
    {files : List SourceFile}
    {root location : Location}
    (others : ∀ file ∈ files, location ≠ root ++ file.names) :
    (writeAll tree root (affected files old new)).file? location = tree.file? location := by
  apply file?_writeAll_of_not_mem
  rintro ⟨file, text⟩ isAffected same
  exact others file (mem_affected.mp isAffected).1 same.symm

section Load

variable {graph : PackageGraph} {files : List SourceFile}

/-- Of all files of a module, those are affected whose imports move. -/
theorem mem_affected_iff
    (loaded : PackageGraph.load tree directory = .ok graph)
    {file : SourceFile}
    {text : Text} :
    (file, text) ∈ affected graph.visited old new ↔
      file ∈ graph.files ∧ Source.moveImports? file.text file.header old new = some text := by
  rw [mem_affected, (PackageGraph.visited_of_load loaded).2]

theorem nodup_affected
    (loaded : PackageGraph.load tree directory = .ok graph)
    (old new : Text) :
    ((affected graph.visited old new).map fun written => written.1.names).Nodup :=
  nodup_names_affected (PackageGraph.visited_of_load loaded).1 old new

/-- Writing files that were loaded moves no file. -/
theorem sameLayout_of_load
    (loaded : PackageGraph.load tree directory = .ok graph)
    (within : ∀ file ∈ files, file ∈ graph.visited)
    (old new : Text) :
    FileTree.SameLayout tree (writeAll tree graph.root (affected files old new)) := by
  apply sameLayout_writeAll
  rintro ⟨file, text⟩ member
  have isFile := within file (mem_affected.mp member).1
  rw [(PackageGraph.visited_of_load loaded).2] at isFile
  obtain ⟨bytes, held, _⟩ := (PackageGraph.mem_files_iff loaded).mp isFile
  rw [held]
  rfl

/-- Among the files that were loaded only eligible ones are written. -/
theorem file?_of_load
    (loaded : PackageGraph.load tree directory = .ok graph)
    (within : ∀ file ∈ files, file ∈ graph.visited)
    {location : Location}
    (other : ∀ root names,
      tree.directory? directory = some root →
        SourceFile.isEligible tree directory root names = true → location ≠ root ++ names) :
    (writeAll tree graph.root (affected files old new)).file? location = tree.file? location := by
  obtain ⟨isRoot, _⟩ := PackageGraph.load_eq_ok loaded
  apply file?_writeAll_affected_of_other
  intro file member
  have isFile := within file member
  rw [(PackageGraph.visited_of_load loaded).2] at isFile
  obtain ⟨bytes, _, eligible, _⟩ := (PackageGraph.mem_files_iff loaded).mp isFile
  exact other graph.root file.names isRoot eligible

end Load

variable {moved : ImportMove}

/-- A move that succeeds reaches every file of the graph, and writes and tells of the affected. -/
theorem below_eq_ok
    (isMoved : below tree directory relativeTo old new = .ok moved) :
    ∃ graph,
      PackageGraph.load tree directory = .ok graph ∧
        (∀ file ∈ graph.visited, isReached tree directory file = true) ∧
        moved.tree = writeAll tree graph.root (affected graph.visited old new) ∧
        moved.changed =
          stableSort (fun left right => (compare left right).isLT)
            ((affected graph.visited old new).map fun written =>
              FilePath.relativeTo relativeTo (FilePath.descendant directory written.1.names)) := by
  simp only [below] at isMoved
  split at isMoved
  · cases isMoved
  · next graph loaded =>
      split at isMoved
      · cases isMoved
      · next allReached =>
          simp only [List.find?_eq_none, Bool.not_eq_true, Bool.not_eq_false'] at allReached
          rw [List.takeWhile_eq_self_iff.mpr allReached] at isMoved
          cases isMoved
          exact ⟨graph, loaded, allReached, rfl, by rw [List.map_map]; rfl⟩

/-- A move succeeds where the packages are loaded and every file of them is reached. -/
theorem exists_below_of_load
    {graph : PackageGraph}
    (loaded : PackageGraph.load tree directory = .ok graph)
    (allReached : ∀ file ∈ graph.visited, isReached tree directory file = true)
    (relativeTo old new : Text) :
    ∃ moved, below tree directory relativeTo old new = .ok moved := by
  have none : graph.visited.find? (fun file => !isReached tree directory file) = none := by
    simpa using allReached
  simp only [below, loaded, none]
  exact ⟨_, rfl⟩

/-- A move halts before it writes anything, or in front of the first file that it cannot reach. -/
theorem below_eq_error
    {halted : HaltedMove}
    (isHalted : below tree directory relativeTo old new = .error halted) :
    (∃ error,
        PackageGraph.load tree directory = .error error ∧
          halted.failure = .imports error ∧ halted.tree = tree) ∨
      ∃ graph earlier file later,
        PackageGraph.load tree directory = .ok graph ∧
          graph.visited = earlier ++ file :: later ∧
          (∀ other ∈ earlier, isReached tree directory other = true) ∧
          isReached tree directory file = false ∧
          halted.failure =
            .unreadable (FilePath.descendant directory file.names) .tooLong ∧
          halted.tree = writeAll tree graph.root (affected earlier old new) := by
  simp only [below] at isHalted
  split at isHalted
  · next error failed =>
      cases isHalted
      exact .inl ⟨error, failed, rfl, rfl⟩
  · next graph loaded =>
      split at isHalted
      · next file isFirst =>
          simp only [List.find?_eq_some_iff_append, Bool.not_not, Bool.not_eq_true'] at isFirst
          obtain ⟨notReached, earlier, later, split, reached⟩ := isFirst
          rw [split, List.takeWhile_append_of_pos reached,
            List.takeWhile_cons_of_neg (by simp [notReached]), List.append_nil] at isHalted
          cases isHalted
          exact .inr ⟨graph, earlier, file, later, loaded, split, reached, notReached, rfl, rfl⟩
      · cases isHalted

/-- Moving imports moves no file. -/
theorem sameLayout_below
    (isMoved : below tree directory relativeTo old new = .ok moved) :
    FileTree.SameLayout tree moved.tree := by
  obtain ⟨graph, loaded, _, written, _⟩ := below_eq_ok isMoved
  rw [written]
  exact sameLayout_of_load loaded (fun _ member => member) old new

/-- Only eligible files are written. -/
theorem file?_below_of_not_eligible
    (isMoved : below tree directory relativeTo old new = .ok moved)
    {location : Location}
    (other : ∀ root names,
      tree.directory? directory = some root →
        SourceFile.isEligible tree directory root names = true → location ≠ root ++ names) :
    moved.tree.file? location = tree.file? location := by
  obtain ⟨graph, loaded, _, written, _⟩ := below_eq_ok isMoved
  rw [written]
  exact file?_of_load loaded (fun _ member => member) other

/-- An eligible file holds its text with the imports moved, where any is. -/
theorem file?_below_of_eligible
    (isMoved : below tree directory relativeTo old new = .ok moved)
    {root names : Location}
    (isRoot : tree.directory? directory = some root)
    (eligible : SourceFile.isEligible tree directory root names = true)
    {bytes : ByteArray}
    (held : tree.file? (root ++ names) = some bytes) :
    ∃ text header,
      Text.ofBytes? bytes = some text ∧
        Source.Header.ofText text = .ok header ∧
        moved.tree.file? (root ++ names) =
          some ((Source.moveImports? text header old new).elim bytes Text.toBytes) := by
  obtain ⟨graph, loaded, _, written, _⟩ := below_eq_ok isMoved
  obtain ⟨isGraphRoot, _⟩ := PackageGraph.load_eq_ok loaded
  rw [isRoot, Option.some_inj] at isGraphRoot
  rw [isGraphRoot] at held eligible ⊢
  obtain ⟨file, isFile, read⟩ := PackageGraph.exists_mem_files loaded held eligible
  obtain ⟨rfl, spelled, scanned⟩ := SourceFile.ofBytes_eq_ok read
  obtain ⟨distinct, visited⟩ := PackageGraph.visited_of_load loaded
  refine ⟨file.text, file.header, spelled, scanned, ?_⟩
  rw [written]
  exact file?_writeAll_affected distinct ((visited file).mpr isFile) held

end ModuleUpdate.ImportMove
