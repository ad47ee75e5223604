import ModuleUpdate.FileTree
import ModuleUpdate.Proofs.Lookup

namespace ModuleUpdate.FileTree

/-!
# Writing files

Writing a file that is there changes its bytes and nothing else: every path leads where it led
before, and every other file holds what it held.
-/

/-- Trees with the same files and directories at the same places, whatever the files hold. -/
structure SameLayout (first second : FileTree) : Prop where
  current : first.current = second.current
  directories : first.directories = second.directories
  locations : first.files.map Prod.fst = second.files.map Prod.fst

namespace SameLayout

theorem refl (tree : FileTree) : SameLayout tree tree :=
  ⟨rfl, rfl, rfl⟩

theorem trans
    {first second third : FileTree}
    (left : SameLayout first second)
    (right : SameLayout second third) :
    SameLayout first third :=
  ⟨left.current.trans right.current, left.directories.trans right.directories,
    left.locations.trans right.locations⟩

end SameLayout

/-- A file is there with its bytes exactly when it is listed with them. -/
theorem file?_eq_some_iff
    {tree : FileTree}
    {location : Location}
    {bytes : ByteArray} :
    tree.file? location = some bytes ↔ (location, bytes) ∈ tree.files :=
  lookup_eq_some_iff_mem tree.distinct

/-- A file is there exactly when its location is listed. -/
theorem file?_isSome_iff
    {tree : FileTree}
    {location : Location} :
    (tree.file? location).isSome = true ↔ location ∈ tree.files.map Prod.fst := by
  rw [Option.isSome_iff_exists]
  constructor
  · rintro ⟨bytes, found⟩
    exact List.mem_map.mpr ⟨_, file?_eq_some_iff.mp found, rfl⟩
  · intro member
    obtain ⟨⟨place, bytes⟩, isFile, rfl⟩ := List.mem_map.mp member
    exact ⟨bytes, file?_eq_some_iff.mpr isFile⟩

/-- A write shows at its location and nowhere else. -/
theorem file?_write
    (tree : FileTree)
    (location other : Location)
    (bytes : ByteArray) :
    (tree.write location bytes).file? other =
      if other = location then some bytes else tree.file? other := by
  apply Option.ext
  intro held
  rw [file?_eq_some_iff]
  by_cases listed : location ∈ tree.files.map Prod.fst
  · have files : (tree.write location bytes).files = replaceFile location bytes tree.files := by
      simp only [write, listed, dif_pos]
    obtain ⟨⟨place, old⟩, isFile, rfl⟩ := List.mem_map.mp listed
    rw [files, replaceFile, List.mem_map]
    by_cases same : other = place
    · subst same
      rw [if_pos rfl, Option.some_inj]
      constructor
      · rintro ⟨⟨place, old⟩, _, replaced⟩
        by_cases isPlace : place = other
        · simpa [isPlace] using replaced
        · simp [isPlace] at replaced
      · rintro rfl
        exact ⟨_, isFile, by simp⟩
    · rw [if_neg same, file?_eq_some_iff]
      constructor
      · rintro ⟨⟨found, old⟩, isOld, replaced⟩
        by_cases isPlace : found = place
        · simp [isPlace, Ne.symm same] at replaced
        · simp only [isPlace, if_false] at replaced
          exact replaced ▸ isOld
      · intro isOld
        exact ⟨(other, held), isOld, by simp [same]⟩
  · have files : (tree.write location bytes).files = tree.files ++ [(location, bytes)] := by
      simp only [write, listed, dif_neg, not_false_iff]
    rw [files, List.mem_append, List.mem_singleton, Prod.mk.injEq]
    by_cases same : other = location
    · subst same
      have absent : (other, held) ∉ tree.files :=
        fun member => listed (List.mem_map.mpr ⟨_, member, rfl⟩)
      simp [absent, eq_comm]
    · simp [same, file?_eq_some_iff]

/-- Writing a file that is there keeps the layout. -/
theorem sameLayout_write
    {tree : FileTree}
    {location : Location}
    (isFile : (tree.file? location).isSome = true)
    (bytes : ByteArray) :
    SameLayout tree (tree.write location bytes) := by
  have listed := file?_isSome_iff.mp isFile
  simp only [write]
  rw [dif_pos listed]
  exact ⟨rfl, rfl, (locations_replaceFile location bytes tree.files).symm⟩

namespace SameLayout

variable {before after : FileTree}

/-- Trees of one layout have files in the same places. -/
theorem file?_isSome
    (same : SameLayout before after)
    (location : Location) :
    (after.file? location).isSome = (before.file? location).isSome := by
  rw [Bool.eq_iff_iff, file?_isSome_iff, file?_isSome_iff, same.locations]

/-- A test for places finds a file in trees of one layout alike. -/
private theorem any_files
    (same : SameLayout before after)
    (holds : Location → Bool) :
    (after.files.any fun (other, _) => holds other) =
      before.files.any fun (other, _) => holds other := by
  have ofLocations : ∀ files : List (Location × ByteArray),
      (files.any fun (other, _) => holds other) = (files.map Prod.fst).any holds := by
    intro files
    rw [List.any_map]
    rfl
  rw [ofLocations, ofLocations, same.locations]

/-- Trees of one layout have the same directories. -/
theorem isDirectory
    (same : SameLayout before after)
    (location : Location) :
    after.isDirectory location = before.isDirectory location := by
  have files := same.any_files fun other => location.isPrefixOf other && location ≠ other
  simp only [FileTree.isDirectory]
  rw [same.current, same.directories]
  exact congrArg _ files

end SameLayout

/-- What a path leads to once the files of another tree hold their bytes. -/
def refreshed (tree : FileTree) : Entry → Entry
  | .file location bytes => .file location ((tree.file? location).getD bytes)
  | entry => entry

namespace SameLayout

variable {before after : FileTree}

/-- A way leads to the same place in trees of one layout, and to the bytes that are there. -/
theorem follow
    (same : SameLayout before after)
    (directory : Location)
    (names : List Text) :
    after.follow directory names = after.refreshed (before.follow directory names) := by
  induction names generalizing directory with
  | nil => rfl
  | cons name following inductionHypothesis =>
      have further := inductionHypothesis (step directory name)
      have sameDirectory := same.isDirectory (step directory name)
      have sameFile := same.file?_isSome (step directory name)
      unfold FileTree.follow
      dsimp only
      rw [further, sameDirectory]
      by_cases isLong : FilePath.isLongName name
      · simp [isLong, refreshed]
      · by_cases down : leadsDown name
        · cases held : before.file? (step directory name) with
          | some bytes =>
              rw [held] at sameFile
              obtain ⟨new, isNew⟩ := Option.isSome_iff_exists.mp sameFile
              by_cases isLast : following = []
              · simp [isLong, down, isNew, isLast, refreshed]
              · simp [isLong, down, isNew, isLast, refreshed]
          | none =>
              rw [held] at sameFile
              have isNone : after.file? (step directory name) = none := by
                rw [← Option.not_isSome_iff_eq_none, sameFile]
                simp
              by_cases isDirectory : before.isDirectory (step directory name)
              · simp [isLong, down, isNone, isDirectory]
              · simp [isLong, down, isNone, isDirectory, refreshed]
        · simp [isLong, down]

/-- Every path leads where it led, to what the file there holds now. -/
theorem resolve
    (same : SameLayout before after)
    (path : Text) :
    after.resolve path = after.refreshed (before.resolve path) := by
  simp only [FileTree.resolve]
  by_cases holdsNull : path.contains '\x00'
  · simp only [holdsNull, if_true]
    rfl
  · by_cases isLong : FilePath.isLong path
    · simp only [holdsNull, isLong, if_true]
      rfl
    · simp only [holdsNull, isLong, Bool.false_eq_true, if_false]
      split
      · rfl
      · exact same.follow _ _
      · rw [← same.current]
        exact same.follow _ _

/-- A directory is found where it was. -/
theorem directory?
    (same : SameLayout before after)
    (path : Text) :
    after.directory? path = before.directory? path := by
  simp only [FileTree.directory?]
  rw [same.resolve]
  cases before.resolve path <;> rfl

/-- A full path can be found out where it could be. -/
theorem isResolvable
    (same : SameLayout before after)
    (path : Text) :
    after.isResolvable path = before.isResolvable path := by
  simp only [FileTree.isResolvable, same.current]

end SameLayout

/-- A way that leads to a file ends with its name. -/
theorem file?_of_follow
    {tree : FileTree}
    {directory location : Location}
    {names : List Text}
    {bytes : ByteArray}
    (led : tree.follow directory names = .file location bytes) :
    tree.file? location = some bytes ∧ location.getLast? = names.getLast? := by
  induction names generalizing directory with
  | nil => cases led
  | cons name following inductionHypothesis =>
      have deeper (further : tree.follow (step directory name) following = .file location bytes) :
          tree.file? location = some bytes ∧ location.getLast? = (name :: following).getLast? := by
        obtain ⟨held, last⟩ := inductionHypothesis further
        cases following with
        | nil => cases further
        | cons second others => exact ⟨held, by rw [last, List.getLast?_cons_cons]⟩
      unfold FileTree.follow at led
      dsimp only at led
      split at led
      · cases led
      · split at led
        · next down =>
            split at led
            · next found =>
                split at led
                · next isLast =>
                    cases led
                    subst isLast
                    simp only [leadsDown, Bool.and_eq_true, decide_eq_true_eq] at down
                    refine ⟨found, ?_⟩
                    simp [step, down]
                · cases led
            · split at led
              · exact deeper led
              · cases led
        · exact deeper led

/-- The last part of a path is what stands behind its last slash. -/
private theorem getLast?_splitOn
    {path front name : Text}
    (split : path = name ∨ path = front ++ '/' :: name)
    (oneName : '/' ∉ name) :
    (path.splitOn '/').getLast? = some name := by
  rcases split with rfl | rfl
  · rw [List.splitOn_eq_singleton oneName]
    rfl
  · rw [List.splitOn_append_cons_self, List.splitOn_eq_singleton oneName]
    exact List.getLast?_concat

/-- A file that a path leads to is there, and its name is the last on the path. -/
theorem file?_of_resolve
    {tree : FileTree}
    {directory name : Text}
    (oneName : '/' ∉ name)
    {location : Location}
    {bytes : ByteArray}
    (led : tree.resolve (FilePath.child directory name) = .file location bytes) :
    tree.file? location = some bytes ∧ location.getLast? = some name := by
  have whole : ∃ front,
      FilePath.child directory name = name ∨
        FilePath.child directory name = front ++ '/' :: name := by
    simp only [FilePath.child]
    split
    · next opens =>
        rcases opens with rfl | slash
        · exact ⟨[], .inl rfl⟩
        · obtain ⟨front, rfl⟩ := List.getLast?_eq_some_iff.mp slash
          exact ⟨front, .inr (by simp)⟩
    · exact ⟨directory, .inr rfl⟩
  obtain ⟨front, split⟩ := whole
  generalize FilePath.child directory name = path at led split
  simp only [FileTree.resolve] at led
  split at led
  · cases led
  · split at led
    · cases led
    · split at led
      · cases led
      · next rest _ _ =>
          obtain ⟨held, last⟩ := file?_of_follow led
          have restSplit : ∃ others, rest = name ∨ rest = others ++ '/' :: name := by
            rcases split with same | same
            · exact absurd (same ▸ List.mem_cons_self) oneName
            · cases front with
              | nil => exact ⟨[], .inl (List.cons.inj same).2⟩
              | cons first others => exact ⟨others, .inr (List.cons.inj same).2⟩
          obtain ⟨others, split⟩ := restSplit
          exact ⟨held, last.trans (getLast?_splitOn split oneName)⟩
      · obtain ⟨held, last⟩ := file?_of_follow led
        exact ⟨held, last.trans (getLast?_splitOn split oneName)⟩

end ModuleUpdate.FileTree
