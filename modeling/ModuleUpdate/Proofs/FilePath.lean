import ModuleUpdate.FilePath
import ModuleUpdate.Proofs.Text

namespace ModuleUpdate.FilePath

/-!
# Paths below a directory

The path of a place below a directory leads through the components of the directory and then
through the names on the way down, however the directory is spelled.  Relative to the directory,
it is told by these names, which can be read back from it.
-/

/-- A name that leads from a directory to something else, and is one component of a path. -/
structure IsName (name : Text) : Prop where
  notEmpty : name ≠ []
  notHere : name ≠ here
  oneName : '/' ∉ name

instance (name : Text) : Decidable (IsName name) :=
  decidable_of_iff (name ≠ [] ∧ name ≠ here ∧ '/' ∉ name)
    ⟨fun ⟨notEmpty, notHere, oneName⟩ => ⟨notEmpty, notHere, oneName⟩,
      fun isName => ⟨isName.notEmpty, isName.notHere, isName.oneName⟩⟩

private theorem splitOn_concat
    (directory : Text)
    {name : Text}
    (oneName : '/' ∉ name) :
    (directory ++ '/' :: name).splitOn '/' = directory.splitOn '/' ++ [name] := by
  rw [List.splitOn_append_cons_self, List.splitOn_eq_singleton oneName]

/-- One more name is one more component, whether or not the directory ends in a slash. -/
theorem components_child
    (directory : Text)
    {name : Text}
    (isName : IsName name) :
    components (child directory name) = components directory ++ [name] := by
  obtain ⟨notEmpty, notHere, oneName⟩ := isName
  simp only [child]
  split
  · next opens =>
      rcases opens with rfl | slash
      · simp [components, List.splitOn_eq_singleton oneName, notEmpty]
      · obtain ⟨front, rfl⟩ := List.getLast?_eq_some_iff.mp slash
        have split := splitOn_concat front oneName
        have splitSlash := splitOn_concat front (List.not_mem_nil : '/' ∉ ([] : Text))
        have whole : front ++ ['/'] ++ name = front ++ '/' :: name := by simp
        simp only [components, whole, split, splitSlash]
        cases front.splitOn '/' with
        | nil => simp [notEmpty]
        | cons first following =>
            by_cases noFirst : first = [] <;> simp [noFirst, notEmpty, notHere]
  · next notOpen =>
      simp only [components, splitOn_concat directory oneName]
      cases split : directory.splitOn '/' with
      | nil => simp [notEmpty]
      | cons first following =>
          by_cases noFirst : first = []
          · have someFollowing : following ≠ [] := by
              rintro rfl
              have joined : Text.join ['/'] (directory.splitOn '/') = directory :=
                List.intercalate_splitOn _
              rw [split, noFirst] at joined
              exact notOpen (.inl joined.symm)
            simp [noFirst, someFollowing, notEmpty, notHere]
          · simp [noFirst, notEmpty, notHere]

/-- The way down to a place is the end of its components. -/
theorem components_descendant
    (directory : Text)
    {names : List Text}
    (areNames : ∀ name ∈ names, IsName name) :
    components (descendant directory names) = components directory ++ names := by
  simp only [descendant]
  induction names generalizing directory with
  | nil => simp
  | cons name following inductionHypothesis =>
      have areOthers : ∀ other ∈ following, IsName other :=
        fun other member => areNames other (by simp [member])
      rw [List.foldl_cons, inductionHypothesis _ areOthers,
        components_child directory (areNames name (by simp)), List.append_assoc,
        List.singleton_append]

/-- A place below a directory is told by the names on the way down to it. -/
theorem relativeTo_descendant
    (directory : Text)
    {names : List Text}
    (areNames : ∀ name ∈ names, IsName name) :
    relativeTo directory (descendant directory names) = Text.join ['/'] names := by
  have below :
      (components directory).isPrefixOf? (components directory ++ names) = some names :=
    List.isPrefixOf?_eq_some_iff_append_eq.mpr rfl
  simp only [relativeTo]
  rw [components_descendant directory areNames, below, Option.getD_some]

/-- Names that are joined by slashes can be told apart. -/
theorem splitOn_join
    {names : List Text}
    (notEmpty : names ≠ [])
    (areNames : ∀ name ∈ names, IsName name) :
    (Text.join ['/'] names).splitOn '/' = names :=
  List.splitOn_intercalate '/' (fun name member => (areNames name member).oneName) notEmpty

theorem descendant_append
    (directory : Text)
    (names others : List Text) :
    descendant directory (names ++ others) = descendant (descendant directory names) others :=
  List.foldl_append

private theorem prefix_child (directory name : Text) : directory <+: child directory name := by
  simp only [child]
  split <;> exact List.prefix_append _ _

/-- A path leads through the paths of the directories above. -/
theorem prefix_descendant (directory : Text) (names : List Text) :
    directory <+: descendant directory names := by
  induction names generalizing directory with
  | nil => exact List.prefix_refl directory
  | cons name following inductionHypothesis =>
      exact (prefix_child directory name).trans (inductionHypothesis _)

/-- A path through one that is too long is too long itself. -/
theorem isLong_of_prefix
    {path deeper : Text}
    (leads : path <+: deeper)
    (tooLong : isLong path = true) :
    isLong deeper = true := by
  obtain ⟨rest, rfl⟩ := leads
  simp only [isLong, decide_eq_true_eq] at tooLong ⊢
  rw [Text.byteLength_append]
  omega

end ModuleUpdate.FilePath
