import ModuleUpdate.Proofs.Manifest.Formatting
import ModuleUpdate.Proofs.Manifest.Markers

namespace ModuleUpdate

/-!
# Annotations of a manifest

An annotation is a comment that is not a blank line.  A block has annotations in five places:
above it, behind its opening line, above its lines, behind them, and in front of its closing
parenthesis.  Sorting moves annotations along with their lines.  Tidying takes a block apart only
where a single line has room for all of its annotations, so none is lost but those of blocks
without lines.
-/

/-- The comments that are not blank. -/
def Comments.annotations (comments : Comments) : List Text :=
  (comments.before ++ comments.trailing.toList).filter (· ≠ [])

/-- The annotations in the five places of a block. -/
def Block.annotations (block : Block) : List Text :=
  block.comments.annotations ++ block.lines.flatMap (fun line => line.comments.annotations) ++
    block.closing.filter (· ≠ [])

namespace Content

/-- The annotations of a statement. -/
def annotations : Content → List Text
  | .directive _ line => line.comments.annotations
  | .block group => group.annotations
  | .remark comments => comments.filter (· ≠ [])

/-- Whether the statement is a block without lines. -/
def isVacant : Content → Bool
  | .block group => group.lines.isEmpty
  | _ => false

end Content

namespace Manifest

/-- All annotations. -/
def annotations (manifest : Manifest) : List Text :=
  manifest.statements.flatMap fun statement => statement.content.annotations

/-- The annotations of blocks without lines. -/
def vacantAnnotations (manifest : Manifest) : List Text :=
  manifest.statements.flatMap fun statement =>
    if statement.content.isVacant then statement.content.annotations else []

end Manifest

namespace Block

/-- Sorting keeps the annotations of a block. -/
theorem annotations_sorted (block : Block) : block.sorted.annotations.Perm block.annotations := by
  simp only [annotations, comments_sorted, closing_sorted]
  exact ((block.lines_sorted.flatMap_right _).append_left _).append_right _

/-- The single line takes the annotations from all five places of its block. -/
theorem annotations_collapsedTo
    {block : Block}
    {line : Line}
    (collapses : block.Collapses line) :
    (block.collapsedTo line).comments.annotations.Perm block.annotations := by
  have noClosing : block.closing.filter (· ≠ []) = [] :=
    List.filter_eq_nil_iff.mpr fun remark member => by simpa using collapses.closing remark member
  simp only [annotations, Comments.annotations, collapsedTo, collapses.lines, noClosing,
    List.flatMap_singleton, List.append_nil, List.filter_append, List.filter_filter,
    Bool.and_self, List.append_assoc]
  refine .append_left _ ?_
  -- There is at most one comment behind: that of the block or that of the line.
  rcases collapses.trailing with noneBehind | noneBehind
  · simp [noneBehind]
  · simpa [noneBehind] using List.perm_append_comm

end Block

namespace Content

/-- Sorting keeps the annotations of a statement. -/
theorem annotations_sorted (content : Content) :
    content.sorted.annotations.Perm content.annotations := by
  cases content with
  | directive verb line => exact .refl _
  | remark comments => exact .refl _
  | block group => exact group.annotations_sorted

/-- Sorting makes no block vacant. -/
theorem isVacant_sorted (content : Content) : content.sorted.isVacant = content.isVacant := by
  cases content with
  | directive verb line => rfl
  | remark comments => rfl
  | block group =>
      rw [Bool.eq_iff_iff]
      simp only [sorted, isVacant, List.isEmpty_iff]
      exact ⟨fun noLine => List.nil_perm.mp (noLine ▸ group.lines_sorted),
        fun noLine => List.perm_nil.mp (noLine ▸ group.lines_sorted)⟩

/-- Tidying keeps the annotations of a statement unless it takes the statement away. -/
theorem annotations_tidied? (content : Content) :
    (content.tidied?.elim [] annotations).Perm
      (if content.isVacant then [] else content.annotations) := by
  cases content with
  | directive verb line => exact .refl _
  | remark comments => exact .refl _
  | block group =>
      by_cases noLine : group.lines = []
      · simp [tidied?, isVacant, noLine]
      · cases collapsed : group.collapsed? with
        | none => simp [tidied?, isVacant, noLine, collapsed]
        | some single =>
            obtain ⟨line, collapses, rfl⟩ := Block.collapsed?_eq_some_iff.mp collapsed
            simpa [tidied?, isVacant, noLine, collapsed, annotations] using
              Block.annotations_collapsedTo collapses

end Content

namespace Manifest

/-- Sorting keeps the annotations of a manifest. -/
theorem annotations_sorted (manifest : Manifest) :
    manifest.sorted.annotations.Perm manifest.annotations := by
  simp only [annotations, sorted, List.flatMap_map]
  exact .flatMap_left _ fun statement _ => statement.content.annotations_sorted

/-- Sorting keeps the annotations of vacant blocks. -/
theorem vacantAnnotations_sorted (manifest : Manifest) :
    manifest.sorted.vacantAnnotations.Perm manifest.vacantAnnotations := by
  simp only [vacantAnnotations, sorted, List.flatMap_map, Content.isVacant_sorted]
  refine .flatMap_left _ fun statement _ => ?_
  split
  · exact statement.content.annotations_sorted
  · exact .refl _

/-- Tidying loses the annotations of blocks without lines and no others. -/
theorem annotations_tidied (manifest : Manifest) :
    (manifest.tidied.annotations ++ manifest.vacantAnnotations).Perm manifest.annotations := by
  have ofStatement : ∀ content : Content,
      (content.tidied?.elim [] Content.annotations ++
          if content.isVacant then content.annotations else []).Perm content.annotations := by
    intro content
    refine (content.annotations_tidied?.append_right _).trans ?_
    cases content.isVacant <;> simp
  rw [annotations, flatMap_tidied]
  exact (List.flatMap_append_perm _ _ _).trans
    (.flatMap_left _ fun statement _ => ofStatement statement.content)

/--
Sorting and then tidying keeps all directives with their arguments and all annotations but those of
blocks without lines, and tidying again changes nothing.  This holds of every manifest, and so of
each that revisions of a manifest that was read can lead to.
-/
theorem directives_and_annotations_canonical (manifest : Manifest) :
    (manifest.sorted.tidied.directives.map Directive.plain).Perm
        (manifest.directives.map Directive.plain) ∧
      (manifest.sorted.tidied.annotations ++ manifest.vacantAnnotations).Perm manifest.annotations ∧
      manifest.sorted.tidied.tidied = manifest.sorted.tidied := by
  refine ⟨?_, ?_, tidied_of_areCanonical manifest.areCanonical_canonical⟩
  · rw [plain_tidied]
    exact manifest.directives_sorted.map _
  · calc
      (manifest.sorted.tidied.annotations ++ manifest.vacantAnnotations).Perm
          (manifest.sorted.tidied.annotations ++ manifest.sorted.vacantAnnotations) :=
        manifest.vacantAnnotations_sorted.symm.append_left _
      List.Perm _ manifest.sorted.annotations := manifest.sorted.annotations_tidied
      List.Perm _ manifest.annotations := manifest.annotations_sorted

/-- A block without lines is taken away with the annotation above it. -/
example :
    let block : Block :=
      { verb := .require, lines := [], comments := { before := ["// gone".toList] } }
    let manifest : Manifest := { statements := [{ content := .block block, blankBefore := false }] }
    manifest.vacantAnnotations = ["// gone".toList] ∧ manifest.canonical.annotations = [] := by
  decide +kernel

end Manifest

end ModuleUpdate
