import Mathlib.Data.List.Perm.Basic
import ModuleUpdate.Proofs.Manifest.Directives

namespace ModuleUpdate

/-!
# Canonical manifests say the same

Sorting permutes the directives of blocks, and only of those whose verb asks for it.  Tidying
takes away blocks without directives and parentheses around single ones.  So what a manifest says
with a verb is only permuted, and the first directive with a verb that stands alone stays first.
-/

namespace Content

/-- Sorting keeps the directives of a statement, in some order. -/
theorem directives_sorted (content : Content) :
    content.sorted.directives.Perm content.directives := by
  cases content with
  | directive verb line => exact .refl _
  | remark comments => exact .refl _
  | block group =>
      simp only [sorted, Block.sorted]
      by_cases isSorted : group.verb.isSorted
      · simp only [isSorted, if_true, directives]
        exact (stableSort_perm _ _).map _
      · simp only [isSorted]
        exact .refl _

/-- Sorting keeps the order of directives with a verb that is not sorted. -/
theorem filter_sorted
    {verb : Verb}
    (notSorted : verb.isSorted = false)
    (content : Content) :
    (content.sorted.directives.filter fun directive => directive.verb = verb) =
      content.directives.filter fun directive => directive.verb = verb := by
  cases content with
  | directive verb line => rfl
  | remark comments => rfl
  | block group =>
      simp only [sorted, Block.sorted]
      by_cases isSorted : group.verb.isSorted
      · have otherVerb : group.verb ≠ verb := by
          rintro rfl
          rw [notSorted] at isSorted
          cases isSorted
        have nothing : ∀ lines : List Line,
            ((lines.map fun line => ({ verb := group.verb, line } : Directive)).filter
              fun directive => directive.verb = verb) = [] := by
          intro lines
          simp [List.filter_eq_nil_iff, otherVerb]
        simp only [isSorted, if_true, directives]
        rw [nothing, nothing]
      · simp [isSorted]

/-- Tidying keeps verbs and arguments. -/
theorem directives_tidied? (content : Content) :
    (content.tidied?.elim [] directives).map Directive.plain =
      content.directives.map Directive.plain := by
  cases content with
  | directive verb line => rfl
  | remark comments => rfl
  | block group =>
      unfold tidied?
      dsimp only
      by_cases empty : group.lines = []
      · simp [empty, directives]
      · rw [if_neg empty]
        cases collapsed : group.collapsed? with
        | none => rfl
        | some single =>
            obtain ⟨line, collapses, rfl⟩ := Block.collapsed?_eq_some_iff.mp collapsed
            simp [directives, collapses.lines, Directive.plain, Block.collapsedTo]

end Content

namespace Manifest

variable {manifest : Manifest}

/-- What is read off the statements of a tidied manifest. -/
theorem flatMap_tidied
    (read : Content → List α)
    (manifest : Manifest) :
    (manifest.tidied.statements.flatMap fun statement => read statement.content) =
      manifest.statements.flatMap fun statement => statement.content.tidied?.elim [] read := by
  obtain ⟨statements⟩ := manifest
  unfold tidied
  dsimp only
  induction statements with
  | nil => rfl
  | cons statement following inductionHypothesis =>
      rw [List.flatMap_cons, ← inductionHypothesis]
      cases kept : statement.content.tidied? with
      | none => simp [kept]
      | some content => simp [kept]

/-- Tidying keeps the directives of the statements that are left. -/
theorem directives_tidied (manifest : Manifest) :
    manifest.tidied.directives =
      manifest.statements.flatMap fun statement =>
        statement.content.tidied?.elim [] Content.directives :=
  manifest.flatMap_tidied Content.directives

/-- Tidying keeps the verbs and the arguments of all directives in order. -/
theorem plain_tidied (manifest : Manifest) :
    manifest.tidied.directives.map Directive.plain =
      manifest.directives.map Directive.plain := by
  rw [directives_tidied, directives, List.map_flatMap, List.map_flatMap]
  exact List.flatMap_congr fun statement _ => Content.directives_tidied? statement.content

/-- Tidying keeps what is said with each verb. -/
theorem said_tidied (manifest : Manifest) (verb : Verb) :
    manifest.tidied.said verb = manifest.said verb :=
  said_congr manifest.plain_tidied verb

/-- Sorting keeps the directives of a manifest, in some order. -/
theorem directives_sorted (manifest : Manifest) :
    manifest.sorted.directives.Perm manifest.directives := by
  simp only [sorted, directives]
  rw [List.flatMap_map]
  exact .flatMap_left _ fun statement _ => statement.content.directives_sorted

/-- Sorting keeps what is said with each verb, in some order. -/
theorem said_sorted (manifest : Manifest) (verb : Verb) :
    (manifest.sorted.said verb).Perm (manifest.said verb) :=
  (manifest.directives_sorted.filter _).map _

/-- Where blocks of a verb are not sorted, what is said with it keeps its order. -/
theorem said_sorted_of_not_isSorted
    {verb : Verb}
    (notSorted : verb.isSorted = false)
    (manifest : Manifest) :
    manifest.sorted.said verb = manifest.said verb := by
  simp only [said, sorted, directives]
  rw [List.flatMap_map, List.filter_flatMap, List.filter_flatMap]
  congr 1
  apply List.flatMap_congr
  exact fun statement _ => Content.filter_sorted notSorted statement.content

/-- The canonical form of a manifest says the same in another order. -/
theorem said_canonical (manifest : Manifest) (verb : Verb) :
    (manifest.canonical.said verb).Perm (manifest.said verb) := by
  simp only [canonical]
  rw [said_tidied]
  exact said_sorted manifest verb

/-- The canonical form keeps the order of what is said with a verb that is not sorted. -/
theorem said_canonical_of_not_isSorted
    {verb : Verb}
    (notSorted : verb.isSorted = false)
    (manifest : Manifest) :
    manifest.canonical.said verb = manifest.said verb := by
  simp only [canonical]
  rw [said_tidied, said_sorted_of_not_isSorted notSorted]

theorem isConsistent_sorted (consistent : manifest.IsConsistent) : manifest.sorted.IsConsistent :=
  isConsistent_of_said consistent manifest.said_sorted

theorem isConsistent_tidied (consistent : manifest.IsConsistent) : manifest.tidied.IsConsistent :=
  isConsistent_of_said consistent fun verb => .of_eq (manifest.said_tidied verb)

theorem isSound_sorted (sound : manifest.IsSound) : manifest.sorted.IsSound :=
  isSound_of_said sound manifest.said_sorted (areReadable_sorted sound.readable)

theorem isSound_tidied (sound : manifest.IsSound) : manifest.tidied.IsSound :=
  isSound_of_said sound (fun verb => .of_eq (manifest.said_tidied verb))
    (areReadable_tidied sound.readable)

/-- The canonical form of a sound manifest is sound. -/
theorem isSound_canonical (sound : manifest.IsSound) : manifest.canonical.IsSound :=
  isSound_tidied (isSound_sorted sound)

/-- The formatted text of a sound manifest is read as a manifest that says the same. -/
theorem exists_formatted (sound : manifest.IsSound) :
    ∃ again,
      Manifest.ofText manifest.format = .ok again ∧
        ∀ verb, again.said verb = manifest.canonical.said verb := by
  obtain ⟨again, reread, sameDirectives⟩ := ofText_toText (isSound_canonical sound)
  exact ⟨again, reread, said_of_reread sameDirectives⟩

end Manifest

end ModuleUpdate
