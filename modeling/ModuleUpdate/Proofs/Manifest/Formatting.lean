import ModuleUpdate.Proofs.Sorting
import ModuleUpdate.Proofs.Version.Order
import ModuleUpdate.Proofs.Manifest.Settling
import ModuleUpdate.Proofs.Manifest.Revisions

namespace ModuleUpdate

/-!
# Formatting twice

A canonical manifest is one that sorting and tidying leave as it is.  The canonical form of a
manifest is canonical, and it stays so when its statements settle on the way through a text.  So
formatting a manifest again, or formatting what its text is read as, gives the same text.
-/

namespace Token

/-- Swapping two values swaps how they compare. -/
theorem valueOrder_swap (left right : Text) :
    valueOrder left right = (valueOrder right left).swap := by
  simp only [valueOrder]
  by_cases bothValid : Version.isValid left ∧ Version.isValid right
  · rw [if_pos bothValid, if_pos bothValid.symm, Ordering.swap_then, ← Version.order_swap,
      ← Std.OrientedOrd.eq_swap]
  · rw [if_neg bothValid, if_neg fun valid => bothValid valid.symm]
    exact Std.OrientedOrd.eq_swap

/-- Swapping two rows swaps how they compare. -/
theorem rowOrder_swap (left right : List Token) :
    rowOrder left right = (rowOrder right left).swap := by
  induction left generalizing right with
  | nil => cases right <;> rfl
  | cons first following inductionHypothesis =>
      cases right with
      | nil => rfl
      | cons other others =>
          simp only [rowOrder, Ordering.swap_then]
          rw [← valueOrder_swap, ← inductionHypothesis]

end Token

/-- Of two lines at most one precedes the other. -/
theorem Line.isAsymmetric_precedes : IsAsymmetric Line.precedes := by
  intro left right isBefore
  simp only [precedes] at isBefore ⊢
  rw [Token.rowOrder_swap, Ordering.isLT_swap]
  cases order : Token.rowOrder left.arguments right.arguments <;> simp_all

/-- A block that sorting and tidying leave as it is. -/
structure Block.IsCanonical (block : Block) : Prop where
  isSorted : block.verb.isSorted = true → IsSorted Line.precedes block.lines
  notEmpty : block.lines ≠ []
  needed : ∀ line, ¬block.Collapses line

/-- A statement that sorting and tidying leave as it is. -/
def Content.IsCanonical : Content → Prop
  | .block group => group.IsCanonical
  | _ => True

/-- Statements that sorting and tidying leave as they are. -/
def Statement.AreCanonical (statements : List Statement) : Prop :=
  ∀ statement ∈ statements, statement.content.IsCanonical

namespace Block

/-- A block stays a block where it does not collapse to a line of its own. -/
theorem collapsed?_eq_none_iff {block : Block} :
    block.collapsed? = none ↔ ∀ line, ¬block.Collapses line := by
  rw [Option.eq_none_iff_forall_ne_some]
  constructor
  · intro nothing line collapses
    exact nothing _ (collapsed?_eq_some_iff.mpr ⟨line, collapses, rfl⟩)
  · intro nothing single collapsed
    obtain ⟨line, collapses, _⟩ := collapsed?_eq_some_iff.mp collapsed
    exact nothing line collapses

/-- Leaving out numbers changes nothing that tidying looks at. -/
theorem collapses_unnumbered_iff {block : Block} :
    (∃ line, block.unnumbered.Collapses line) ↔ ∃ line, block.Collapses line := by
  constructor
  · rintro ⟨_, same, closing, trailing⟩
    obtain ⟨line, rest, lines, rfl, noRest⟩ := List.map_eq_cons_iff.mp same
    rw [List.map_eq_nil_iff] at noRest
    exact ⟨line, noRest ▸ lines, closing, trailing⟩
  · rintro ⟨line, same, closing, trailing⟩
    exact ⟨line.unnumbered, by simp [unnumbered, same], closing, trailing⟩

end Block

namespace Content

/-- Sorting leaves a canonical statement as it is. -/
theorem sorted_of_isCanonical
    {content : Content}
    (isCanonical : content.IsCanonical) :
    content.sorted = content := by
  cases content with
  | directive verb line => rfl
  | remark comments => rfl
  | block group =>
      simp only [sorted, Block.sorted]
      split
      · next verbSorted => rw [stableSort_of_isSorted (isCanonical.isSorted verbSorted)]
      · rfl

/-- Tidying leaves a canonical statement as it is. -/
theorem tidied?_of_isCanonical
    {content : Content}
    (isCanonical : content.IsCanonical) :
    content.tidied? = some content := by
  cases content with
  | directive verb line => rfl
  | remark comments => rfl
  | block group =>
      have notCollapsed := Block.collapsed?_eq_none_iff.mpr isCanonical.needed
      simp [tidied?, isCanonical.notEmpty, notCollapsed]

/-- What is left of a sorted statement is canonical. -/
theorem isCanonical_tidied?
    {content tidied : Content}
    (kept : content.sorted.tidied? = some tidied) :
    tidied.IsCanonical := by
  cases content with
  | directive verb line =>
      cases kept
      trivial
  | remark comments =>
      cases kept
      trivial
  | block group =>
      simp only [sorted, tidied?] at kept
      split at kept
      · cases kept
      · next notEmpty =>
          split at kept
          · cases kept
            trivial
          · next notCollapsed =>
              cases kept
              refine ⟨?_, notEmpty, Block.collapsed?_eq_none_iff.mp notCollapsed⟩
              simp only [Block.sorted]
              split
              · exact fun _ => isSorted_stableSort Line.isAsymmetric_precedes group.lines
              · next notSorted => exact fun verbSorted => absurd verbSorted notSorted

/-- Comments above a statement leave it canonical. -/
theorem isCanonical_withLead
    {content : Content}
    (isCanonical : content.IsCanonical)
    (lead : List Text) :
    (content.withLead lead).IsCanonical := by
  cases content with
  | directive verb line => trivial
  | remark comments => trivial
  | block group =>
      exact
        ⟨isCanonical.isSorted, isCanonical.notEmpty, fun line collapses =>
          isCanonical.needed line ⟨collapses.lines, collapses.closing, collapses.trailing⟩⟩

/-- Whether a statement is canonical does not depend on line numbers. -/
theorem isCanonical_unnumbered_iff {content : Content} :
    content.unnumbered.IsCanonical ↔ content.IsCanonical := by
  cases content with
  | directive verb line => exact .rfl
  | remark comments => exact .rfl
  | block group =>
      have sameOrder :
          IsSorted Line.precedes group.unnumbered.lines ↔ IsSorted Line.precedes group.lines :=
        List.isChain_map Line.unnumbered
      have sameNeed :
          (¬∃ line, group.unnumbered.Collapses line) ↔ ¬∃ line, group.Collapses line :=
        not_congr Block.collapses_unnumbered_iff
      rw [not_exists, not_exists] at sameNeed
      constructor
      · rintro ⟨isSorted, notEmpty, needed⟩
        refine ⟨fun verbSorted => sameOrder.mp (isSorted verbSorted), ?_, sameNeed.mp needed⟩
        exact fun empty => notEmpty (by simp [Block.unnumbered, empty])
      · rintro ⟨isSorted, notEmpty, needed⟩
        refine ⟨fun verbSorted => sameOrder.mpr (isSorted verbSorted), ?_, sameNeed.mpr needed⟩
        simpa [Block.unnumbered] using notEmpty

end Content

namespace Draft

/-- The statements read so far are canonical. -/
private def IsCanonical (draft : Draft) : Prop :=
  Statement.AreCanonical draft.statements

/-- The statements of a canonical draft are canonical. -/
private theorem areCanonical_flushed
    {draft : Draft}
    (isCanonical : draft.IsCanonical) :
    Statement.AreCanonical draft.flushed := by
  simp only [flushed]
  split
  · exact isCanonical
  · intro statement member
    rcases List.mem_append.mp member with earlier | isNew
    · exact isCanonical statement earlier
    · rw [List.mem_singleton] at isNew
      rw [isNew]
      trivial

/-- Placing a canonical statement keeps a draft canonical. -/
private theorem isCanonical_place
    {draft : Draft}
    (isCanonical : draft.IsCanonical)
    {content : Content}
    (placed : content.IsCanonical) :
    (draft.place content).IsCanonical := by
  have behind :
      Statement.AreCanonical
        (draft.statements ++
          [{ content := content.withLead draft.pending, blankBefore := draft.blankBefore }]) := by
    intro statement member
    rcases List.mem_append.mp member with earlier | isNew
    · exact isCanonical statement earlier
    · rw [List.mem_singleton] at isNew
      rw [isNew]
      exact Content.isCanonical_withLead placed draft.pending
  cases content with
  | directive verb line => exact behind
  | block group => exact behind
  | remark comments => exact isCanonical

private theorem isCanonical_placeStatement
    {draft : Draft}
    (isCanonical : draft.IsCanonical)
    {statement : Statement}
    (placed : statement.content.IsCanonical) :
    (draft.placeStatement statement).IsCanonical := by
  simp only [placeStatement]
  split
  · have remarked : (draft.addRemark none).IsCanonical := areCanonical_flushed isCanonical
    exact isCanonical_place remarked placed
  · exact isCanonical_place isCanonical placed

/-- Placing canonical statements one by one keeps a draft canonical. -/
private theorem isCanonical_foldl
    {draft : Draft}
    (isCanonical : draft.IsCanonical)
    {statements : List Statement}
    (placed : Statement.AreCanonical statements) :
    (statements.foldl placeStatement draft).IsCanonical := by
  induction statements generalizing draft with
  | nil => exact isCanonical
  | cons statement following inductionHypothesis =>
      have first := isCanonical_placeStatement isCanonical (placed statement (by simp))
      exact inductionHypothesis first fun other member => placed other (by simp [member])

end Draft

/-- Whether statements are canonical does not depend on line numbers. -/
theorem Statement.areCanonical_unnumbered_iff {statements : List Statement} :
    AreCanonical (statements.map unnumbered) ↔ AreCanonical statements := by
  simp only [AreCanonical, List.forall_mem_map]
  exact forall₂_congr fun statement _ => Content.isCanonical_unnumbered_iff

/-- Canonical statements are still canonical once they are settled. -/
theorem Statement.areCanonical_settled
    {statements : List Statement}
    (areCanonical : AreCanonical statements) :
    AreCanonical (settled statements) := by
  cases statements with
  | nil => exact areCanonical
  | cons first following =>
      have empty : Draft.IsCanonical {} := fun _ member => nomatch member
      exact Draft.areCanonical_flushed
        (Draft.isCanonical_foldl (Draft.isCanonical_place empty (areCanonical first (by simp)))
          fun other member => areCanonical other (by simp [member]))

namespace Manifest

/-- The canonical form consists of canonical statements. -/
theorem areCanonical_canonical (manifest : Manifest) :
    Statement.AreCanonical manifest.canonical.statements := by
  intro statement member
  obtain ⟨before, isBefore, step⟩ := List.mem_filterMap.mp member
  obtain ⟨content, kept, rfl⟩ := Option.map_eq_some_iff.mp step
  obtain ⟨original, _, rfl⟩ := List.mem_map.mp isBefore
  exact Content.isCanonical_tidied? kept

/-- Sorting leaves canonical statements as they are. -/
theorem sorted_of_areCanonical
    {manifest : Manifest}
    (areCanonical : Statement.AreCanonical manifest.statements) :
    manifest.sorted = manifest := by
  have unchanged : ∀ statement ∈ manifest.statements,
      ({ statement with content := statement.content.sorted } : Statement) = statement := by
    intro statement member
    rw [Content.sorted_of_isCanonical (areCanonical statement member)]
  simp only [Manifest.sorted, List.map_congr_left unchanged, List.map_id']

/-- Tidying leaves canonical statements as they are. -/
theorem tidied_of_areCanonical
    {manifest : Manifest}
    (areCanonical : Statement.AreCanonical manifest.statements) :
    manifest.tidied = manifest := by
  have unchanged : ∀ statement ∈ manifest.statements,
      (statement.content.tidied?.map fun content =>
        ({ statement with content } : Statement)) = some statement := by
    intro statement member
    rw [Content.tidied?_of_isCanonical (areCanonical statement member), Option.map_some]
  rw [tidied, List.filterMap_congr unchanged, List.filterMap_some]

/-- Canonical statements are their own canonical form. -/
theorem canonical_of_areCanonical
    {manifest : Manifest}
    (areCanonical : Statement.AreCanonical manifest.statements) :
    manifest.canonical = manifest := by
  rw [canonical, sorted_of_areCanonical areCanonical, tidied_of_areCanonical areCanonical]

/-- The canonical form is its own canonical form. -/
theorem canonical_canonical (manifest : Manifest) :
    manifest.canonical.canonical = manifest.canonical :=
  canonical_of_areCanonical manifest.areCanonical_canonical

/-- The formatted text of a sound manifest is read as a canonical manifest with that text. -/
theorem exists_reread
    {manifest : Manifest}
    (sound : manifest.IsSound) :
    ∃ again,
      Manifest.ofText manifest.format = .ok again ∧
        again.directives.map (Directive.bare ∘ Directive.unnumbered) =
            manifest.canonical.directives.map (Directive.bare ∘ Directive.unnumbered) ∧
          again.canonical = again ∧ again.toText = manifest.format := by
  have canonicalSound := isSound_canonical sound
  obtain ⟨again, read, settled⟩ := exists_settled canonicalSound
  have areCanonical : Statement.AreCanonical again.statements := by
    have areSettled := Statement.areCanonical_settled manifest.areCanonical_canonical
    rw [← Statement.areCanonical_unnumbered_iff, settled, Statement.areCanonical_unnumbered_iff]
    exact areSettled
  refine
    ⟨again, read, directives_of_settled settled, canonical_of_areCanonical areCanonical, ?_⟩
  calc
    again.toText = Statement.print (again.statements.map Statement.unnumbered) :=
      (Statement.print_unnumbered again.statements).symm
    _ = Statement.print (Statement.settled manifest.canonical.statements) := by
      rw [settled, Statement.print_unnumbered]
    _ = manifest.format := Statement.print_settled canonicalSound.readable

/-- The formatted text of a sound manifest is read as a manifest with the same formatted text. -/
theorem format_reread
    {manifest : Manifest}
    (sound : manifest.IsSound) :
    ∃ again, Manifest.ofText manifest.format = .ok again ∧ again.format = manifest.format := by
  obtain ⟨again, read, _, canonical, sameText⟩ := exists_reread sound
  refine ⟨again, read, ?_⟩
  rw [format, canonical, sameText]

end Manifest

/--
However a manifest that was read is revised, its formatted text is read again, formatting what was
read gives the same text, and so does formatting the formatted manifest.
-/
theorem format_revised
    {text : Text}
    {manifest : Manifest}
    (read : Manifest.ofText text = .ok manifest)
    {revisions : List Manifest.Revision}
    (oneLine : ∀ revision ∈ revisions, revision.IsOneLine) :
    (∃ again,
      Manifest.ofText (manifest.revised revisions).format = .ok again ∧
        again.format = (manifest.revised revisions).format) ∧
      (manifest.revised revisions).canonical.format = (manifest.revised revisions).format := by
  have sound := Manifest.isSound_revised (Manifest.isSound_ofText read) oneLine
  refine ⟨Manifest.format_reread sound, ?_⟩
  rw [Manifest.format, Manifest.canonical_canonical]
  rfl

/-- A comment that stands free, a requirement behind it, and a block of two more. -/
private def looseText : Text :=
  ("// loose\n\nrequire example.com/b v1.0.0\n" ++
    "require (\n\texample.com/c v1.1.0\n\n\texample.com/a v1.0.0 // indirect\n)\n").toList

/-- Without the requirement behind the comment, the comment joins the block. -/
private def looseRevisions : List Manifest.Revision :=
  [.drop "example.com/b".toList, .require "a b".toList "v1.2.0".toList,
    .markIndirect "example.com/c".toList true, .sort]

theorem format_revised_loose :
    ∃ manifest again,
      Manifest.ofText looseText = .ok manifest ∧
        Manifest.ofText (manifest.revised looseRevisions).format = .ok again ∧
        again.format = (manifest.revised looseRevisions).format := by
  cases read : Manifest.ofText looseText with
  | error error =>
      have isRead : (Manifest.ofText looseText).isOk = true := by decide +kernel
      rw [read] at isRead
      cases isRead
  | ok manifest =>
      have oneLine : ∀ revision ∈ looseRevisions, revision.IsOneLine := by decide
      obtain ⟨⟨again, reread, sameText⟩, _⟩ := format_revised read oneLine
      exact ⟨manifest, again, rfl, reread, sameText⟩

end ModuleUpdate
