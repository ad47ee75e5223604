import ModuleUpdate.Proofs.Manifest.Entries
import ModuleUpdate.Proofs.Manifest.Marking

namespace ModuleUpdate

/-!
# The effect of marking

Setting the marker takes effect in one step, with one exception: taking it away takes one marker
away, so a comment that starts with two of them stays marked.  The clauses behind the markers stay
in any case, and where the marker took effect, setting it again changes nothing.
-/

namespace Clauses

/-- The clauses behind the markers that a comment starts with. -/
def behindMarkers (clauses : Clauses) : List Text :=
  clauses.items.dropWhile (· == indirectMarker)

/-- A comment that stays marked when its marker is taken away. -/
def StaysMarked (comment : Option Text) (indirect : Bool) : Prop :=
  indirect = false ∧ IsDoublyMarked comment

instance (comment : Option Text) (indirect : Bool) : Decidable (StaysMarked comment indirect) :=
  inferInstanceAs (Decidable (_ ∧ _))

variable {clauses : Clauses} {indirect : Bool}

/-- The marker is kept as it is, put in front of the clauses, or taken from their front. -/
theorem withIndirect?_cases (clauses : Clauses) (indirect : Bool) :
    clauses.isIndirect = indirect ∧ clauses.withIndirect? indirect = none ∨
      (indirect = true ∧
        clauses.isIndirect = false ∧
          clauses.withIndirect? true = some { items := indirectMarker :: clauses.items }) ∨
        indirect = false ∧
          ∃ others,
            clauses.items = indirectMarker :: others ∧
              clauses.withIndirect? false = some { items := others } := by
  by_cases same : clauses.isIndirect = indirect
  · exact .inl ⟨same, by rw [withIndirect?, if_pos same]⟩
  · cases indirect with
    | true =>
        rw [Bool.not_eq_true] at same
        exact .inr (.inl ⟨rfl, same, by simp [withIndirect?, same]⟩)
    | false =>
        rw [Bool.not_eq_false] at same
        have isFirst : clauses.items.head? = some indirectMarker := by
          simpa [isIndirect] using same
        obtain ⟨others, split⟩ := List.head?_eq_some_iff.mp isFirst
        exact .inr (.inr ⟨rfl, others, split, by simp [withIndirect?, same, split]⟩)

theorem isClause_of_withIndirect?
    {changed : Clauses}
    (areClauses : ∀ item ∈ clauses.items, IsClause item)
    (isChanged : clauses.withIndirect? indirect = some changed) :
    ∀ item ∈ changed.items, IsClause item := by
  intro item member
  rcases clauses.withIndirect?_cases indirect with
    ⟨_, kept⟩ | ⟨rfl, _, added⟩ | ⟨rfl, others, split, taken⟩
  · rw [kept] at isChanged
    cases isChanged
  · rw [added] at isChanged
    cases isChanged
    rcases List.mem_cons.mp member with rfl | inClauses
    · exact isClause_indirectMarker
    · exact areClauses item inClauses
  · rw [taken] at isChanged
    cases isChanged
    exact areClauses item (by simp [split, member])

/-- The clauses of a comment with the marker set are its clauses with the marker set. -/
theorem ofComment_markComment
    (comment : Option Text)
    (indirect : Bool) :
    ofComment (markComment comment indirect) =
      ((ofComment comment).withIndirect? indirect).getD (ofComment comment) := by
  simp only [markComment]
  cases changed : (ofComment comment).withIndirect? indirect with
  | none => rfl
  | some clauses =>
      have areClauses : ∀ item ∈ (ofComment comment).items, IsClause item :=
        fun _ => isClause_of_mem_ofComment
      exact ofComment_toComment (isClause_of_withIndirect? areClauses changed)

/-- Setting the marker keeps the clauses behind the markers. -/
theorem behindMarkers_markComment
    (comment : Option Text)
    (indirect : Bool) :
    (ofComment (markComment comment indirect)).behindMarkers =
      (ofComment comment).behindMarkers := by
  rw [ofComment_markComment]
  rcases (ofComment comment).withIndirect?_cases indirect with
    ⟨_, kept⟩ | ⟨rfl, _, added⟩ | ⟨rfl, others, split, taken⟩
  · rw [kept, Option.getD_none]
  · rw [added]
    simp [behindMarkers]
  · rw [taken]
    simp [behindMarkers, split]

/-- A comment is marked as it was asked for, unless one of two markers is left. -/
theorem isIndirect_markComment_iff
    (comment : Option Text)
    (indirect : Bool) :
    (ofComment (markComment comment indirect)).isIndirect = indirect ↔
      ¬StaysMarked comment indirect := by
  rw [ofComment_markComment]
  rcases (ofComment comment).withIndirect?_cases indirect with
    ⟨same, kept⟩ | ⟨rfl, _, added⟩ | ⟨rfl, others, split, taken⟩
  · rw [kept, Option.getD_none]
    refine iff_of_true same ?_
    rintro ⟨rfl, others, split⟩
    rw [isIndirect, split] at same
    cases same
  · rw [added]
    simp [isIndirect, StaysMarked]
  · rw [taken, Option.getD_some]
    have twice : StaysMarked comment false ↔ others.head? = some indirectMarker := by
      rw [List.head?_eq_some_iff]
      simp [StaysMarked, IsDoublyMarked, split]
    rw [twice, isIndirect, ← Bool.not_eq_true, beq_iff_eq]

/-- Setting the marker changes a comment exactly where it is not marked so. -/
theorem markComment_eq_self_iff
    (comment : Option Text)
    (indirect : Bool) :
    markComment comment indirect = comment ↔ (ofComment comment).isIndirect = indirect := by
  have clauses := ofComment_markComment comment indirect
  -- The marker that comes or goes is one clause more or less.
  have changes :
      ∀ items,
        items.length ≠ (ofComment comment).items.length →
          (ofComment comment).withIndirect? indirect = some { items } →
            markComment comment indirect ≠ comment := by
    intro items differ isChanged unchanged
    rw [unchanged, isChanged, Option.getD_some] at clauses
    exact differ (congrArg (fun clauses => clauses.items.length) clauses.symm)
  rcases (ofComment comment).withIndirect?_cases indirect with
    ⟨same, kept⟩ | ⟨rfl, unmarked, added⟩ | ⟨rfl, others, split, taken⟩
  · exact iff_of_true (by rw [markComment, kept]) same
  · exact iff_of_false (changes _ (by simp) added) (by simp [unmarked])
  · exact iff_of_false (changes _ (by simp [split]) taken) (by simp [isIndirect, split])

end Clauses

namespace Manifest

variable {manifest changed : Manifest} {path : Text}

/-- Where no module is required twice, the requirement of a module is the entry with its path. -/
theorem requirement?_eq_some_of_mem
    (consistent : manifest.IsConsistent)
    {entry : Requirement}
    (member : entry ∈ manifest.requirements) :
    manifest.requirement? entry.path = some entry := by
  obtain ⟨front, behind, split⟩ := List.mem_iff_append.mp member
  have distinct := consistent.distinct
  rw [← map_path_requirements, split, List.map_append, List.map_cons, List.nodup_append] at distinct
  rw [requirement?, List.find?_eq_some_iff_append]
  refine ⟨beq_self_eq_true _, front, behind, split, fun other inFront => ?_⟩
  have differs := distinct.2.2 other.path (List.mem_map_of_mem inFront) entry.path
    List.mem_cons_self
  simpa using differs

/-- A module is required by one directive of a consistent manifest. -/
theorem eq_of_requires
    (consistent : manifest.IsConsistent)
    {first second : Directive}
    (isFirst : first ∈ manifest.directives)
    (isSecond : second ∈ manifest.directives)
    (firstRequires : first.requires path = true)
    (secondRequires : second.requires path = true) :
    first = second := by
  by_contra differ
  have : Std.Symm fun earlier later : Directive =>
      earlier.requires path = false ∨ later.requires path = false :=
    ⟨fun _ _ => Or.symm⟩
  have apart := (pairwise_requires consistent path).forall isFirst isSecond differ
  simp [firstRequires, secondRequires] at apart

/-- The requirement that is marked is the one that stands in the manifest, with a new comment. -/
theorem exists_marked
    (consistent : manifest.IsConsistent)
    {directive : Directive}
    (member : directive ∈ manifest.directives)
    (requires : directive.requires path = true)
    (indirect : Bool) :
    ∃ changed entry,
      manifest.markIndirect? path indirect = some changed ∧
        changed.requirement? path = some entry ∧
        entry.indirect =
          (Clauses.ofComment
            (Clauses.markComment directive.line.comments.trailing indirect)).isIndirect := by
  cases found : manifest.markIndirect? path indirect with
  | none =>
      have absent := not_requires_of_changeRequirement? found member
      rw [requires] at absent
      cases absent
  | some changed =>
      obtain ⟨front, line, behind, before, isRequired, after⟩ :=
        directives_changeRequirement? found
      have isLine : { verb := .require, line } ∈ manifest.directives := by simp [before]
      have same := eq_of_requires consistent member isLine requires
        (by simp [Directive.requires, isRequired])
      have isChanged :
          { verb := .require, line := line.withIndirect indirect } ∈ changed.directives := by
        simp [after]
      have requiresStill :
          Directive.requires path { verb := .require, line := line.withIndirect indirect } =
            true := by
        simpa [Directive.requires, Line.requires, Line.withIndirect] using isRequired
      obtain ⟨entry, states, rfl⟩ := Directive.requires_iff_requirement?.mp requiresStill
      have isEntry : entry ∈ changed.requirements :=
        List.mem_filterMap.mpr ⟨_, isChanged, states⟩
      refine
        ⟨changed, entry, rfl,
          requirement?_eq_some_of_mem (isConsistent_withIndirect consistent found) isEntry, ?_⟩
      obtain ⟨pair, _, rfl⟩ := Option.map_eq_some_iff.mp states
      rw [same]
      rfl

/--
Setting the marker of a comment takes effect, and setting it again changes nothing, unless one of
two markers is left; the clauses behind the markers stay.  The requirement of a module is indirect
afterwards as it was asked for, with the same exception.
-/
theorem marking_takes_effect_iff
    (comment : Option Text)
    (indirect : Bool) :
    ((Clauses.ofComment (Clauses.markComment comment indirect)).isIndirect = indirect ↔
        ¬Clauses.StaysMarked comment indirect) ∧
      (Clauses.ofComment (Clauses.markComment comment indirect)).behindMarkers =
        (Clauses.ofComment comment).behindMarkers ∧
      (Clauses.markComment (Clauses.markComment comment indirect) indirect =
          Clauses.markComment comment indirect ↔
        ¬Clauses.StaysMarked comment indirect) ∧
      ∀ {text : Text} {read : Manifest} (revisions : List Revision) {directive : Directive}
        {path : Text},
        Manifest.ofText text = .ok read →
          directive ∈ (read.revised revisions).directives →
            directive.requires path = true →
              directive.line.comments.trailing = comment →
                ∃ changed entry,
                  (read.revised revisions).markIndirect? path indirect = some changed ∧
                    changed.requirement? path = some entry ∧
                    (entry.indirect = indirect ↔ ¬Clauses.StaysMarked comment indirect) := by
  have takesEffect := Clauses.isIndirect_markComment_iff comment indirect
  refine ⟨takesEffect, Clauses.behindMarkers_markComment comment indirect,
    (Clauses.markComment_eq_self_iff _ indirect).trans takesEffect, ?_⟩
  rintro text read revisions directive path isRead member requires rfl
  have consistent := isConsistent_revised (isSound_ofText isRead).isConsistent revisions
  obtain ⟨changed, entry, isMarked, isEntry, marker⟩ :=
    exists_marked consistent member requires indirect
  exact ⟨changed, entry, isMarked, isEntry, by rw [marker, takesEffect]⟩

/-- Two requirements, of which the first carries the marker twice and the second in vain. -/
private def repeatedText : Text :=
  ("module m.io/m\n\nrequire (\n\tm.io/a v1.0.0 // indirect; indirect ;note\n" ++
    "\tm.io/b v1.0.0 //note;; indirect\n)\n").toList

/-- Another requirement joins the two. -/
private def joiningRevisions : List Revision :=
  [.require "m.io/c".toList "v0.1.0".toList]

/-- Taking the marker of the first away has no effect, and marking the second has one. -/
theorem marking_takes_effect_iff_repeated :
    ∃ manifest first second changed changedToo entry other,
      Manifest.ofText repeatedText = .ok manifest ∧
        first ∈ (manifest.revised joiningRevisions).directives ∧
        first.line.comments.trailing = some "// indirect; indirect ;note".toList ∧
        second ∈ (manifest.revised joiningRevisions).directives ∧
        second.line.comments.trailing = some "//note;; indirect".toList ∧
        (manifest.revised joiningRevisions).markIndirect? "m.io/a".toList false = some changed ∧
        changed.requirement? "m.io/a".toList = some entry ∧ entry.indirect = true ∧
        (manifest.revised joiningRevisions).markIndirect? "m.io/b".toList true = some changedToo ∧
        changedToo.requirement? "m.io/b".toList = some other ∧ other.indirect = true := by
  have reached :
      (Manifest.ofText repeatedText).toOption.any (fun manifest =>
        (manifest.revised joiningRevisions).directives.any (fun directive =>
            directive.requires "m.io/a".toList &&
              directive.line.comments.trailing == some "// indirect; indirect ;note".toList) &&
          (manifest.revised joiningRevisions).directives.any fun directive =>
            directive.requires "m.io/b".toList &&
              directive.line.comments.trailing == some "//note;; indirect".toList) =
        true := by
    decide +kernel
  cases read : Manifest.ofText repeatedText with
  | error error =>
      rw [read] at reached
      cases reached
  | ok manifest =>
      rw [read] at reached
      simp only [Except.toOption, Option.any_some, Bool.and_eq_true, List.any_eq_true,
        beq_iff_eq] at reached
      obtain ⟨⟨first, isFirst, firstRequires, firstComment⟩,
        second, isSecond, secondRequires, secondComment⟩ := reached
      obtain ⟨_, _, _, ofFirst⟩ :=
        marking_takes_effect_iff (some "// indirect; indirect ;note".toList) false
      obtain ⟨_, _, _, ofSecond⟩ := marking_takes_effect_iff (some "//note;; indirect".toList) true
      obtain ⟨changed, entry, isMarked, isEntry, marker⟩ :=
        ofFirst joiningRevisions read isFirst firstRequires firstComment
      obtain ⟨changedToo, other, isMarkedToo, isOther, otherMarker⟩ :=
        ofSecond joiningRevisions read isSecond secondRequires secondComment
      have staysMarked :
          Clauses.StaysMarked (some "// indirect; indirect ;note".toList) false := by
        decide
      have entryMarked : entry.indirect = true := by
        rw [← Bool.not_eq_false, marker]
        exact not_not_intro staysMarked
      exact
        ⟨manifest, first, second, changed, changedToo, entry, other, rfl, isFirst, firstComment,
          isSecond, secondComment, isMarked, isEntry, entryMarked, isMarkedToo, isOther,
          otherMarker.mpr (by decide)⟩

end Manifest

end ModuleUpdate
