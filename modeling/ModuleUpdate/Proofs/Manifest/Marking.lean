import ModuleUpdate.Proofs.Manifest.Clauses

namespace ModuleUpdate

/-!
# Marking a comment again

Clauses that were spelled are read back one by one.  So a comment takes only two spellings once its
marker has changed, one with the marker and one without, and setting the same markers in the same
order once more leads to the same comment.
-/

namespace Clauses

/-- A text that stands between the semicolons of a comment. -/
structure IsClause (item : Text) : Prop where
  notEmpty : item ≠ []
  trimmed : Text.trim item = item
  whole : ';' ∉ item

theorem isClause_indirectMarker : IsClause indirectMarker where
  notEmpty := by decide
  trimmed := by decide
  whole := by decide

theorem isClause_of_mem_ofComment
    {comment : Option Text}
    {item : Text}
    (member : item ∈ (ofComment comment).items) :
    IsClause item := by
  cases comment with
  | none => cases member
  | some text =>
      obtain ⟨inParts, notEmpty⟩ := List.mem_filter.mp member
      obtain ⟨part, isPart, rfl⟩ := List.mem_map.mp inParts
      refine ⟨by simpa using notEmpty, Text.trim_trim part, fun semicolon => ?_⟩
      exact Text.not_mem_of_mem_splitOn isPart (mem_of_mem_trim semicolon)

/-- Joined clauses are split again at their semicolons. -/
private theorem splitOn_join
    {items : List Text}
    (areClauses : ∀ item ∈ items, IsClause item)
    (someItem : items ≠ []) :
    (' ' :: Text.join "; ".toList items).splitOn ';' = items.map (' ' :: ·) := by
  induction items with
  | nil => exact absurd rfl someItem
  | cons first others inductionHypothesis =>
      have noMark : ';' ∉ ' ' :: first := by simp [(areClauses first (by simp)).whole]
      cases others with
      | nil => simpa [Text.join] using List.splitOn_eq_singleton noMark
      | cons second later =>
          have whole :
              ' ' :: Text.join "; ".toList (first :: second :: later) =
                (' ' :: first) ++ ';' :: ' ' :: Text.join "; ".toList (second :: later) := by
            simp [Text.join, List.intercalate_cons_cons]
          have others :=
            inductionHypothesis (fun item member => areClauses item (by simp [member])) (by simp)
          rw [whole, List.splitOn_append_cons_self_of_not_mem noMark, others]
          rfl

/-- The clauses of a comment that was made of clauses. -/
theorem ofComment_toComment
    {clauses : Clauses}
    (areClauses : ∀ item ∈ clauses.items, IsClause item) :
    ofComment clauses.toComment = clauses := by
  obtain ⟨items⟩ := clauses
  simp only [toComment]
  by_cases someItem : items = []
  · simp [someItem, ofComment]
  · rw [if_neg someItem]
    have trimmed :
        Text.trim (opening ++ ' ' :: Text.join "; ".toList items) =
          opening ++ ' ' :: Text.join "; ".toList items := by
      have atEnd := trimEnd_opening someItem fun item member =>
        ⟨(areClauses item member).notEmpty,
          Text.trimEnd_of_trim (areClauses item member).trimmed⟩
      have atStart :
          Text.trimStart (opening ++ ' ' :: Text.join "; ".toList items) =
            opening ++ ' ' :: Text.join "; ".toList items :=
        List.dropWhile_cons_of_neg (by decide)
      rw [Text.trim, atStart, atEnd]
    have opened :
        Text.dropOpening opening (opening ++ ' ' :: Text.join "; ".toList items) =
          ' ' :: Text.join "; ".toList items := by
      rw [Text.dropOpening, Text.after?_eq_some_iff.mpr rfl, Option.getD_some]
    have readAgain : ∀ item ∈ items, Text.trim (' ' :: item) = item := fun item member => by
      rw [Text.trim_blank (by decide), (areClauses item member).trimmed]
    simp only [ofComment, trimmed, opened, splitOn_join areClauses someItem, List.map_map]
    congr 1
    have trimAll : items.map (Text.trim ∘ fun item => ' ' :: item) = items :=
      (List.map_congr_left readAgain).trans (List.map_id' items)
    rw [trimAll, List.filter_eq_self]
    exact fun item member => by simpa using (areClauses item member).notEmpty

/-- Clauses behind the marker or without it. -/
def marked (core : List Text) (indirect : Bool) : Clauses where
  items := if indirect then indirectMarker :: core else core

/-- What is left of a comment without its marker. -/
structure IsCore (core : List Text) : Prop where
  areClauses : ∀ item ∈ core, IsClause item
  unmarked : core.head? ≠ some indirectMarker

/-- The marker stands twice at the start of a comment. -/
def IsDoublyMarked (comment : Option Text) : Prop :=
  ∃ others, (ofComment comment).items = indirectMarker :: indirectMarker :: others

instance (comment : Option Text) : Decidable (IsDoublyMarked comment) :=
  decidable_of_iff ([indirectMarker, indirectMarker] <+: (ofComment comment).items)
    (exists_congr fun _ => eq_comm)

theorem isIndirect_marked
    {core : List Text}
    (isCore : IsCore core)
    (indirect : Bool) :
    (marked core indirect).isIndirect = indirect := by
  cases indirect with
  | true => simp [marked, isIndirect]
  | false => simpa [marked, isIndirect] using isCore.unmarked

/-- A spelled comment is marked by spelling it with the marker or without it. -/
theorem markComment_marked
    {core : List Text}
    (isCore : IsCore core)
    (before after : Bool) :
    markComment (marked core before).toComment after = (marked core after).toComment := by
  have areClauses : ∀ item ∈ (marked core before).items, IsClause item := by
    intro item member
    cases before with
    | false => exact isCore.areClauses item member
    | true =>
        rcases List.mem_cons.mp member with rfl | inCore
        · exact isClause_indirectMarker
        · exact isCore.areClauses item inCore
  simp only [markComment, ofComment_toComment areClauses, withIndirect?,
    isIndirect_marked isCore]
  cases before <;> cases after <;> rfl

/-- A comment is either marked already, or it is spelled anew from what it holds. -/
theorem markComment_cases
    (comment : Option Text)
    (indirect : Bool) :
    ((ofComment comment).isIndirect = indirect ∧ markComment comment indirect = comment) ∨
      ((ofComment comment).isIndirect ≠ indirect ∧
        ∃ core,
          (∀ item ∈ core, IsClause item) ∧
            (ofComment comment).items =
              (marked core (ofComment comment).isIndirect).items ∧
            markComment comment indirect = (marked core indirect).toComment) := by
  by_cases same : (ofComment comment).isIndirect = indirect
  · exact .inl ⟨same, by simp [markComment, withIndirect?, same]⟩
  · refine .inr ⟨same, ?_⟩
    have areClauses : ∀ item ∈ (ofComment comment).items, IsClause item :=
      fun _ => isClause_of_mem_ofComment
    cases indirect with
    | true =>
        rw [Bool.not_eq_true] at same
        exact ⟨(ofComment comment).items, areClauses, by simp [marked, same],
          by simp [markComment, withIndirect?, same, marked]⟩
    | false =>
        rw [Bool.not_eq_false] at same
        obtain ⟨core, split⟩ : ∃ core, (ofComment comment).items = indirectMarker :: core := by
          rw [isIndirect, beq_iff_eq] at same
          exact List.head?_eq_some_iff.mp same
        exact ⟨core, fun item member => areClauses item (by simp [split, member]),
          by simp [marked, same, split], by simp [markComment, withIndirect?, same, marked, split]⟩

/-- A comment with markers set one after the other. -/
def markAll (comment : Option Text) (markers : List Bool) : Option Text :=
  markers.foldl markComment comment

/-- Only the last marker counts once a comment is spelled. -/
theorem markAll_marked
    {core : List Text}
    (isCore : IsCore core)
    (before : Bool)
    (markers : List Bool) :
    markAll (marked core before).toComment markers =
      (marked core (markers.getLastD before)).toComment := by
  induction markers generalizing before with
  | nil => rfl
  | cons first others inductionHypothesis =>
      rw [markAll, List.foldl_cons, markComment_marked isCore, List.getLastD_cons]
      exact inductionHypothesis first

theorem isCore_nil : IsCore [] where
  areClauses := by simp
  unmarked := by simp

/-- Markers that a comment has already leave it as it is. -/
theorem markAll_eq_self
    {comment : Option Text}
    {markers : List Bool}
    (same : ∀ marker ∈ markers, (ofComment comment).isIndirect = marker) :
    markAll comment markers = comment := by
  induction markers with
  | nil => rfl
  | cons first others inductionHypothesis =>
      have stays : markComment comment first = comment := by
        simp [markComment, withIndirect?, same first]
      rw [markAll, List.foldl_cons, stays]
      exact inductionHypothesis fun other member => same other (by simp [member])

/-- Markers that leave no comment behind take an unmarked comment back to what it was. -/
theorem markAll_of_unmarked
    {comment : Text}
    {markers : List Bool}
    (noneLeft : markAll none markers = none)
    (unmarked : (ofComment (some comment)).isIndirect = false)
    (keepsSpelling :
      true ∈ markers → (ofComment (some comment)).toComment = some comment) :
    markAll (some comment) markers = some comment := by
  by_cases isMarked : true ∈ markers
  · have isCore : IsCore (ofComment (some comment)).items :=
      ⟨fun _ => isClause_of_mem_ofComment, by simpa [isIndirect] using unmarked⟩
    have spelled : (marked (ofComment (some comment)).items false).toComment = some comment :=
      keepsSpelling isMarked
    have last : markers.getLastD false = false := by
      have nothing : (marked [] (markers.getLastD false)).toComment = none :=
        (markAll_marked isCore_nil false markers).symm.trans noneLeft
      cases isLast : markers.getLastD false with
      | false => rfl
      | true =>
          rw [isLast] at nothing
          cases nothing
    rw [← spelled, markAll_marked isCore, last]
  · refine markAll_eq_self fun marker member => ?_
    rw [unmarked, eq_comm, Bool.eq_false_iff]
    rintro rfl
    exact isMarked member

/--
Markers either leave a comment as it is, or they lead to a spelled comment that the last of them
decides.  A comment that carries the marker twice is left out unless the marker is never taken
away.
-/
theorem markAll_cases
    {comment : Option Text}
    {markers : List Bool}
    (once : false ∈ markers → ¬IsDoublyMarked comment) :
    ((∀ marker ∈ markers, marker = (ofComment comment).isIndirect) ∧
        markAll comment markers = comment) ∨
      ∃ core last,
        IsCore core ∧ markers.getLast? = some last ∧
          markAll comment markers = (marked core last).toComment := by
  induction markers with
  | nil => exact .inl ⟨by simp, rfl⟩
  | cons first others inductionHypothesis =>
      rcases markComment_cases comment first with ⟨same, stays⟩ | ⟨differs, spelledAnew⟩
      · rw [markAll, List.foldl_cons, stays]
        have later := inductionHypothesis fun member => once (by simp [member])
        rcases later with ⟨allSame, kept⟩ | ⟨core, last, isCore, isLast, spelled⟩
        · exact .inl ⟨by simpa [same] using allSame, kept⟩
        · exact .inr ⟨core, last, isCore, by simp [List.getLast?_cons, isLast], spelled⟩
      · obtain ⟨core, areClauses, items, spelled⟩ := spelledAnew
        have isCore : IsCore core := by
          refine ⟨areClauses, fun isMarked => ?_⟩
          obtain ⟨rest, rfl⟩ := List.head?_eq_some_iff.mp isMarked
          cases isIndirect : (ofComment comment).isIndirect with
          | false =>
              rw [isIndirect] at items
              rw [Clauses.isIndirect, items] at isIndirect
              simp [marked] at isIndirect
          | true =>
              rw [isIndirect] at differs items
              obtain rfl : first = false := Bool.eq_false_iff.mpr (Ne.symm differs)
              exact once List.mem_cons_self ⟨rest, by simpa [marked] using items⟩
        rw [markAll, List.foldl_cons, spelled]
        refine .inr ⟨core, others.getLastD first, isCore, ?_, markAll_marked isCore first others⟩
        rw [List.getLast?_cons, List.getLastD_eq_getLast?]

/-- Setting the same markers again changes nothing. -/
theorem markAll_again
    {comment : Option Text}
    {markers : List Bool}
    (once : false ∈ markers → ¬IsDoublyMarked comment) :
    markAll (markAll comment markers) markers = markAll comment markers := by
  rcases markAll_cases once with ⟨_, stays⟩ | ⟨core, last, isCore, isLast, spelled⟩
  · rw [stays, stays]
  · rw [spelled, markAll_marked isCore, List.getLastD_eq_getLast?, isLast]
    rfl

end Clauses

end ModuleUpdate
