namespace ModuleUpdate

/-!
# Stable sorting

Sorting by insertion: the elements are taken in order, and each is moved toward the front past
those that it precedes strictly.  Where the order is total the result is the stable sort.
-/

/-- Put an element into a list that is sorted from last to first. -/
def insertBackward
    (precedes : α → α → Bool)
    (element : α) :
    List α → List α
  | [] => [element]
  | last :: earlier =>
      if precedes element last then
        last :: insertBackward precedes element earlier
      else
        element :: last :: earlier

/-- The elements sorted, those that precede each other neither way in their given order. -/
def stableSort (precedes : α → α → Bool) (elements : List α) : List α :=
  (elements.foldl (fun sorted element => insertBackward precedes element sorted) []).reverse

/-- Insertion adds the element and keeps all others. -/
theorem insertBackward_perm
    (precedes : α → α → Bool)
    (element : α)
    (sorted : List α) :
    (insertBackward precedes element sorted).Perm (element :: sorted) := by
  induction sorted with
  | nil => exact List.Perm.refl _
  | cons last earlier inductionHypothesis =>
      unfold insertBackward
      split
      · exact (inductionHypothesis.cons last).trans (List.Perm.swap element last earlier)
      · exact List.Perm.refl _

/-- Sorting keeps every element as often as it occurs. -/
theorem stableSort_perm
    (precedes : α → α → Bool)
    (elements : List α) :
    (stableSort precedes elements).Perm elements := by
  have collected :
      ∀ sorted : List α,
        (elements.foldl
          (fun sorted element => insertBackward precedes element sorted) sorted).Perm
          (elements ++ sorted) := by
    induction elements with
    | nil => exact fun sorted => List.Perm.refl sorted
    | cons element following inductionHypothesis =>
        intro sorted
        refine (inductionHypothesis _).trans ?_
        refine ((insertBackward_perm precedes element sorted).append_left following).trans ?_
        exact List.perm_middle
  have reversed := List.reverse_perm
    (elements.foldl (fun sorted element => insertBackward precedes element sorted) [])
  exact reversed.trans (by simpa using collected [])

/-- The distinct elements in ascending order. -/
def sortedSet [Ord α] [BEq α] (elements : List α) : List α :=
  (stableSort (fun left right => (compare left right).isLT) elements).eraseReps

end ModuleUpdate
