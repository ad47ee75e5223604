import Mathlib.Data.List.Chain
import Mathlib.Data.List.Perm.Basic
import ModuleUpdate.Sorting

namespace ModuleUpdate

/-!
# Sorted lists

Sorting leaves no element behind one that it precedes, and it keeps a list in which none stands
so.  Insertion compares neighbours only, so both hold whether or not the order is transitive, as
long as no two elements precede each other.  Where the order is transitive and tells the elements
apart, sorting them and leaving out repetitions gives the one strictly ascending list of them.
-/

section

variable {precedes : α → α → Bool}

/-- No element stands directly behind one that it precedes. -/
def IsSorted (precedes : α → α → Bool) (elements : List α) : Prop :=
  elements.IsChain fun earlier later => precedes later earlier = false

/-- Of two elements at most one precedes the other. -/
def IsAsymmetric (precedes : α → α → Bool) : Prop :=
  ∀ first second, precedes first second = true → precedes second first = false

/-- Insertion keeps a list in order, seen from its end. -/
private theorem isSorted_insertBackward
    (asymmetric : IsAsymmetric precedes)
    (element : α)
    {sorted : List α}
    (isSorted : sorted.IsChain fun later earlier => precedes later earlier = false) :
    (insertBackward precedes element sorted).IsChain
      fun later earlier => precedes later earlier = false := by
  induction sorted with
  | nil => exact .singleton element
  | cons last earlier inductionHypothesis =>
      rw [insertBackward]
      split
      · next isBefore =>
          obtain ⟨lastInOrder, othersSorted⟩ := List.isChain_cons.mp isSorted
          refine List.isChain_cons.mpr ⟨fun first isFirst => ?_, inductionHypothesis othersSorted⟩
          cases earlier with
          | nil =>
              cases isFirst
              exact asymmetric element last isBefore
          | cons second others =>
              rw [insertBackward] at isFirst
              split at isFirst
              · cases isFirst
                exact lastInOrder _ rfl
              · cases isFirst
                exact asymmetric element last isBefore
      · next notBefore =>
          exact List.isChain_cons_cons.mpr ⟨Bool.eq_false_iff.mpr notBefore, isSorted⟩

/-- Sorting puts neighbours in order. -/
theorem isSorted_stableSort
    (asymmetric : IsAsymmetric precedes)
    (elements : List α) :
    IsSorted precedes (stableSort precedes elements) := by
  have collected :
      ∀ sorted : List α,
        (sorted.IsChain fun later earlier => precedes later earlier = false) →
          (elements.foldl
            (fun sorted element => insertBackward precedes element sorted) sorted).IsChain
            fun later earlier => precedes later earlier = false := by
    induction elements with
    | nil => exact fun _ isSorted => isSorted
    | cons element following inductionHypothesis =>
        intro sorted isSorted
        exact inductionHypothesis _ (isSorted_insertBackward asymmetric element isSorted)
  exact List.isChain_reverse.mpr (collected [] .nil)

/-- Elements in order are left in their places. -/
theorem stableSort_of_isSorted
    {elements : List α}
    (isSorted : IsSorted precedes elements) :
    stableSort precedes elements = elements := by
  have collected :
      ∀ sorted : List α,
        IsSorted precedes (sorted.reverse ++ elements) →
          elements.foldl (fun sorted element => insertBackward precedes element sorted) sorted =
            elements.reverse ++ sorted := by
    clear isSorted
    induction elements with
    | nil => exact fun _ _ => rfl
    | cons element following inductionHypothesis =>
        intro sorted isSorted
        have inserted : insertBackward precedes element sorted = element :: sorted := by
          cases sorted with
          | nil => rfl
          | cons last earlier =>
              have inOrder :=
                (List.isChain_append.mp isSorted).2.2 last (by simp) element rfl
              rw [insertBackward, if_neg (by simp [inOrder])]
        rw [List.foldl_cons, inserted,
          inductionHypothesis (element :: sorted) (by simpa using isSorted)]
        simp
  rw [stableSort, collected [] isSorted, List.append_nil, List.reverse_reverse]

end

/-- Neighbours in order are all in order, where the order is transitive on the elements. -/
theorem pairwise_of_isChain
    {relation : α → α → Prop}
    {elements : List α}
    (transitive : ∀ first ∈ elements, ∀ second ∈ elements, ∀ third ∈ elements,
      relation first second → relation second third → relation first third)
    (inOrder : elements.IsChain relation) :
    elements.Pairwise relation := by
  induction elements with
  | nil => exact .nil
  | cons first following inductionHypothesis =>
      obtain ⟨firstInOrder, othersInOrder⟩ := List.isChain_cons.mp inOrder
      have others :=
        inductionHypothesis
          (fun second isSecond third isThird fourth isFourth =>
            transitive second (List.mem_cons_of_mem _ isSecond) third
              (List.mem_cons_of_mem _ isThird) fourth (List.mem_cons_of_mem _ isFourth))
          othersInOrder
      refine List.pairwise_cons.mpr ⟨fun later isLater => ?_, others⟩
      cases following with
      | nil => cases isLater
      | cons second rest =>
          have step := firstInOrder second rfl
          rcases List.mem_cons.mp isLater with rfl | inRest
          · exact step
          · exact transitive first (by simp) second (by simp) later (by simp [inRest]) step
              ((List.pairwise_cons.mp others).1 later inRest)

section

variable {order : α → α → Ordering} [Std.TransCmp order]

/-- Sorting leaves no element in front of a lower one. -/
theorem notDescending_stableSort (elements : List α) :
    (stableSort (fun left right => (order left right).isLT) elements).Pairwise
      fun earlier later => (order earlier later).isLE = true := by
  have swapped : ∀ first second, order first second = (order second first).swap :=
    fun _ _ => Std.OrientedCmp.eq_swap
  have asymmetric : IsAsymmetric fun left right => (order left right).isLT := by
    intro first second isBefore
    dsimp only at isBefore ⊢
    rw [swapped second first]
    revert isBefore
    cases order first second <;> decide
  have : Trans (fun first second => (order first second).isLE = true)
      (fun first second => (order first second).isLE = true)
      fun first second => (order first second).isLE = true :=
    ⟨Std.TransCmp.isLE_trans⟩
  refine ((isSorted_stableSort asymmetric elements).imp fun earlier later inOrder => ?_).pairwise
  dsimp only at inOrder
  rw [swapped earlier later]
  revert inOrder
  cases order later earlier <;> decide

/-- Strictly ascending lists with the same elements are the same. -/
theorem eq_of_ascending
    {first second : List α}
    (firstAscending : first.Pairwise fun earlier later => order earlier later = .lt)
    (secondAscending : second.Pairwise fun earlier later => order earlier later = .lt)
    (same : ∀ element, element ∈ first ↔ element ∈ second) :
    first = second := by
  have distinct :
      ∀ {elements : List α},
        (elements.Pairwise fun earlier later => order earlier later = .lt) → elements.Nodup := by
    intro elements ascending
    refine ascending.imp fun {earlier later} isBefore => ?_
    rintro rfl
    have same : order earlier earlier = .eq := Std.ReflCmp.compare_self
    rw [same] at isBefore
    cases isBefore
  refine List.Perm.eq_of_pairwise ?_ firstAscending secondAscending
    ((List.perm_ext_iff_of_nodup (distinct firstAscending) (distinct secondAscending)).mpr same)
  intro earlier later _ _ isBefore isBehind
  exact absurd isBehind (Std.OrientedCmp.not_lt_of_lt isBefore)

end

/-- Distinct elements are sorted into strictly ascending order. -/
theorem ascending_stableSort
    [Ord α]
    [Std.TransOrd α]
    [Std.LawfulEqOrd α]
    {elements : List α}
    (distinct : elements.Nodup) :
    (stableSort (fun left right => (compare left right).isLT) elements).Pairwise
      fun earlier later => compare earlier later = .lt := by
  have apart :=
    (stableSort_perm (fun left right => (compare left right).isLT) elements).nodup_iff.mpr distinct
  refine ((notDescending_stableSort elements).and apart).imp ?_
  rintro earlier later ⟨inOrder, notSame⟩
  cases ordered : compare earlier later with
  | lt => rfl
  | eq => exact absurd (Std.LawfulEqOrd.eq_of_compare ordered) notSame
  | gt =>
      rw [ordered] at inOrder
      cases inOrder

section

variable [BEq α] [LawfulBEq α]

private theorem mem_eraseReps_loop
    {element current : α}
    {following earlier : List α} :
    element ∈ List.eraseRepsBy.loop (· == ·) current following earlier ↔
      element ∈ current :: following ∨ element ∈ earlier := by
  induction following generalizing current earlier with
  | nil => simp [List.eraseRepsBy.loop, or_comm]
  | cons next others inductionHypothesis =>
      simp only [List.eraseRepsBy.loop]
      split
      · next same =>
          rw [beq_iff_eq] at same
          rw [inductionHypothesis]
          simp [same]
      · rw [inductionHypothesis]
        simp only [List.mem_cons]
        grind

/-- Leaving out repetitions loses no element. -/
theorem mem_eraseReps
    {element : α}
    {elements : List α} :
    element ∈ elements.eraseReps ↔ element ∈ elements := by
  cases elements with
  | nil => simp [List.eraseReps, List.eraseRepsBy]
  | cons first following =>
      change element ∈ List.eraseRepsBy.loop (· == ·) first following [] ↔ _
      simp [mem_eraseReps_loop]

theorem mem_sortedSet
    [Ord α]
    {element : α}
    {elements : List α} :
    element ∈ sortedSet elements ↔ element ∈ elements := by
  simp only [sortedSet]
  rw [mem_eraseReps]
  exact (stableSort_perm _ _).mem_iff

/-- The repetitions that are left out of an ascending list are those of one element. -/
private theorem ascending_eraseReps_loop
    {order : α → α → Ordering}
    [Std.TransCmp order]
    {current : α}
    {following earlier : List α}
    (notDescending :
      (current :: following).Pairwise fun left right => (order left right).isLE = true)
    (separates : ∀ first ∈ current :: following, ∀ second ∈ current :: following,
      order first second = .eq → first = second)
    (ascending : (current :: earlier).Pairwise fun later former => order former later = .lt) :
    (List.eraseRepsBy.loop (· == ·) current following earlier).Pairwise
      fun left right => order left right = .lt := by
  induction following generalizing current earlier with
  | nil =>
      rw [List.eraseRepsBy.loop, List.pairwise_reverse]
      exact ascending
  | cons next others inductionHypothesis =>
      obtain ⟨currentFirst, othersInOrder⟩ := List.pairwise_cons.mp notDescending
      rw [List.eraseRepsBy.loop]
      split
      · next same =>
          rw [beq_iff_eq] at same
          subst same
          exact inductionHypothesis othersInOrder
            (fun first isFirst second isSecond =>
              separates first (List.mem_cons_of_mem _ isFirst) second
                (List.mem_cons_of_mem _ isSecond))
            ascending
      · next differ =>
          have isBefore : order current next = .lt := by
            have inOrder := currentFirst next List.mem_cons_self
            cases ordered : order current next with
            | lt => rfl
            | eq =>
                have same := separates current (by simp) next (by simp) ordered
                rw [same, beq_self_eq_true] at differ
                cases differ
            | gt =>
                rw [ordered] at inOrder
                cases inOrder
          refine inductionHypothesis othersInOrder
            (fun first isFirst second isSecond =>
              separates first (List.mem_cons_of_mem _ isFirst) second
                (List.mem_cons_of_mem _ isSecond))
            (List.pairwise_cons.mpr ⟨fun former isFormer => ?_, ascending⟩)
          rcases List.mem_cons.mp isFormer with rfl | isEarlier
          · exact isBefore
          · exact Std.TransCmp.lt_trans ((List.pairwise_cons.mp ascending).1 former isEarlier)
              isBefore

/-- Without its repetitions a list that does not descend is strictly ascending. -/
theorem ascending_eraseReps
    {order : α → α → Ordering}
    [Std.TransCmp order]
    {elements : List α}
    (notDescending : elements.Pairwise fun left right => (order left right).isLE = true)
    (separates : ∀ first ∈ elements, ∀ second ∈ elements,
      order first second = .eq → first = second) :
    elements.eraseReps.Pairwise fun left right => order left right = .lt := by
  cases elements with
  | nil => exact .nil
  | cons first following =>
      exact ascending_eraseReps_loop notDescending separates (List.pairwise_singleton _ first)

variable [Ord α] [Std.TransOrd α] [Std.LawfulEqOrd α]

theorem ascending_sortedSet (elements : List α) :
    (sortedSet elements).Pairwise fun earlier later => compare earlier later = .lt :=
  ascending_eraseReps (notDescending_stableSort elements)
    fun _ _ _ _ => Std.LawfulEqOrd.eq_of_compare

/-- The same elements in any order and number make the same sorted set. -/
theorem sortedSet_congr
    {first second : List α}
    (same : ∀ element, element ∈ first ↔ element ∈ second) :
    sortedSet first = sortedSet second := by
  refine eq_of_ascending (ascending_sortedSet first) (ascending_sortedSet second) fun element => ?_
  rw [mem_sortedSet, mem_sortedSet]
  exact same element

end

end ModuleUpdate
