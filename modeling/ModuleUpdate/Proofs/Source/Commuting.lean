import ModuleUpdate.Proofs.Source.Relocation

namespace ModuleUpdate.Source

/-!
# Relocations that commute

A path moves with one of several relocations at most, as long as no module of one is nested in a
module of another, and then no other relocation moves it on.  So such relocations take every path
to the same place in any order.  A source is determined by where its imports move to, and so it
becomes the same text.
-/

namespace Relocation

/-- No module of one relocation is nested in a module of the other. -/
structure AreUnrelated (first second : Relocation) : Prop where
  olds : ModulePath.AreApart first.old second.old
  oldNew : ModulePath.AreApart first.old second.new
  newOld : ModulePath.AreApart first.new second.old

theorem AreUnrelated.symm
    {first second : Relocation}
    (unrelated : AreUnrelated first second) :
    AreUnrelated second first where
  olds := unrelated.olds.symm
  oldNew := unrelated.newOld.symm
  newOld := unrelated.oldNew.symm

/-- A path that one relocation moves is not moved by an unrelated one, neither before nor after. -/
theorem AreUnrelated.move?_eq_none
    {first second : Relocation}
    (unrelated : AreUnrelated first second)
    {path moved : Text}
    (isMoved : ModulePath.move? path first.old first.new = some moved) :
    ModulePath.move? path second.old second.new = none ∧
      ModulePath.move? moved second.old second.new = none := by
  obtain ⟨within, _⟩ := ModulePath.move?_eq_some_iff.mp isMoved
  exact
    ⟨ModulePath.move?_eq_none_of_areApart within unrelated.olds second.new,
      ModulePath.move?_eq_none_of_areApart (ModulePath.isWithin_of_move? isMoved)
        unrelated.newOld second.new⟩

/-- A path that the first of two unrelated relocations moves is moved so in either order. -/
private theorem inTurn_comm_of_move?
    {first second : Relocation}
    (unrelated : AreUnrelated first second)
    (later : Text → Option Text)
    {path moved : Text}
    (isMoved : ModulePath.move? path first.old first.new = some moved) :
    inTurn (ModulePath.move? · first.old first.new)
        (inTurn (ModulePath.move? · second.old second.new) later) path =
      inTurn (ModulePath.move? · second.old second.new)
        (inTurn (ModulePath.move? · first.old first.new) later) path := by
  obtain ⟨stays, staysThere⟩ := unrelated.move?_eq_none isMoved
  simp only [inTurn, isMoved, stays, staysThere]

theorem inTurn_comm
    {first second : Relocation}
    (unrelated : AreUnrelated first second)
    (later : Text → Option Text) :
    inTurn (ModulePath.move? · first.old first.new)
        (inTurn (ModulePath.move? · second.old second.new) later) =
      inTurn (ModulePath.move? · second.old second.new)
        (inTurn (ModulePath.move? · first.old first.new) later) := by
  funext path
  cases isFirst : ModulePath.move? path first.old first.new with
  | some moved => exact inTurn_comm_of_move? unrelated later isFirst
  | none =>
      cases isSecond : ModulePath.move? path second.old second.new with
      | some moved => exact (inTurn_comm_of_move? unrelated.symm later isSecond).symm
      | none => simp only [inTurn, isFirst, isSecond]

/-- Unrelated relocations take every path to the same place in any order. -/
theorem move?_perm
    {first second : List Relocation}
    (perm : first.Perm second)
    (unrelated : first.Pairwise AreUnrelated) :
    move? first = move? second := by
  induction perm with
  | nil => rfl
  | cons relocation _ inductionHypothesis =>
      rw [move?, inductionHypothesis (List.pairwise_cons.mp unrelated).2, move?]
  | swap later earlier others =>
      obtain ⟨apart, _⟩ := List.pairwise_cons.mp unrelated
      exact inTurn_comm (apart later List.mem_cons_self) (move? others)
  | trans one _ oneHypothesis otherHypothesis =>
      have between := (one.pairwise_iff fun isUnrelated => isUnrelated.symm).mp unrelated
      exact (oneHypothesis unrelated).trans (otherHypothesis between)

end Relocation

/-- The texts of passages whose paths have moved. -/
private theorem flatMap_of_isMoved
    {move : Text → Option Text}
    {before after : List Passage}
    (areMoved : List.Forall₂ (Passage.IsMoved move) before after) :
    (after.flatMap fun passage => passage.gap ++ passage.literal) =
      before.flatMap fun passage =>
        passage.gap ++
          ((move passage.spec.path).map passage.spec.quote.literal).getD passage.literal := by
  induction areMoved with
  | nil => rfl
  | cons isMoved _ inductionHypothesis =>
      rw [List.flatMap_cons, List.flatMap_cons, inductionHypothesis, isMoved.gap, isMoved.literal]

/-- A source in which the same imports move to the same paths becomes the same text. -/
theorem Becomes.unique
    {move : Text → Option Text}
    {text result other : Text}
    {header moved otherMoved : Header}
    (becomes : Becomes move text header result moved)
    (becomesOther : Becomes move text header other otherMoved) :
    result = other := by
  rw [← flatMap_passages 0 moved.imports result, ← flatMap_passages 0 otherMoved.imports other,
    flatMap_of_isMoved becomes.areMoved.passages, flatMap_of_isMoved becomesOther.areMoved.passages,
    becomes.areMoved.last, becomesOther.areMoved.last]

end ModuleUpdate.Source
