import ModuleUpdate.Proofs.Decimal
import ModuleUpdate.Version

namespace ModuleUpdate

/-!
# The order of versions

Comparing two versions the other way round gives the opposite answer, and the order is transitive.
Each order is put together from orders that have these properties.  Semantic versions that none
of them tells apart are the same: leading zeros count, and so do build identifiers.
-/

namespace SemanticVersion

/-- Swapping two identifiers swaps how they compare. -/
theorem identifierOrder_swap (left right : Text) :
    identifierOrder left right = (identifierOrder right left).swap := by
  simp only [identifierOrder]
  cases isNumeric left <;> cases isNumeric right
  · exact Std.OrientedOrd.eq_swap
  · rfl
  · rfl
  · simp only [Ordering.swap_then]
    rw [← Std.OrientedOrd.eq_swap, ← Std.OrientedOrd.eq_swap]

instance : Std.OrientedCmp identifierOrder where
  eq_swap := identifierOrder_swap _ _

/-- The order of numeric identifiers is made of the orders of two numbers. -/
private theorem isLE_trans_numeric
    {first second third : Text}
    (firstBelow :
      ((compare (Text.ofDigits first) (Text.ofDigits second)).then
        (compare first.length second.length)).isLE = true)
    (secondBelow :
      ((compare (Text.ofDigits second) (Text.ofDigits third)).then
        (compare second.length third.length)).isLE = true) :
    ((compare (Text.ofDigits first) (Text.ofDigits third)).then
      (compare first.length third.length)).isLE = true := by
  let numericOrder : Text → Text → Ordering :=
    compareLex (compareOn Text.ofDigits) (compareOn List.length)
  change (numericOrder first third).isLE = true
  exact Std.TransCmp.isLE_trans firstBelow secondBelow

instance : Std.TransCmp identifierOrder where
  isLE_trans {first second third} firstBelow secondBelow := by
    cases firstKind : isNumeric first <;> cases secondKind : isNumeric second <;>
      cases thirdKind : isNumeric third <;>
      simp only [identifierOrder, firstKind, secondKind, thirdKind] at firstBelow secondBelow ⊢
    case false.false.false => exact Std.TransOrd.isLE_trans firstBelow secondBelow
    case true.true.true => exact isLE_trans_numeric firstBelow secondBelow
    all_goals first | rfl | contradiction

instance : Std.LawfulEqCmp identifierOrder where
  compare_self := Std.ReflCmp.compare_self
  eq_of_compare {first second} same := by
    cases firstKind : isNumeric first <;> cases secondKind : isNumeric second <;>
      simp only [identifierOrder, firstKind, secondKind] at same
    case false.false => exact Std.LawfulEqOrd.eq_of_compare same
    case true.true =>
      obtain ⟨sameNumber, sameLength⟩ := Ordering.then_eq_eq.mp same
      exact Text.eq_of_ofDigits firstKind secondKind (Std.LawfulEqOrd.eq_of_compare sameLength)
        (Std.LawfulEqOrd.eq_of_compare sameNumber)
    all_goals cases same

/-- Swapping two rows of identifiers swaps how they compare. -/
theorem identifiersOrder_swap (left right : List Text) :
    identifiersOrder left right = (identifiersOrder right left).swap := by
  unfold identifiersOrder
  exact Std.OrientedCmp.eq_swap

instance : Std.TransCmp identifiersOrder :=
  inferInstanceAs (Std.TransCmp (List.compareLex identifierOrder))

instance : Std.LawfulEqCmp identifiersOrder :=
  inferInstanceAs (Std.LawfulEqCmp (List.compareLex identifierOrder))

/-- Swapping two prereleases swaps how they compare. -/
theorem prereleaseOrder_swap (left right : List Text) :
    prereleaseOrder left right = (prereleaseOrder right left).swap := by
  cases left with
  | nil => cases right <;> rfl
  | cons =>
      cases right with
      | nil => rfl
      | cons => exact identifiersOrder_swap _ _

instance : Std.TransCmp prereleaseOrder where
  eq_swap := prereleaseOrder_swap _ _
  isLE_trans {first second third} firstBelow secondBelow := by
    cases first <;> cases second <;> cases third
    case cons.cons.cons =>
      simp only [prereleaseOrder] at firstBelow secondBelow ⊢
      exact Std.TransCmp.isLE_trans firstBelow secondBelow
    all_goals first | rfl | contradiction

instance : Std.LawfulEqCmp prereleaseOrder where
  compare_self := Std.ReflCmp.compare_self
  eq_of_compare {first second} same := by
    cases first <;> cases second
    case nil.nil => rfl
    case cons.cons =>
      simp only [prereleaseOrder] at same
      exact Std.LawfulEqCmp.eq_of_compare same
    all_goals cases same

/-- Swapping two semantic versions swaps how they compare. -/
theorem order_swap (left right : SemanticVersion) :
    order left right = (order right left).swap := by
  simp only [order, Ordering.swap_then]
  rw [← Std.OrientedOrd.eq_swap, ← Std.OrientedOrd.eq_swap, ← Std.OrientedOrd.eq_swap,
    ← prereleaseOrder_swap, ← identifiersOrder_swap]

/-- Versions are ordered as the parts that a function reads off them. -/
private theorem transCmp_of_parts
    {order : β → β → Ordering}
    [Std.TransCmp order]
    (part : α → β) :
    Std.TransCmp fun left right => order (part left) (part right) where
  eq_swap := Std.OrientedCmp.eq_swap
  isLE_trans := Std.TransCmp.isLE_trans

instance : Std.TransCmp order :=
  have : Std.TransCmp fun left right : SemanticVersion =>
      prereleaseOrder left.prerelease right.prerelease :=
    transCmp_of_parts prerelease
  have : Std.TransCmp fun left right : SemanticVersion =>
      identifiersOrder left.build right.build :=
    transCmp_of_parts build
  inferInstanceAs
    (Std.TransCmp
      (compareLex (compareOn major)
        (compareLex (compareOn minor)
          (compareLex (compareOn patch)
            (compareLex
              (fun left right => prereleaseOrder left.prerelease right.prerelease)
              (fun left right => identifiersOrder left.build right.build))))))

/-- No two semantic versions have the same precedence. -/
instance : Std.LawfulEqCmp order where
  compare_self := Std.ReflCmp.compare_self
  eq_of_compare {first second} same := by
    simp only [order, Ordering.then_eq_eq] at same
    obtain ⟨sameMajor, sameMinor, samePatch, samePrerelease, sameBuild⟩ := same
    cases first
    cases second
    congr
    · exact Std.LawfulEqOrd.eq_of_compare sameMajor
    · exact Std.LawfulEqOrd.eq_of_compare sameMinor
    · exact Std.LawfulEqOrd.eq_of_compare samePatch
    · exact Std.LawfulEqCmp.eq_of_compare samePrerelease
    · exact Std.LawfulEqCmp.eq_of_compare sameBuild

end SemanticVersion

namespace Version

/-- Swapping two texts swaps how they compare as versions. -/
theorem order_swap (left right : Text) :
    order left right = (order right left).swap := by
  simp only [order]
  cases parse? left <;> cases parse? right
  · exact Std.OrientedOrd.eq_swap
  · rfl
  · rfl
  · exact SemanticVersion.order_swap _ _

instance : Std.TransCmp order where
  eq_swap := order_swap _ _
  isLE_trans {first second third} firstBelow secondBelow := by
    cases firstRead : parse? first <;> cases secondRead : parse? second <;>
      cases thirdRead : parse? third <;>
      simp only [order, firstRead, secondRead, thirdRead] at firstBelow secondBelow ⊢
    case none.none.none => exact Std.TransOrd.isLE_trans firstBelow secondBelow
    case some.some.some => exact Std.TransCmp.isLE_trans firstBelow secondBelow
    all_goals first | rfl | contradiction

end Version

end ModuleUpdate
