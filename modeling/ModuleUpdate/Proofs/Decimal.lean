import Mathlib.Data.List.Induction
import ModuleUpdate.Text

namespace ModuleUpdate.Text

/-!
# Decimal numbers

Digits that do not start with a zero are the digits of the number they spell.  With zeros in front
their length has to be known as well.  The digits of a number spell that number.
-/

private theorem value_lt
    {digit : Char}
    (isDigit : digit.isDigit = true) :
    digit.toNat - '0'.toNat < 10 := by
  have range : 48 ≤ digit.toNat ∧ digit.toNat ≤ 57 := Char.isDigit_iff_toNat.mp isDigit
  change digit.toNat - 48 < 10
  omega

/-- Digits of the same value are the same. -/
private theorem eq_of_value
    {first second : Char}
    (firstIsDigit : first.isDigit = true)
    (secondIsDigit : second.isDigit = true)
    (same : first.toNat - '0'.toNat = second.toNat - '0'.toNat) :
    first = second := by
  have firstRange : 48 ≤ first.toNat ∧ first.toNat ≤ 57 := Char.isDigit_iff_toNat.mp firstIsDigit
  have secondRange : 48 ≤ second.toNat ∧ second.toNat ≤ 57 :=
    Char.isDigit_iff_toNat.mp secondIsDigit
  change first.toNat - 48 = second.toNat - 48 at same
  exact Char.toNat_inj.mp (by omega)

/-- The last digit counts once, and the digits in front of it ten times. -/
theorem ofDigits_concat (digits : Text) (last : Char) :
    ofDigits (digits ++ [last]) = 10 * ofDigits digits + (last.toNat - '0'.toNat) := by
  simp only [ofDigits, List.foldl_append, List.foldl_cons, List.foldl_nil]

/-- As many digits that spell the same number are the same. -/
theorem eq_of_ofDigits
    {first second : Text}
    (firstAreDigits : first.all Char.isDigit = true)
    (secondAreDigits : second.all Char.isDigit = true)
    (sameLength : first.length = second.length)
    (sameNumber : ofDigits first = ofDigits second) :
    first = second := by
  induction first using List.reverseRecOn generalizing second with
  | nil => exact (List.eq_nil_of_length_eq_zero sameLength.symm).symm
  | append_singleton front last inductionHypothesis =>
      cases second using List.reverseRecOn with
      | nil => simp at sameLength
      | append_singleton otherFront otherLast =>
          simp only [List.all_append, List.all_cons, List.all_nil, Bool.and_true,
            Bool.and_eq_true] at firstAreDigits secondAreDigits
          rw [ofDigits_concat, ofDigits_concat] at sameNumber
          have valueBound := value_lt firstAreDigits.2
          have otherValueBound := value_lt secondAreDigits.2
          have sameFront : front = otherFront :=
            inductionHypothesis firstAreDigits.1 secondAreDigits.1 (by simpa using sameLength)
              (by omega)
          have sameLast : last = otherLast :=
            eq_of_value firstAreDigits.2 secondAreDigits.2 (by omega)
          rw [sameFront, sameLast]

private theorem ofNatural_value
    {digit : Char}
    (isDigit : digit.isDigit = true) :
    ofNatural (digit.toNat - '0'.toNat) = [digit] := by
  have range : 48 ≤ digit.toNat ∧ digit.toNat ≤ 57 := Char.isDigit_iff_toNat.mp isDigit
  rw [ofNatural, Nat.toDigits_of_lt_base (value_lt isDigit)]
  congr
  apply Char.toNat_inj.mp
  rw [Nat.toNat_digitChar_of_lt_ten (value_lt isDigit)]
  change 48 + (digit.toNat - 48) = digit.toNat
  omega

/-- A number with a digit other than zero in front is not zero, and is written in its digits. -/
theorem ofNatural_ofDigits
    {first : Char}
    {others : Text}
    (areDigits : (first :: others).all Char.isDigit = true)
    (notZero : first ≠ '0') :
    0 < ofDigits (first :: others) ∧ ofNatural (ofDigits (first :: others)) = first :: others := by
  induction others using List.reverseRecOn with
  | nil =>
      have isDigit : first.isDigit = true := by simpa using areDigits
      have single : ofDigits [first] = first.toNat - '0'.toNat := by simp [ofDigits]
      rw [single, ofNatural_value isDigit]
      refine ⟨Nat.pos_of_ne_zero fun isZero => notZero ?_, rfl⟩
      exact eq_of_value isDigit (by decide) isZero
  | append_singleton front last inductionHypothesis =>
      rw [← List.cons_append] at areDigits ⊢
      rw [List.all_append, Bool.and_eq_true] at areDigits
      have lastIsDigit : last.isDigit = true := by simpa using areDigits.2
      obtain ⟨positive, written⟩ := inductionHypothesis areDigits.1
      rw [ofDigits_concat]
      refine ⟨by omega, ?_⟩
      rw [ofNatural, ← Nat.toDigits_append_toDigits (by decide) positive (value_lt lastIsDigit)]
      exact congrArg₂ (· ++ ·) written (ofNatural_value lastIsDigit)

theorem ofNatural_ne_nil (number : Nat) : ofNatural number ≠ [] :=
  Nat.toDigits_ne_nil

/-- A number is written in digits. -/
theorem isDigit_of_mem_ofNatural
    {number : Nat}
    {digit : Char}
    (member : digit ∈ ofNatural number) :
    digit.isDigit = true :=
  Nat.isDigit_of_mem_toDigits (by decide) (by decide) member

/-- A number is read off its digits. -/
theorem ofDigits_ofNatural (number : Nat) : ofDigits (ofNatural number) = number := by
  rw [ofDigits, ← Nat.ofDigitChars_eq_foldl]
  exact Nat.ofDigitChars_ten_toDigits

/-- The digits of a number are read as that number. -/
theorem natural?_ofNatural (number : Nat) : natural? (ofNatural number) = some number := by
  have digits : ofNatural number ≠ [] ∧ (ofNatural number).all Char.isDigit = true :=
    ⟨ofNatural_ne_nil number,
      List.all_eq_true.mpr fun _ member => isDigit_of_mem_ofNatural member⟩
  rw [natural?, if_pos digits, ofDigits_ofNatural]

/-- Numbers with the same digits are the same. -/
theorem ofNatural_inj
    {first second : Nat} :
    ofNatural first = ofNatural second ↔ first = second := by
  constructor
  · intro same
    rw [← ofDigits_ofNatural first, same, ofDigits_ofNatural]
  · exact congrArg ofNatural

/-- The digits of a number start with a zero only if the number is zero. -/
theorem head?_ofNatural
    {number : Nat}
    (positive : 0 < number) :
    (ofNatural number).head? ≠ some '0' := by
  induction number using Nat.strongRecOn with
  | ind number inductionHypothesis =>
      rw [ofNatural, Nat.toDigits_eq_if (by decide)]
      split
      · next single =>
          rw [List.head?_cons, Ne, Option.some_inj]
          intro isZero
          have value := Nat.toNat_digitChar_of_lt_ten single
          rw [isZero] at value
          change 48 = 48 + number at value
          omega
      · next several =>
          have front := inductionHypothesis (number / 10) (by omega) (by omega)
          obtain ⟨first, others, digits⟩ :=
            List.exists_cons_of_ne_nil (ofNatural_ne_nil (number / 10))
          rw [ofNatural] at digits front
          rw [digits] at front ⊢
          exact front

end ModuleUpdate.Text
