import Mathlib
import Lodging.Decimal.Basic
import Lodging.Proofs.StableSort

/-! # The value of a decimal

Decimals are compared by the rational numbers that they stand for, so the order
is total, and two decimals of the same value may differ in the places with which
they are written. Whatever is sorted by a decimal keeps the order of equal values
(`Lodging.Decimal.pairwise_mergeSort`).
-/

namespace Lodging.Decimal

/-- The rational number that a decimal stands for. -/
def value (a : Decimal) : ℚ :=
  a.mantissa / 10 ^ a.scale

@[simp] theorem value_zero : zero.value = 0 := by
  rw [value, zero, Int.cast_zero, zero_div]

@[simp] theorem value_neg (a : Decimal) : (-a).value = -a.value := by
  change ((-a.mantissa : ℤ) : ℚ) / 10 ^ a.scale = -(a.mantissa / 10 ^ a.scale)
  rw [Int.cast_neg, neg_div]

/-- Bringing both mantissas to the sum of the scales compares the values. -/
theorem le_iff_value_le {a b : Decimal} : a ≤ b ↔ a.value ≤ b.value := by
  change a.mantissa * Nat.pow 10 b.scale ≤ b.mantissa * Nat.pow 10 a.scale ↔ _
  rw [value, value, div_le_div_iff₀ (by positivity) (by positivity)]
  exact_mod_cast Iff.rfl

/-- The strict order compares the values as well. -/
theorem lt_iff_value_lt {a b : Decimal} : a < b ↔ a.value < b.value := by
  change a.mantissa * Nat.pow 10 b.scale < b.mantissa * Nat.pow 10 a.scale ↔ _
  rw [value, value, div_lt_div_iff₀ (by positivity) (by positivity)]
  exact_mod_cast Iff.rfl

/-- The larger of two decimals has the larger value. -/
theorem value_larger (a b : Decimal) : (a.larger b).value = max a.value b.value := by
  rw [larger]
  split
  next above => exact (max_eq_left (lt_iff_value_lt.mp above).le).symm
  next within => exact (max_eq_right (not_lt.mp (lt_iff_value_lt.not.mp within))).symm

/-- Decimals without a sign are those from zero on. -/
theorem zero_le_iff {a : Decimal} : zero ≤ a ↔ a.isNegative = false := by
  have scaled : zero ≤ a ↔ 0 * (Nat.pow 10 a.scale : Int) ≤ a.mantissa * 1 :=
    Iff.rfl
  rw [scaled, isNegative, decide_eq_false_iff_not]
  omega

/-- The order of decimals is that of their values, so it is transitive. -/
theorem le_trans {a b c : Decimal} (first : a ≤ b) (second : b ≤ c) : a ≤ c := by
  rw [le_iff_value_le] at first second ⊢
  exact first.trans second

theorem le_total (a b : Decimal) : a ≤ b ∨ b ≤ a := by
  rw [le_iff_value_le, le_iff_value_le]
  exact LinearOrder.le_total a.value b.value

/-- What is sorted by a decimal ascends by it, and equal values keep their order. -/
theorem pairwise_mergeSort {α : Type} (key : α → Decimal) (list : List α) :
    (list.mergeSort fun one other => key one ≤ key other).Pairwise fun one other =>
      key one ≤ key other ∧ (key other ≤ key one → [one, other].Sublist list) := by
  have stable : (list.mergeSort fun one other => key one ≤ key other).Pairwise fun one other =>
      decide (key one ≤ key other) = true ∧
        (decide (key other ≤ key one) = true → [one, other].Sublist list) := by
    apply StableSort.pairwise_mergeSort
    · intro first second third
      simpa only [decide_eq_true_eq] using le_trans
    · intro one other
      simpa only [Bool.or_eq_true, decide_eq_true_eq] using le_total (key one) (key other)
  simpa only [decide_eq_true_eq] using stable

end Lodging.Decimal
