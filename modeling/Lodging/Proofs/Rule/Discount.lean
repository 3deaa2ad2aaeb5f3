import Lodging.Proofs.Decimal.Range
import Lodging.Rule.Apply

/-! # Discounts in percent

The discount of a rate in percent is computed in two steps, a product and a hundredth of
it, and taken off in a third, each rounded. None of them overshoots: one hundred times the
rate can be written in the places of the product, whatever these are
(`Lodging.Decimal.hasPlaces_of_mul?`), and the rate itself in the places of its hundredth
and of the difference. So a discount is never larger than the rate
(`Lodging.Adjustment.discount_within_rate`).
-/

namespace Lodging

namespace Decimal

variable {a b c : Decimal}

theorem value_hundred : hundred.value = 100 := by
  rw [value, hundred]
  norm_num

/-- A number and what takes off at most all of it have a sum, which lies between zero and
the number. -/
theorem add?_within (least : -a.value ≤ b.value) (most : b.value ≤ 0) :
    ∃ sum, a.add? b = some sum ∧ 0 ≤ sum.value ∧ sum.value ≤ a.value ∧
      (b.value = -a.value → sum.value = 0) := by
  have nonneg : 0 ≤ a.value := by linarith
  have lower : 0 ≤ a.value + b.value := by linarith
  have upper : a.value + b.value ≤ a.value := by linarith
  -- The sum fits in the places of the number.
  have fits : |a.value + b.value| * 10 ^ a.scale < 2 ^ 96 - 1 / 2 := by
    have digits := a.abs_value_mul_lt
    rw [abs_of_nonneg nonneg] at digits
    rw [abs_of_nonneg lower]
    exact lt_of_le_of_lt (mul_le_mul_of_nonneg_right upper (by positivity)) digits
  have inRange : a.add? b ≠ none := by
    rw [Ne, add?_eq_none_iff, OutOfRange, not_le]
    have scaled : |a.value + b.value| * 1 ≤ |a.value + b.value| * 10 ^ a.scale :=
      mul_le_mul_of_nonneg_left (one_le_pow₀ (by norm_num)) (abs_nonneg _)
    linarith
  obtain ⟨sum, found⟩ := Option.ne_none_iff_exists'.mp inRange
  have near := add?_nearest found
  rw [← value_addends] at fits
  have places : a.scale ≤ sum.scale :=
    places_le_of_ofScaled? found (Nat.le_max_left _ _) a.scale_le fits
  refine ⟨sum, found, near.nonneg lower, near.le (a.hasPlaces_value.mono places) upper,
    fun opposite => ?_⟩
  have zero : a.value + b.value = 0 := by linarith
  exact le_antisymm (near.nonpos zero.le) (near.nonneg zero.ge)

end Decimal

/-- The amount that something comes to in the direction of the operation. -/
def AdjustmentOperation.signed (operation : AdjustmentOperation) (magnitude : Decimal) :
    Decimal :=
  match operation with
  | .subtract => -magnitude
  | .add | .multiply => magnitude

namespace Adjustment

variable {adjustment : Adjustment} {rate magnitude amount : Decimal}

/-- The value of an accepted adjustment is within its bounds. -/
theorem of_fault?_eq_none (accepted : adjustment.fault? = none) :
    0 ≤ adjustment.value.value ∧
      ∀ limit ∈ adjustment.limit?, adjustment.value.value ≤ limit.value := by
  rw [fault?] at accepted
  split at accepted
  · exact nomatch accepted
  · rename_i positive
    rw [Bool.not_eq_true, ← Decimal.zero_le_iff, Decimal.le_iff_value_le,
      Decimal.value_zero] at positive
    refine ⟨positive, fun limit bound => ?_⟩
    rw [Option.mem_def.mp bound] at accepted
    simp only [ite_eq_right_iff, reduceCtorEq, imp_false] at accepted
    rw [Decimal.lt_iff_value_lt, not_lt] at accepted
    exact accepted

theorem magnitude?_percentage (kind : adjustment.kind = .percentage) :
    adjustment.magnitude? rate = some magnitude ↔
      ∃ product, rate.mul? adjustment.value = some product ∧ product.hundredth = magnitude := by
  rw [magnitude?, kind, Option.map_eq_some_iff]

theorem delta?_eq_some_iff : adjustment.delta? rate = some amount ↔
    ∃ magnitude, adjustment.magnitude? rate = some magnitude ∧
      adjustment.operation.signed magnitude = amount :=
  Option.map_eq_some_iff

/-- Some percent of a rate, at most one hundred, are between nothing and the rate. -/
theorem magnitude?_within (kind : adjustment.kind = .percentage)
    (least : 0 ≤ adjustment.value.value) (most : adjustment.value.value ≤ 100)
    (nonneg : 0 ≤ rate.value) (found : adjustment.magnitude? rate = some magnitude) :
    0 ≤ magnitude.value ∧ magnitude.value ≤ rate.value ∧
      (adjustment.value.value = 100 → magnitude.value = rate.value) := by
  obtain ⟨product, multiplied, rfl⟩ := (magnitude?_percentage kind).mp found
  have near := Decimal.mul?_nearest multiplied
  have places : Decimal.HasPlaces (100 * rate.value) product.scale := by
    have square : |adjustment.value.value| ≤ 10 ^ 2 := by
      rw [abs_of_nonneg least]
      linarith
    have shifted := Decimal.hasPlaces_of_mul? square multiplied
    rwa [show (10 : ℚ) ^ 2 = 100 by norm_num] at shifted
  have below : product.value ≤ 100 * rate.value := near.le places (by nlinarith)
  have positive : 0 ≤ product.value := near.nonneg (mul_nonneg nonneg least)
  have within := Decimal.hundredth_le rate.hasPlaces_most below
  refine ⟨Decimal.hundredth_nonneg positive, within, fun full => ?_⟩
  have whole : 100 * rate.value ≤ product.value := near.ge places (by rw [full]; linarith)
  exact le_antisymm within (Decimal.le_hundredth rate.hasPlaces_most whole)

/-- A discount in percent takes off at most the rate. -/
theorem delta?_discount (kind : adjustment.kind = .percentage)
    (operation : adjustment.operation = .subtract) (accepted : adjustment.fault? = none)
    (nonneg : 0 ≤ rate.value) (given : adjustment.delta? rate = some amount) :
    -rate.value ≤ amount.value ∧ amount.value ≤ 0 ∧
      (adjustment.value.value = 100 → amount.value = -rate.value) := by
  obtain ⟨least, bounds⟩ := of_fault?_eq_none accepted
  have limit : adjustment.limit? = some .hundred := by
    rw [limit?, kind, operation]
  have most := bounds .hundred limit
  rw [Decimal.value_hundred] at most
  obtain ⟨magnitude, found, same⟩ := delta?_eq_some_iff.mp given
  obtain ⟨positive, within, full⟩ := magnitude?_within kind least most nonneg found
  rw [operation] at same
  obtain rfl : -magnitude = amount := same
  rw [Decimal.value_neg]
  exact ⟨neg_le_neg within, neg_nonpos.mpr positive, fun all => congrArg Neg.neg (full all)⟩

/-- **Discounts stay within the rate.** What an accepted discount in percent takes off a
rate that is not negative is at most the rate; it can be taken off, which leaves between
nothing and the rate, and nothing of it if all of it is taken off. -/
theorem discount_within_rate (kind : adjustment.kind = .percentage)
    (operation : adjustment.operation = .subtract) (accepted : adjustment.fault? = none)
    (nonneg : .zero ≤ rate) (given : adjustment.delta? rate = some amount) :
    -rate ≤ amount ∧ amount ≤ .zero ∧
      ∃ next, rate.add? amount = some next ∧ .zero ≤ next ∧ next ≤ rate ∧
        (adjustment.value.value = 100 → next.value = 0) := by
  rw [Decimal.le_iff_value_le, Decimal.value_zero] at nonneg
  obtain ⟨least, most, full⟩ := delta?_discount kind operation accepted nonneg given
  obtain ⟨next, added, lower, upper, nothing⟩ := Decimal.add?_within least most
  simp only [Decimal.le_iff_value_le, Decimal.value_neg, Decimal.value_zero]
  exact ⟨least, most, next, added, lower, upper, fun all => nothing (full all)⟩

end Adjustment

/-! ## A rate with all digits that there are -/

namespace Sample

/-- The largest number that has 28 places. -/
def finest : Decimal :=
  (Decimal.ofHundredths 79228162514264337593543950335).overPowerOfTen 26

def discount (percent : Decimal) : Adjustment where
  kind := .percentage
  operation := .subtract
  value := percent

end Sample

open Sample in
/-- A third of the rate, which is rounded twice, is less than the rate, and the whole of it
leaves nothing. -/
theorem Adjustment.discount_within_rate_of_all_digits :
    (discount (.ofHundredths 3333)).fault? = none ∧ (discount .hundred).fault? = none ∧
    .zero ≤ finest ∧
    (∃ amount next, (discount (.ofHundredths 3333)).delta? finest = some amount ∧
      -finest ≤ amount ∧ amount ≤ .zero ∧ finest.add? amount = some next ∧
      .zero ≤ next ∧ next ≤ finest) ∧
    ∃ amount next, (discount .hundred).delta? finest = some amount ∧
      finest.add? amount = some next ∧ next.value = 0 := by
  have third : (discount (.ofHundredths 3333)).fault? = none := by decide
  have whole : (discount .hundred).fault? = none := by decide
  have nonneg : Decimal.zero ≤ finest := by decide
  have given : ((discount (.ofHundredths 3333)).delta? finest).isSome = true := by
    decide +kernel
  have givenToo : ((discount .hundred).delta? finest).isSome = true := by decide +kernel
  obtain ⟨amount, given⟩ := Option.isSome_iff_exists.mp given
  obtain ⟨all, givenToo⟩ := Option.isSome_iff_exists.mp givenToo
  obtain ⟨least, most, next, added, lower, upper, _⟩ :=
    discount_within_rate rfl rfl third nonneg given
  obtain ⟨_, _, rest, addedToo, _, _, nothing⟩ :=
    discount_within_rate rfl rfl whole nonneg givenToo
  exact ⟨third, whole, nonneg, ⟨amount, next, given, least, most, added, lower, upper⟩,
    all, rest, givenToo, addedToo, nothing Decimal.value_hundred⟩

end Lodging
