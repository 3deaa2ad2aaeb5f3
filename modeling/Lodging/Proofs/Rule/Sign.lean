import Lodging.Proofs.Rule.Discount
import Lodging.Proofs.Rule.Replay

/-! # The sign of what rules did

The operation of an accepted adjustment gives the direction in which it changes a rate,
except that some percent of a rate below zero point the other way
(`Lodging.Adjustment.carries_iff`). Rates are not below zero to begin with, and neither
what is added nor a discount in percent leads there; a fixed discount does that is larger
than the rate it finds (`Lodging.Adjustment.undercuts_of_add?`). So amounts on record have
the sign of their operation up to the first such discount
(`Lodging.Rule.amounts_carry_sign`).
-/

namespace Lodging

namespace AdjustmentOperation

variable {operation : AdjustmentOperation} {magnitude : Decimal}

/-- The amount has the direction of the operation. -/
def Carries (operation : AdjustmentOperation) (amount : Decimal) : Prop :=
  match operation with
  | .subtract => amount ≤ .zero
  | .add | .multiply => .zero ≤ amount

instance : (operation : AdjustmentOperation) → (amount : Decimal) →
    Decidable (operation.Carries amount)
  | .subtract, amount => inferInstanceAs (Decidable (amount ≤ .zero))
  | .add, amount | .multiply, amount => inferInstanceAs (Decidable (.zero ≤ amount))

theorem carries_signed : operation.Carries (operation.signed magnitude) ↔ 0 ≤ magnitude.value := by
  cases operation with
  | subtract =>
      change -magnitude ≤ Decimal.zero ↔ _
      rw [Decimal.le_iff_value_le, Decimal.value_neg, Decimal.value_zero, neg_nonpos]
  | add =>
      change Decimal.zero ≤ magnitude ↔ _
      rw [Decimal.le_iff_value_le, Decimal.value_zero]
  | multiply =>
      change Decimal.zero ≤ magnitude ↔ _
      rw [Decimal.le_iff_value_le, Decimal.value_zero]

theorem value_signed_eq_zero : (operation.signed magnitude).value = 0 ↔ magnitude.value = 0 := by
  cases operation with
  | subtract =>
      change (-magnitude).value = 0 ↔ _
      rw [Decimal.value_neg, neg_eq_zero]
  | add => exact Iff.rfl
  | multiply => exact Iff.rfl

end AdjustmentOperation

namespace Adjustment

variable {adjustment : Adjustment} {rate magnitude amount next : Decimal}

/-- What an adjustment comes to is not negative, unless it is some percent of a rate below
zero. -/
theorem magnitude?_nonneg (accepted : adjustment.fault? = none)
    (above : adjustment.kind = .percentage → 0 ≤ rate.value)
    (found : adjustment.magnitude? rate = some magnitude) : 0 ≤ magnitude.value := by
  obtain ⟨least, _⟩ := of_fault?_eq_none accepted
  cases kind : adjustment.kind with
  | percentage =>
      obtain ⟨product, multiplied, rfl⟩ := (magnitude?_percentage kind).mp found
      exact Decimal.hundredth_nonneg (Decimal.mul?_nonneg (above kind) least multiplied)
  | fixedAmount =>
      rw [magnitude?, kind] at found
      obtain rfl := Option.some.inj found
      exact least
  | unknown =>
      rw [magnitude?, kind] at found
      obtain rfl := Option.some.inj found
      exact Decimal.value_zero.ge

theorem magnitude?_nonpos (kind : adjustment.kind = .percentage)
    (accepted : adjustment.fault? = none) (below : rate.value ≤ 0)
    (found : adjustment.magnitude? rate = some magnitude) : magnitude.value ≤ 0 := by
  obtain ⟨least, _⟩ := of_fault?_eq_none accepted
  obtain ⟨product, multiplied, rfl⟩ := (magnitude?_percentage kind).mp found
  have sign : product.value ≤ 0 :=
    (Decimal.mul?_nearest multiplied).nonpos (mul_nonpos_of_nonpos_of_nonneg below least)
  exact Decimal.hundredth_nonpos sign

/-- An amount has the direction of its operation exactly if it is not some percent of a
rate below zero, or nothing. -/
theorem carries_iff (accepted : adjustment.fault? = none)
    (given : adjustment.delta? rate = some amount) :
    adjustment.operation.Carries amount ↔
      (adjustment.kind = .percentage → rate < .zero → amount.value = 0) := by
  obtain ⟨magnitude, found, rfl⟩ := delta?_eq_some_iff.mp given
  rw [AdjustmentOperation.carries_signed, AdjustmentOperation.value_signed_eq_zero,
    Decimal.lt_iff_value_lt, Decimal.value_zero]
  constructor
  · intro positive kind below
    exact le_antisymm (magnitude?_nonpos kind accepted below.le found) positive
  · intro turned
    by_cases above : adjustment.kind = .percentage → 0 ≤ rate.value
    · exact magnitude?_nonneg accepted above found
    · rw [Classical.not_imp, not_le] at above
      exact (turned above.1 above.2).ge

/-- The adjustment takes a fixed amount off a rate that is not negative, but less than the
amount. -/
structure Undercuts (adjustment : Adjustment) (rate : Decimal) : Prop where
  kind : adjustment.kind = .fixedAmount
  operation : adjustment.operation = .subtract
  nonneg : .zero ≤ rate
  less : rate < adjustment.value

/-- Only such an adjustment leads below zero. -/
theorem undercuts_of_add? (accepted : adjustment.fault? = none) (nonneg : 0 ≤ rate.value)
    (given : adjustment.delta? rate = some amount) (added : rate.add? amount = some next)
    (below : next.value < 0) : adjustment.Undercuts rate := by
  have short : amount.value < -rate.value := by
    by_contra enough
    have sum : 0 ≤ next.value := (Decimal.add?_nearest added).nonneg (by linarith)
    linarith
  obtain ⟨magnitude, found, same⟩ := delta?_eq_some_iff.mp given
  have positive := magnitude?_nonneg accepted (fun _ => nonneg) found
  cases operation : adjustment.operation with
  | subtract =>
      cases kind : adjustment.kind with
      | percentage =>
          have within := (delta?_discount kind operation accepted nonneg given).1
          linarith
      | fixedAmount =>
          rw [magnitude?, kind] at found
          obtain rfl := Option.some.inj found
          rw [operation] at same
          obtain rfl : -adjustment.value = amount := same
          rw [Decimal.value_neg, neg_lt_neg_iff] at short
          refine ⟨kind, operation, ?_, Decimal.lt_iff_value_lt.mpr short⟩
          rwa [Decimal.le_iff_value_le, Decimal.value_zero]
      | unknown =>
          rw [magnitude?, kind] at found
          obtain rfl := Option.some.inj found
          rw [operation] at same
          obtain rfl : -Decimal.zero = amount := same
          rw [Decimal.value_neg, Decimal.value_zero] at short
          linarith
  | add =>
      rw [operation] at same
      obtain rfl : magnitude = amount := same
      linarith
  | multiply =>
      rw [operation] at same
      obtain rfl : magnitude = amount := same
      linarith

end Adjustment

namespace Rule

variable {order rules : List Rule} {base final rate : Decimal} {trail : List AppliedRule}
  {context : RuleContext}

/-- **No rate is below zero by itself.** Where one is, a fixed discount before it was larger
than the rate it was taken off. -/
theorem Replays.undercut (replays : Replays order base trail final) (nonneg : 0 ≤ base.value)
    (accepted : ∀ rule ∈ order, rule.adjustment.fault? = none) {place : Nat}
    (reached : AppliedRule.reach? base (trail.take place) = some rate) (below : rate.value < 0) :
    ∃ earlier < place, ∃ discount found, order[earlier]? = some discount ∧
      AppliedRule.reach? base (trail.take earlier) = some found ∧
        discount.adjustment.Undercuts found := by
  induction place generalizing rate with
  | zero =>
      obtain rfl : base = rate := Option.some.inj reached
      exact absurd below (not_lt.mpr nonneg)
  | succ place ih =>
      -- What holds of an earlier place holds of this one.
      have later {earlier : Nat} (inside : earlier < place) : earlier < place + 1 :=
        Nat.lt_succ_of_lt inside
      cases found : trail[place]? with
      | none =>
          rw [List.take_add_one, found, Option.toList_none, List.append_nil] at reached
          obtain ⟨earlier, inside, rest⟩ := ih reached below
          exact ⟨earlier, later inside, rest⟩
      | some entry =>
          rw [AppliedRule.reach?_take_succ found, Option.bind_eq_some_iff] at reached
          obtain ⟨before, reached, added⟩ := reached
          by_cases negative : before.value < 0
          · obtain ⟨earlier, inside, rest⟩ := ih reached negative
            exact ⟨earlier, later inside, rest⟩
          · have inside : place < order.length := by
              rw [← replays.length]
              exact (List.getElem?_eq_some_iff.mp found).1
            have own : order[place]? = some order[place] := List.getElem?_eq_getElem inside
            obtain ⟨_, rate, same, given⟩ := replays.entry place _ entry own found
            obtain rfl := Option.some.inj (same.symm.trans reached)
            exact ⟨place, Nat.lt_succ_self place, order[place], rate, own, reached,
              Adjustment.undercuts_of_add? (accepted _ (List.getElem_mem inside))
                (not_lt.mp negative) given added below⟩

/-- **Signs.** Where accepted rules have changed a rate that is not negative, each amount on
record has the direction of its operation, unless it is some percent of a rate below zero;
and a rate is below zero only after a fixed discount that was larger than the rate it was
taken off. -/
theorem amounts_carry_sign (nonneg : .zero ≤ base)
    (accepted : ∀ rule ∈ rules, rule.adjustment.fault? = none)
    (success : applyAll? base rules context = some (final, trail)) :
    trail.length = (firing rules context).length ∧
    ∀ place rule entry, (firing rules context)[place]? = some rule → trail[place]? = some entry →
      ∃ rate, AppliedRule.reach? base (trail.take place) = some rate ∧
        (rule.adjustment.operation.Carries entry.amount ↔
          (rule.adjustment.kind = .percentage → rate < .zero → entry.amount.value = 0)) ∧
        (rate < .zero → ∃ earlier < place, ∃ discount found,
          (firing rules context)[earlier]? = some discount ∧
            AppliedRule.reach? base (trail.take earlier) = some found ∧
              discount.adjustment.Undercuts found) := by
  have replays := applyInOrder?_eq_some_iff.mp success
  have acceptedFiring : ∀ rule ∈ firing rules context, rule.adjustment.fault? = none := by
    intro rule member
    have fires := (firing_byPriority rules context).perm.mem_iff.mp member
    exact accepted rule (List.mem_filter.mp fires).1
  rw [Decimal.le_iff_value_le, Decimal.value_zero] at nonneg
  refine ⟨replays.length, fun place rule entry inside found => ?_⟩
  obtain ⟨_, rate, reached, given⟩ := replays.entry place rule entry inside found
  refine ⟨rate, reached, ?_, fun below => ?_⟩
  · exact Adjustment.carries_iff (acceptedFiring rule (List.mem_of_getElem? inside)) given
  · rw [Decimal.lt_iff_value_lt, Decimal.value_zero] at below
    exact replays.undercut nonneg acceptedFiring reached below

end Rule

/-! ## A discount of a rate below zero -/

namespace Sample

def twenty : Decimal := .ofHundredths 2000

/-- The amount of one, with the places of a product. -/
def one : Decimal where
  mantissa := 10000
  scale := 4

/-- The first discount takes off more than there is, and the second is some percent. -/
def discounts : List Rule :=
  [always 2 .fixedAmount .subtract twenty, always 1 .percentage .subtract ten]

theorem firing_discounts : Rule.firing discounts oneNight = discounts :=
  List.mergeSort_of_pairwise (by decide)

theorem discounts_accepted : ∀ rule ∈ discounts, rule.adjustment.fault? = none := by
  decide

theorem applyAll?_discounts : ∃ final first second,
    Rule.applyAll? ten discounts oneNight = some (final, [first, second]) ∧
      first.amount = -twenty ∧ second.amount = one := by
  have computed : ((Rule.applyAll? ten discounts oneNight).map fun applied =>
      applied.2.map (·.amount)) = some [-twenty, one] := by
    rw [Rule.applyAll?, firing_discounts]
    decide +kernel
  obtain ⟨⟨final, trail⟩, success, amounts⟩ := Option.map_eq_some_iff.mp computed
  obtain ⟨first, _, rfl, taken, rest⟩ := List.map_eq_cons_iff.mp amounts
  obtain ⟨second, _, rfl, given, none⟩ := List.map_eq_cons_iff.mp rest
  obtain rfl := List.map_eq_nil_iff.mp none
  exact ⟨final, first, second, success, taken, given⟩

end Sample

open Sample in
/-- Ten percent taken off a rate of −10 are on record as 1. -/
theorem Rule.discount_raises_rate :
    .zero ≤ ten ∧ (∀ rule ∈ discounts, rule.adjustment.fault? = none) ∧
    ∃ final trail rule entry, applyAll? ten discounts oneNight = some (final, trail) ∧
      (firing discounts oneNight)[1]? = some rule ∧ trail[1]? = some entry ∧
      rule.adjustment.operation = .subtract ∧ .zero < entry.amount := by
  obtain ⟨final, first, second, success, _, given⟩ := applyAll?_discounts
  refine ⟨by decide, discounts_accepted, final, _, always 1 .percentage .subtract ten, second,
    success, ?_, rfl, rfl, ?_⟩
  · rw [firing_discounts]
    rfl
  · rw [given]
    decide

open Sample in
/-- The discount of 20 has its sign, and the one after it has not: the rate is below zero
then, since the 20 were taken off a rate of less. -/
theorem Rule.amounts_carry_sign_until_undercut :
    .zero ≤ ten ∧ (∀ rule ∈ discounts, rule.adjustment.fault? = none) ∧
    ∃ final first second, applyAll? ten discounts oneNight = some (final, [first, second]) ∧
      AdjustmentOperation.subtract.Carries first.amount ∧
      ¬ AdjustmentOperation.subtract.Carries second.amount ∧
      ∃ earlier < 1, ∃ discount found, discounts[earlier]? = some discount ∧
        AppliedRule.reach? ten ([first, second].take earlier) = some found ∧
        discount.adjustment.Undercuts found := by
  obtain ⟨final, first, second, success, _, given⟩ := applyAll?_discounts
  have nonneg : .zero ≤ ten := by decide
  obtain ⟨_, signs⟩ := amounts_carry_sign nonneg discounts_accepted success
  rw [firing_discounts] at signs
  obtain ⟨_, _, carries, _⟩ := signs 0 _ first rfl rfl
  obtain ⟨rate, reached, turned, undercut⟩ := signs 1 _ second rfl rfl
  have raised : ¬ AdjustmentOperation.subtract.Carries second.amount := by
    rw [given]
    decide
  refine ⟨nonneg, discounts_accepted, final, first, second, success, ?_, raised, undercut ?_⟩
  · exact carries.mpr fun kind => nomatch kind
  · by_contra above
    exact raised (turned.mpr fun _ below => absurd below above)

end Lodging
