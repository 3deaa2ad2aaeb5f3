import Lodging.Proofs.Rule.Discount
import Lodging.Proofs.Rule.Replay

/-! # Rates stay in range

The values of accepted adjustments are bounded, so a single rule makes a rate larger by a
bounded factor and a bounded amount: some percent are at most ten times the rate, and a fixed
amount is at most a million (`Lodging.Adjustment.magnitude?_abs_le`). The product and its
hundredth are rounded, but not beyond these bounds, as they can be written in the places of
the results; the sum may pass its bound where digits are lost, by a share that is far below
what the factor of twelve leaves room for (`Lodging.Rule.next_abs_le`). From one rule to the
next the bounds multiply and add up to `Lodging.Rule.ceiling`, and as long as the ceiling of
all rules is in range, no rule overflows (`Lodging.Rule.rates_in_range`).
-/

namespace Lodging

theorem Decimal.value_thousand : Decimal.thousand.value = 1000 := by
  rw [value, thousand]
  norm_num

theorem Decimal.value_million : Decimal.million.value = 1000000 := by
  rw [value, million]
  norm_num

theorem AdjustmentOperation.abs_value_signed (operation : AdjustmentOperation)
    (magnitude : Decimal) : |(operation.signed magnitude).value| = |magnitude.value| := by
  cases operation with
  | subtract =>
      change |(-magnitude).value| = _
      rw [Decimal.value_neg, abs_neg]
  | add => rfl
  | multiply => rfl

namespace Adjustment

variable {adjustment : Adjustment} {rate magnitude amount : Decimal}

/-- No accepted percentage is above one thousand. -/
theorem percentage_le (accepted : adjustment.fault? = none) (kind : adjustment.kind = .percentage) :
    adjustment.value.value ≤ 1000 := by
  have bounds := (of_fault?_eq_none accepted).2
  cases operation : adjustment.operation with
  | subtract =>
      have most := bounds .hundred (by rw [limit?, kind, operation]; rfl)
      rw [Decimal.value_hundred] at most
      linarith
  | _ =>
      have most := bounds .thousand (by rw [limit?, kind, operation]; rfl)
      rwa [Decimal.value_thousand] at most

/-- No accepted fixed amount is above a million. -/
theorem fixedAmount_le (accepted : adjustment.fault? = none)
    (kind : adjustment.kind = .fixedAmount) : adjustment.value.value ≤ 1000000 := by
  have most := (of_fault?_eq_none accepted).2 .million (by rw [limit?, kind]; rfl)
  rwa [Decimal.value_million] at most

/-- What an accepted adjustment comes to is at most ten times the rate and a million. -/
theorem magnitude?_abs_le (accepted : adjustment.fault? = none)
    (found : adjustment.magnitude? rate = some magnitude) :
    |magnitude.value| ≤ 10 * |rate.value| + 1000000 := by
  obtain ⟨least, _⟩ := of_fault?_eq_none accepted
  have nonneg := abs_nonneg rate.value
  cases kind : adjustment.kind with
  | percentage =>
      obtain ⟨product, multiplied, rfl⟩ := (magnitude?_percentage kind).mp found
      have most : |adjustment.value.value| ≤ 10 ^ 3 := by
        rw [abs_of_nonneg least]
        linarith [percentage_le accepted kind]
      have bound : |product.value| ≤ 100 * (10 * |rate.value|) := by
        linarith [Decimal.mul?_abs_le most multiplied]
      have written : Decimal.HasPlaces (10 * |rate.value|) 28 := by
        simpa using rate.hasPlaces_most.abs.mul_add 10 0
      linarith [Decimal.abs_hundredth_le written bound]
  | fixedAmount =>
      rw [magnitude?, kind] at found
      obtain rfl := Option.some.inj found
      rw [abs_of_nonneg least]
      linarith [fixedAmount_le accepted kind]
  | unknown =>
      rw [magnitude?, kind] at found
      obtain rfl := Option.some.inj found
      rw [Decimal.value_zero, abs_zero]
      linarith

theorem delta?_abs_le (accepted : adjustment.fault? = none)
    (given : adjustment.delta? rate = some amount) :
    |amount.value| ≤ 10 * |rate.value| + 1000000 := by
  obtain ⟨magnitude, found, rfl⟩ := delta?_eq_some_iff.mp given
  rw [AdjustmentOperation.abs_value_signed]
  exact magnitude?_abs_le accepted found

/-- An accepted adjustment gives an amount for every rate whose thousandfold is in range. -/
theorem exists_delta? (accepted : adjustment.fault? = none)
    (inRange : 1000 * |rate.value| < 2 ^ 96 - 1 / 2) :
    ∃ amount, adjustment.delta? rate = some amount := by
  have found : ∃ magnitude, adjustment.magnitude? rate = some magnitude := by
    cases kind : adjustment.kind with
    | percentage =>
        obtain ⟨least, _⟩ := of_fault?_eq_none accepted
        have product : rate.mul? adjustment.value ≠ none := by
          rw [Ne, Decimal.mul?_eq_none_iff, Decimal.OutOfRange, not_le, abs_mul,
            abs_of_nonneg least]
          nlinarith [percentage_le accepted kind, abs_nonneg rate.value]
        obtain ⟨product, multiplied⟩ := Option.ne_none_iff_exists'.mp product
        exact ⟨product.hundredth, (magnitude?_percentage kind).mpr ⟨product, multiplied, rfl⟩⟩
    | fixedAmount => exact ⟨adjustment.value, by rw [magnitude?, kind]⟩
    | unknown => exact ⟨.zero, by rw [magnitude?, kind]⟩
  obtain ⟨magnitude, found⟩ := found
  exact ⟨_, delta?_eq_some_iff.mpr ⟨magnitude, found, rfl⟩⟩

end Adjustment

namespace Rule

variable {adjustment : Adjustment} {rules order : List Rule} {context : RuleContext}
  {base rate amount next : Decimal} {start : ℚ} {passed : Nat}

/-! ## One rule -/

/-- The rate after a rule is at most twelve times the rate before it and twelve millions. -/
theorem next_abs_le (accepted : adjustment.fault? = none)
    (given : adjustment.delta? rate = some amount) (added : rate.add? amount = some next) :
    |next.value| ≤ 12 * (|rate.value| + 1000000) := by
  have written : Decimal.HasPlaces (11 * |rate.value| + 1000000) rate.scale := by
    simpa using rate.hasPlaces_value.abs.mul_add 11 1000000
  have sum : |rate.value + amount.value| ≤ 11 * |rate.value| + 1000000 := by
    linarith [abs_add_le rate.value amount.value, Adjustment.delta?_abs_le accepted given]
  have bound := Decimal.add?_abs_le added written sum
  have nonneg := abs_nonneg rate.value
  linarith

/-- A rule does not overflow at a rate that is far enough from the end of the range. -/
theorem exists_next (accepted : adjustment.fault? = none)
    (inRange : 12000 * (|rate.value| + 1000000) < 2 ^ 96) :
    ∃ amount next, adjustment.delta? rate = some amount ∧ rate.add? amount = some next := by
  have nonneg := abs_nonneg rate.value
  have product : 1000 * |rate.value| < 2 ^ 96 - 1 / 2 := by linarith
  obtain ⟨amount, given⟩ := Adjustment.exists_delta? accepted product
  have sum : rate.add? amount ≠ none := by
    rw [Ne, Decimal.add?_eq_none_iff, Decimal.OutOfRange, not_le]
    linarith [abs_add_le rate.value amount.value, Adjustment.delta?_abs_le accepted given]
  obtain ⟨next, added⟩ := Option.ne_none_iff_exists'.mp sum
  exact ⟨amount, next, given, added⟩

/-! ## All rules -/

/-- No rate is above the ceiling after so many accepted rules. -/
def ceiling (base : ℚ) (rules : Nat) : ℚ :=
  12 ^ rules * (base + rules * 1000000)

theorem ceiling_nonneg (nonneg : 0 ≤ start) (rules : Nat) : 0 ≤ ceiling start rules := by
  rw [ceiling]
  positivity

/-- One rule more raises the ceiling by as much as it can raise a rate. -/
theorem ceiling_succ (start : ℚ) (rules : Nat) :
    12 * (ceiling start rules + 1000000) ≤ ceiling start (rules + 1) := by
  have power : (1 : ℚ) ≤ 12 ^ rules := one_le_pow₀ (by norm_num)
  have raised : ceiling start (rules + 1) = 12 * (ceiling start rules + 12 ^ rules * 1000000) := by
    simp only [ceiling]
    push_cast
    ring
  rw [raised]
  linarith

theorem ceiling_mono (nonneg : 0 ≤ start) {fewer more : Nat} (within : fewer ≤ more) :
    ceiling start fewer ≤ ceiling start more := by
  have step (rules : Nat) : ceiling start rules ≤ ceiling start (rules + 1) := by
    linarith [ceiling_succ start rules, ceiling_nonneg nonneg rules]
  exact monotone_nat_of_le_succ step within

/-- From a rate below a ceiling, rules lead to a rate if the ceiling after all of them is in
range, and after each of them the rate is below its ceiling. -/
theorem applyInOrder?_below_ceiling (accepted : ∀ rule ∈ order, rule.adjustment.fault? = none)
    (nonneg : 0 ≤ start) (below : |rate.value| ≤ ceiling start passed)
    (inRange : 1000 * ceiling start (passed + order.length) < 2 ^ 96) :
    ∃ final trail, applyInOrder? rate order = some (final, trail) ∧
      ∀ place ≤ order.length, ∃ reached,
        AppliedRule.reach? rate (trail.take place) = some reached ∧
          |reached.value| ≤ ceiling start (passed + place) := by
  induction order generalizing rate passed with
  | nil =>
      refine ⟨rate, [], rfl, fun place none => ⟨rate, ?_, ?_⟩⟩
      · rw [List.take_nil]
        rfl
      · exact below.trans (ceiling_mono nonneg (Nat.le_add_right passed place))
  | cons rule rest ih =>
      obtain ⟨own, others⟩ := List.forall_mem_cons.mp accepted
      have shifted (count : Nat) : passed + (count + 1) = passed + 1 + count := by omega
      have raised := ceiling_succ start passed
      have most := ceiling_mono nonneg (Nat.le_add_right (passed + 1) rest.length)
      rw [List.length_cons, shifted] at inRange
      have here : 12000 * (|rate.value| + 1000000) < 2 ^ 96 := by linarith
      obtain ⟨amount, next, given, added⟩ := exists_next own here
      have there : |next.value| ≤ ceiling start (passed + 1) := by
        linarith [next_abs_le own given added]
      obtain ⟨final, trail, applied, reached⟩ := ih others there inRange
      refine ⟨final, rule.applied amount :: trail, ?_, fun place inside => ?_⟩
      · simp only [applyInOrder?, given, added, applied, bind, Option.bind_some]
      · cases place with
        | zero => exact ⟨rate, rfl, below⟩
        | succ place =>
            rw [List.take_succ_cons, AppliedRule.reach?_cons, shifted]
            obtain ⟨later, led, bounded⟩ := reached place (Nat.le_of_succ_le_succ inside)
            refine ⟨later, ?_, bounded⟩
            change (rate.add? amount).bind _ = _
            rw [added]
            exact led

/-- **Rates stay in range.** Where accepted rules fire on a night, `fired` of them, and the
ceiling of so many rules over a rate that is not negative is a thousandth of the range at
most, there is a rate in the end, and no rate on the way to it is above the ceiling. -/
theorem rates_in_range {fired : Nat} (nonneg : .zero ≤ base)
    (accepted : ∀ rule ∈ rules, rule.adjustment.fault? = none)
    (count : (rules.countP fun rule => rule.trigger.fires context) = fired)
    (inRange : 1000 * 12 ^ fired * (base.value + fired * 1000000) < 2 ^ 96) :
    ∃ final trail, applyAll? base rules context = some (final, trail) ∧
      trail.length = fired ∧ AppliedRule.reach? base trail = some final ∧
      ∀ place, ∃ rate, AppliedRule.reach? base (trail.take place) = some rate ∧
        |rate.value| ≤ 12 ^ fired * (base.value + fired * 1000000) := by
  have perm := (firing_byPriority rules context).perm
  have length : (firing rules context).length = fired := by
    rw [perm.length_eq, ← List.countP_eq_length_filter, count]
  have acceptedFiring : ∀ rule ∈ firing rules context, rule.adjustment.fault? = none :=
    fun rule member => accepted rule (List.mem_of_mem_filter (perm.mem_iff.mp member))
  rw [Decimal.le_iff_value_le, Decimal.value_zero] at nonneg
  have start : |base.value| ≤ ceiling base.value 0 := by
    rw [abs_of_nonneg nonneg, ceiling]
    norm_num
  obtain ⟨final, trail, applied, reached⟩ :=
    applyInOrder?_below_ceiling acceptedFiring nonneg start (by
      rw [Nat.zero_add, length, ceiling]
      linarith)
  have replays := applyInOrder?_eq_some_iff.mp applied
  have whole : trail.length = fired := replays.length.trans length
  refine ⟨final, trail, applied, whole, replays.final, fun place => ?_⟩
  -- After the last rule there are no more rates.
  have same : trail.take place = trail.take (min place fired) := by
    rw [← whole, List.take_eq_take_min]
  obtain ⟨rate, led, bounded⟩ := reached (min place fired) (length ▸ Nat.min_le_right _ _)
  rw [Nat.zero_add] at bounded
  exact ⟨rate, same ▸ led, bounded.trans (ceiling_mono nonneg (Nat.min_le_right _ _))⟩

end Rule

/-! ## Rates on both sides of zero -/

namespace Sample

/-- Ten times the rate is added twice, and a million taken off in between; the last rule is for
bookings far ahead. -/
def swings : List Rule :=
  [always 3 .percentage .add .thousand, always 2 .fixedAmount .subtract .million,
    always 1 .percentage .multiply .thousand,
    { always 4 .fixedAmount .add .million with trigger := .earlyBird 30 }]

end Sample

open Sample in
/-- A rate of 100 goes to 1100, −998900 and −10987900, and each is below the ceiling of the
three rules that fire. -/
theorem Rule.rates_in_range_around_zero :
    Decimal.zero ≤ .hundred ∧ (∀ rule ∈ swings, rule.adjustment.fault? = none) ∧
    (swings.countP fun rule => rule.trigger.fires oneNight) = 3 ∧
    1000 * 12 ^ 3 * (Decimal.hundred.value + (3 : ℕ) * 1000000) < 2 ^ 96 ∧
    ∃ final trail, applyAll? .hundred swings oneNight = some (final, trail) ∧
      trail.length = 3 ∧ some final = Decimal.ofInt? (-10987900) ∧
      |final.value| ≤ 12 ^ 3 * (Decimal.hundred.value + (3 : ℕ) * 1000000) ∧
      ∃ rate, AppliedRule.reach? .hundred (trail.take 2) = some rate ∧
        |rate.value| ≤ 12 ^ 3 * (Decimal.hundred.value + (3 : ℕ) * 1000000) := by
  have nonneg : Decimal.zero ≤ .hundred := by decide
  have accepted : ∀ rule ∈ swings, rule.adjustment.fault? = none := by decide
  have count : (swings.countP fun rule => rule.trigger.fires oneNight) = 3 := by decide
  have inRange : 1000 * 12 ^ 3 * (Decimal.hundred.value + (3 : ℕ) * 1000000) < 2 ^ 96 := by
    rw [Decimal.value_hundred]
    norm_num
  obtain ⟨final, trail, applied, length, led, bounded⟩ :=
    rates_in_range nonneg accepted count inRange
  have sorted : firing swings oneNight = swings.take 3 := List.mergeSort_of_pairwise (by decide)
  have computed : (applyAll? .hundred swings oneNight).map (·.1) = Decimal.ofInt? (-10987900) := by
    rw [applyAll?, sorted]
    decide +kernel
  rw [applied] at computed
  obtain ⟨rate, reached, within⟩ := bounded 3
  rw [← length, List.take_length, led] at reached
  obtain rfl := Option.some.inj reached
  exact ⟨nonneg, accepted, count, inRange, final, trail, applied, length, computed,
    within, bounded 2⟩

end Lodging
