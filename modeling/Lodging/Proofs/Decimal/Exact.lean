import Lodging.Proofs.Decimal.Value

/-! # Exact results

Sums and products are rounded to the most places that fit. So whenever there is a
decimal of the exact value, the operation gives one of that value and rounds
nothing (`Lodging.Decimal.ofScaled?_exact`). Rounding to cents is rounding of the
hundredfold value to a whole number, a half going away from zero
(`Lodging.Decimal.value_roundMoney`).
-/

namespace Lodging

/-- A quotient without a rest is not rounded. -/
theorem roundHalfEven_of_dvd {n d : Nat} (whole : d ∣ n) :
    roundHalfEven n d = n / d := by
  have rest : n % d = 0 := Nat.mod_eq_zero_of_dvd whole
  rcases Nat.eq_zero_or_pos d with rfl | positive
  · obtain rfl := Nat.zero_dvd.mp whole
    rfl
  · simp only [roundHalfEven, rest]
    rw [if_neg (by omega)]

/-- The whole number nearest to a rational number; a half goes away from zero. -/
def roundHalfAway (x : ℚ) : ℤ :=
  if x < 0 then -round (-x) else round x

/-- Rounding a quotient with halves going up is rounding its rational value. -/
theorem roundHalfUp_eq_round {n d : Nat} (positive : 0 < d) :
    (roundHalfUp n d : ℤ) = round ((n : ℚ) / d) := by
  have divisor : (0 : ℚ) < d := Nat.cast_pos.mpr positive
  have parts : d * (n / d) + n % d = n := Nat.div_add_mod n d
  have below : n % d < d := Nat.mod_lt n positive
  simp only [roundHalfUp]
  generalize n / d = quotient at parts ⊢
  generalize n % d = rest at parts below ⊢
  have whole : (n : ℚ) = d * quotient + rest := by exact_mod_cast parts.symm
  symm
  rw [round_eq_iff, Set.mem_Ico, le_div_iff₀ divisor, div_lt_iff₀ divisor, whole]
  have least : (0 : ℚ) ≤ rest := Nat.cast_nonneg _
  have most : (rest : ℚ) < d := by exact_mod_cast below
  split
  next up =>
    have enough : (d : ℚ) ≤ 2 * rest := by exact_mod_cast up
    push_cast
    constructor <;> linarith
  next down =>
    have short : 2 * (rest : ℚ) < d := by exact_mod_cast Nat.lt_of_not_le down
    push_cast
    constructor <;> linarith

namespace Decimal

variable {a b c : Decimal} {n : Int} {scale places : Nat}

theorem withSignOf_of_nonneg (nonneg : 0 ≤ n) (magnitude : Nat) :
    withSignOf n magnitude = magnitude :=
  if_neg (Int.not_lt.mpr nonneg)

/-- Dividing the magnitude without a rest divides the number. -/
theorem withSignOf_div_mul {d : Nat} (whole : d ∣ n.natAbs) :
    withSignOf n (n.natAbs / d) * d = n := by
  have product : (n.natAbs / d) * d = n.natAbs := Nat.div_mul_cancel whole
  have cast : ((n.natAbs / d : Nat) : Int) * d = n.natAbs := by exact_mod_cast product
  simp only [withSignOf]
  split
  · rw [Int.neg_mul, cast]
    omega
  · rw [cast]
    omega

/-! ## Rounding to some places -/

/-- What is rounded to places in which it can be written keeps its value. -/
theorem roundedTo?_exact (within : places ≤ scale)
    (whole : 10 ^ (scale - places) ∣ n.natAbs) (rounded : roundedTo? n scale places = some a) :
    a.value = n / 10 ^ scale := by
  simp only [roundedTo?, Option.dite_none_right_eq_some] at rounded
  obtain ⟨_, rounded⟩ := rounded
  obtain rfl := Option.some.inj rounded
  have power : (10 : ℚ) ^ scale = 10 ^ places * 10 ^ (scale - places) := by
    rw [← pow_add, Nat.add_sub_cancel' within]
  have digits := withSignOf_div_mul whole
  have number : (n : ℚ) = withSignOf n (n.natAbs / 10 ^ (scale - places)) *
      10 ^ (scale - places) := by
    exact_mod_cast digits.symm
  have quotient : roundHalfEven n.natAbs (Nat.pow 10 (scale - places)) =
      n.natAbs / 10 ^ (scale - places) :=
    roundHalfEven_of_dvd whole
  have positive : (10 : ℚ) ^ (scale - places) ≠ 0 := by positivity
  simp only [value, quotient]
  rw [power, ← mul_div_mul_right _ _ positive, ← number]

theorem roundedTo?_of_fits (inRange : places ≤ 28) (whole : 10 ^ (scale - places) ∣ n.natAbs)
    (fits : n.natAbs / 10 ^ (scale - places) < Nat.pow 2 96) :
    ∃ a, roundedTo? n scale places = some a := by
  have quotient : roundHalfEven n.natAbs (Nat.pow 10 (scale - places)) =
      n.natAbs / 10 ^ (scale - places) :=
    roundHalfEven_of_dvd whole
  rw [← quotient] at fits
  simp only [roundedTo?]
  rw [dif_pos ⟨fits, inRange⟩]
  exact ⟨_, rfl⟩

/-- A number that fits in some places without being rounded is given with those
places or more, and keeps its value. -/
theorem fitted?_exact {least : Nat} (within : places ≤ scale) (inRange : places ≤ 28)
    (enough : least ≤ places) (whole : 10 ^ (scale - least) ∣ n.natAbs)
    (fits : n.natAbs / 10 ^ (scale - least) < Nat.pow 2 96) :
    ∃ a, fitted? n scale places = some a ∧ a.value = n / 10 ^ scale := by
  induction places with
  | zero =>
      obtain rfl : least = 0 := Nat.le_zero.mp enough
      obtain ⟨a, rounded⟩ := roundedTo?_of_fits inRange whole fits
      exact ⟨a, rounded, roundedTo?_exact within whole rounded⟩
  | succ places ih =>
      cases rounded : roundedTo? n scale (places + 1) with
      | some a =>
          have finer : 10 ^ (scale - (places + 1)) ∣ n.natAbs :=
            (Nat.pow_dvd_pow 10 (by omega)).trans whole
          refine ⟨a, ?_, roundedTo?_exact within finer rounded⟩
          rw [fitted?, rounded]
          rfl
      | none =>
          -- With exactly `least` places it would have fitted.
          have fewer : least ≤ places := by
            by_contra more
            obtain rfl : least = places + 1 := by omega
            obtain ⟨a, fitted⟩ := roundedTo?_of_fits inRange whole fits
            rw [rounded] at fitted
            exact nomatch fitted
          obtain ⟨a, found, same⟩ := ih (by omega) (by omega) fewer
          refine ⟨a, ?_, same⟩
          rw [fitted?, rounded]
          exact found

/-- A number with the value of a decimal fits in places that there are for it. -/
theorem fits_of_value (same : c.value = n / 10 ^ scale) :
    ∃ least, least ≤ min scale 28 ∧ 10 ^ (scale - least) ∣ n.natAbs ∧
      n.natAbs / 10 ^ (scale - least) < Nat.pow 2 96 := by
  have crossed : c.mantissa * 10 ^ scale = n * 10 ^ c.scale := by
    rw [value, div_eq_div_iff (by positivity) (by positivity)] at same
    exact_mod_cast same
  have magnitudes : c.mantissa.natAbs * 10 ^ scale = n.natAbs * 10 ^ c.scale := by
    have both := congrArg Int.natAbs crossed
    rwa [Int.natAbs_mul, Int.natAbs_mul, Int.natAbs_pow, Int.natAbs_pow] at both
  rcases Nat.le_total c.scale scale with fewer | more
  · -- The decimal has fewer places: its digits are those of the number without the last ones.
    have split : 10 ^ scale = 10 ^ c.scale * 10 ^ (scale - c.scale) := by
      rw [← Nat.pow_add, Nat.add_sub_cancel' fewer]
    have digits : n.natAbs = c.mantissa.natAbs * 10 ^ (scale - c.scale) := by
      rw [split, Nat.mul_left_comm, Nat.mul_comm n.natAbs] at magnitudes
      exact (Nat.eq_of_mul_eq_mul_left (Nat.pow_pos (by decide)) magnitudes).symm
    refine ⟨c.scale, Nat.le_min.mpr ⟨fewer, c.scale_le⟩, ⟨_, digits.trans (Nat.mul_comm _ _)⟩, ?_⟩
    rw [digits, Nat.mul_div_cancel _ (Nat.pow_pos (by decide))]
    exact c.mantissa_lt
  · -- The decimal has more places: the number itself fits.
    have split : 10 ^ c.scale = 10 ^ scale * 10 ^ (c.scale - scale) := by
      rw [← Nat.pow_add, Nat.add_sub_cancel' more]
    have digits : c.mantissa.natAbs = n.natAbs * 10 ^ (c.scale - scale) := by
      rw [split, Nat.mul_left_comm, Nat.mul_comm c.mantissa.natAbs] at magnitudes
      exact Nat.eq_of_mul_eq_mul_left (Nat.pow_pos (by decide)) magnitudes
    have smaller : n.natAbs ≤ c.mantissa.natAbs :=
      digits ▸ Nat.le_mul_of_pos_right _ (Nat.pow_pos (by decide))
    refine ⟨scale, Nat.le_min.mpr ⟨Nat.le_refl _, more.trans c.scale_le⟩, ?_, ?_⟩
    · rw [Nat.sub_self, Nat.pow_zero]
      exact Nat.one_dvd _
    · rw [Nat.sub_self, Nat.pow_zero, Nat.div_one]
      exact Nat.lt_of_le_of_lt smaller c.mantissa_lt

/-- **Exactness.** Where some decimal has the exact value, the result has it. -/
theorem ofScaled?_exact (same : c.value = n / 10 ^ scale) :
    ∃ a, ofScaled? n scale = some a ∧ a.value = c.value := by
  obtain ⟨least, enough, whole, fits⟩ := fits_of_value same
  obtain ⟨a, found, kept⟩ := fitted?_exact (Nat.min_le_left _ _) (Nat.min_le_right _ _) enough
    whole fits
  exact ⟨a, found, kept.trans same.symm⟩

/-! ## Sums and products -/

theorem mantissa_eq (a : Decimal) : (a.mantissa : ℚ) = a.value * 10 ^ a.scale := by
  rw [value, div_mul_cancel₀]
  positivity

/-- Both addends are brought to the same places. -/
theorem value_addends (a b : Decimal) :
    ((a.mantissa * Nat.pow 10 (max a.scale b.scale - a.scale) +
      b.mantissa * Nat.pow 10 (max a.scale b.scale - b.scale) : Int) : ℚ) /
        10 ^ max a.scale b.scale = a.value + b.value := by
  have left : (10 : ℚ) ^ max a.scale b.scale =
      10 ^ a.scale * 10 ^ (max a.scale b.scale - a.scale) := by
    rw [← pow_add, Nat.add_sub_cancel' (Nat.le_max_left _ _)]
  have right : (10 : ℚ) ^ max a.scale b.scale =
      10 ^ b.scale * 10 ^ (max a.scale b.scale - b.scale) := by
    rw [← pow_add, Nat.add_sub_cancel' (Nat.le_max_right _ _)]
  rw [div_eq_iff (by positivity)]
  simp only [Nat.pow_eq]
  push_cast
  rw [mantissa_eq, mantissa_eq, mul_assoc, mul_assoc, ← left, ← right, add_mul]

theorem value_factors (a b : Decimal) :
    ((a.mantissa * b.mantissa : Int) : ℚ) / 10 ^ (a.scale + b.scale) = a.value * b.value := by
  push_cast
  rw [mantissa_eq, mantissa_eq, pow_add]
  field_simp

/-- A sum that some decimal stands for is exact. -/
theorem add?_exact (same : c.value = a.value + b.value) :
    ∃ sum, a.add? b = some sum ∧ sum.value = a.value + b.value := by
  rw [← same]
  apply ofScaled?_exact
  rw [value_addends, same]

/-- A product that some decimal stands for is exact. -/
theorem mul?_exact (same : c.value = a.value * b.value) :
    ∃ product, a.mul? b = some product ∧ product.value = a.value * b.value := by
  rw [← same]
  apply ofScaled?_exact
  rw [value_factors, same]

/-! ## Signs and places of results -/

theorem value_nonneg_iff : 0 ≤ a.value ↔ 0 ≤ a.mantissa := by
  have positive : (0 : ℚ) < 10 ^ a.scale := by positivity
  rw [value, le_div_iff₀ positive, zero_mul, Int.cast_nonneg_iff]

/-- A result has the sign of the exact value, and no more places than that is
written with. -/
theorem of_fitted? (found : fitted? n scale places = some a) :
    a.scale ≤ places ∧ ∃ magnitude, a.mantissa = withSignOf n magnitude := by
  induction places with
  | zero =>
      simp only [fitted?, roundedTo?, Option.dite_none_right_eq_some] at found
      obtain ⟨_, found⟩ := found
      obtain rfl := Option.some.inj found
      exact ⟨Nat.le_refl 0, _, rfl⟩
  | succ places ih =>
      rw [fitted?, Option.or_eq_some_iff] at found
      rcases found with found | ⟨_, found⟩
      · simp only [roundedTo?, Option.dite_none_right_eq_some] at found
        obtain ⟨_, found⟩ := found
        obtain rfl := Option.some.inj found
        exact ⟨Nat.le_refl _, _, rfl⟩
      · exact ⟨(ih found).1.trans (Nat.le_succ places), (ih found).2⟩

theorem ofScaled?_nonneg (nonneg : 0 ≤ n) (found : ofScaled? n scale = some a) :
    0 ≤ a.value := by
  obtain ⟨magnitude, same⟩ := (of_fitted? found).2
  rw [value_nonneg_iff, same, withSignOf_of_nonneg nonneg]
  exact Int.natCast_nonneg magnitude

theorem add?_nonneg (left : 0 ≤ a.value) (right : 0 ≤ b.value) (found : a.add? b = some c) :
    0 ≤ c.value := by
  rw [value_nonneg_iff] at left right
  refine ofScaled?_nonneg ?_ found
  have one := Int.mul_nonneg left (Int.natCast_nonneg (Nat.pow 10 (max a.scale b.scale - a.scale)))
  have other :=
    Int.mul_nonneg right (Int.natCast_nonneg (Nat.pow 10 (max a.scale b.scale - b.scale)))
  exact Int.add_nonneg one other

theorem mul?_nonneg (left : 0 ≤ a.value) (right : 0 ≤ b.value) (found : a.mul? b = some c) :
    0 ≤ c.value :=
  ofScaled?_nonneg (Int.mul_nonneg (value_nonneg_iff.mp left) (value_nonneg_iff.mp right)) found

theorem add?_scale_le (found : a.add? b = some c) : c.scale ≤ max a.scale b.scale :=
  (of_fitted? found).1.trans (Nat.min_le_left _ _)

/-! ## Whole cents -/

/-- The value is a whole number of hundredths. -/
def IsCents (a : Decimal) : Prop :=
  ∃ cents : ℤ, 100 * a.value = cents

theorem isCents_of_scale_le (within : a.scale ≤ 2) : a.IsCents := by
  refine ⟨a.mantissa * 10 ^ (2 - a.scale), ?_⟩
  have hundred : (100 : ℚ) = 10 ^ a.scale * 10 ^ (2 - a.scale) := by
    rw [← pow_add, Nat.add_sub_cancel' within]
    norm_num
  push_cast
  rw [mantissa_eq, hundred]
  ring

theorem value_ofHundredths {cents : Int} (fits : cents.natAbs < Nat.pow 2 96) :
    (ofHundredths cents fits).value = cents / 100 := by
  rw [value, ofHundredths]
  norm_num

/-- An amount of money: at most two places, and not below zero. -/
structure IsMoney (a : Decimal) : Prop where
  places : a.scale ≤ 2
  nonneg : 0 ≤ a.value

theorem isMoney_zero : zero.IsMoney :=
  ⟨by decide, value_nonneg_iff.mpr (Int.le_refl 0)⟩

theorem IsMoney.isCents (money : a.IsMoney) : a.IsCents :=
  isCents_of_scale_le money.places

theorem IsMoney.add? (left : a.IsMoney) (right : b.IsMoney) (found : a.add? b = some c) :
    c.IsMoney where
  places := (add?_scale_le found).trans (Nat.max_le.mpr ⟨left.places, right.places⟩)
  nonneg := add?_nonneg left.nonneg right.nonneg found

/-- Amounts of money are added exactly as long as their sum is in range. -/
theorem IsMoney.value_add? (left : a.IsMoney) (right : b.IsMoney)
    (inRange : 100 * (a.value + b.value) < 2 ^ 96) (found : a.add? b = some c) :
    c.value = a.value + b.value := by
  obtain ⟨one, oneCents⟩ := left.isCents
  obtain ⟨other, otherCents⟩ := right.isCents
  have cents : 100 * (a.value + b.value) = ((one + other : ℤ) : ℚ) := by
    rw [mul_add, oneCents, otherCents, Int.cast_add]
  have nonneg : 0 ≤ one + other := by
    rw [← Int.cast_nonneg_iff (R := ℚ), ← cents]
    exact mul_nonneg (by norm_num) (add_nonneg left.nonneg right.nonneg)
  have below : one + other < 2 ^ 96 := by
    rw [cents] at inRange
    exact_mod_cast inRange
  have fits : (one + other).natAbs < Nat.pow 2 96 := by
    rw [Nat.pow_eq]
    omega
  have represented : (ofHundredths (one + other) fits).value = a.value + b.value := by
    rw [value_ofHundredths, ← cents]
    exact mul_div_cancel_left₀ _ (by norm_num)
  obtain ⟨sum, exact, same⟩ := add?_exact represented
  obtain rfl := Option.some.inj (found.symm.trans exact)
  exact same

/-! ## Rounding to cents -/

theorem roundHalfAway_intCast (n : ℤ) : roundHalfAway n = n := by
  simp only [roundHalfAway]
  split
  · rw [← Int.cast_neg, round_intCast, neg_neg]
  · rw [round_intCast]

/-- Halves of a signed number that go up by magnitude go away from zero. -/
theorem withSignOf_roundHalfUp {d : Nat} (positive : 0 < d) :
    withSignOf n (roundHalfUp n.natAbs d) = roundHalfAway (n / d) := by
  have divisor : (0 : ℚ) < d := Nat.cast_pos.mpr positive
  have sign : (n : ℚ) / d < 0 ↔ n < 0 := by
    rw [div_lt_iff₀ divisor, zero_mul, Int.cast_lt_zero]
  simp only [withSignOf, roundHalfAway, sign]
  rw [roundHalfUp_eq_round positive, Nat.cast_natAbs]
  split
  next below => rw [abs_of_neg below, Int.cast_neg, neg_div]
  next notBelow => rw [abs_of_nonneg (Int.not_lt.mp notBelow)]

/-- **Money.** Money is rounded once, to the nearest cent; half a cent goes away
from zero. -/
theorem value_roundMoney (a : Decimal) :
    100 * a.roundMoney.value = roundHalfAway (100 * a.value) := by
  rw [roundMoney]
  split
  next within =>
    obtain ⟨cents, same⟩ := isCents_of_scale_le within
    rw [same, roundHalfAway_intCast]
  next beyond =>
    have power : (10 : ℚ) ^ a.scale = 100 * (Nat.pow 10 (a.scale - 2) : Nat) := by
      rw [Nat.pow_eq, Nat.cast_pow, ← Nat.add_sub_cancel' (Nat.le_of_not_le beyond), pow_add]
      norm_num
    have shifted : 100 * a.value = a.mantissa / (Nat.pow 10 (a.scale - 2) : Nat) := by
      rw [value, power]
      field_simp
    have positive : 0 < Nat.pow 10 (a.scale - 2) := Nat.pow_pos (by decide)
    rw [shifted, ← withSignOf_roundHalfUp positive, value_ofHundredths]
    exact mul_div_cancel₀ _ (by norm_num)

theorem roundMoney_scale_le (a : Decimal) : a.roundMoney.scale ≤ 2 := by
  rw [roundMoney]
  split
  next within => exact within
  next => exact Nat.le_refl 2

theorem isMoney_roundMoney (nonneg : 0 ≤ a.value) : a.roundMoney.IsMoney := by
  have magnified : (0 : ℚ) ≤ 100 * a.value := by linarith
  have rounded : (0 : ℤ) ≤ roundHalfAway (100 * a.value) := by
    rw [roundHalfAway, if_neg (not_lt.mpr magnified), round_eq]
    exact Int.floor_nonneg.mpr (by linarith)
  have cast : (0 : ℚ) ≤ 100 * a.roundMoney.value := by
    rw [value_roundMoney]
    exact_mod_cast rounded
  exact ⟨roundMoney_scale_le a, by linarith⟩

/-- What is in cents already is not rounded. -/
theorem IsCents.value_roundMoney_eq (whole : a.IsCents) : a.roundMoney.value = a.value := by
  obtain ⟨cents, same⟩ := whole
  have rounded := value_roundMoney a
  rw [same, roundHalfAway_intCast, ← same] at rounded
  linarith

end Decimal

end Lodging
