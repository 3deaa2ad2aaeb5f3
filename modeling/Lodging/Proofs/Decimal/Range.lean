import Lodging.Proofs.Decimal.Exact

/-! # The range of decimals

A sum or product has no result exactly when its exact value, rounded to a whole number,
has more than 96 bits (`Lodging.Decimal.add?_eq_none_iff`,
`Lodging.Decimal.mul?_eq_none_iff`). A result is the multiple of its last place that is
nearest to the exact value (`Lodging.Decimal.IsNearest`), so it passes no number that its
places suffice to write. A number that bounds the exact value and can be written in places
in which the value fits is such a number (`Lodging.Decimal.places_le_of_ofScaled?`).
-/

namespace Lodging

/-- Rounding to the even neighbour moves a quotient by half at most. -/
theorem roundHalfEven_near {n d : Nat} (positive : 0 < d) :
    |(roundHalfEven n d : ℚ) - n / d| ≤ 1 / 2 := by
  have divisor : (0 : ℚ) < d := Nat.cast_pos.mpr positive
  have parts : d * (n / d) + n % d = n := Nat.div_add_mod n d
  have below : n % d < d := Nat.mod_lt n positive
  simp only [roundHalfEven]
  generalize n / d = quotient at parts ⊢
  generalize n % d = rest at parts below ⊢
  have least : (0 : ℚ) ≤ rest := Nat.cast_nonneg _
  have split : (n : ℚ) / d = quotient + rest / d := by
    have whole : (n : ℚ) = d * quotient + rest := by exact_mod_cast parts.symm
    rw [whole, add_div, mul_div_cancel_left₀ _ divisor.ne']
  rw [split, abs_le]
  split
  next up =>
    have half : (d : ℚ) ≤ 2 * rest := by exact_mod_cast (by omega : d ≤ 2 * rest)
    have most : (rest : ℚ) ≤ d := by exact_mod_cast below.le
    have fraction : (1 : ℚ) / 2 ≤ rest / d := by
      rw [div_le_div_iff₀ (by norm_num) divisor]
      linarith
    have whole : (rest : ℚ) / d ≤ 1 := (div_le_one divisor).mpr most
    push_cast
    constructor <;> linarith
  next down =>
    have half : 2 * (rest : ℚ) ≤ d := by exact_mod_cast (by omega : 2 * rest ≤ d)
    have fraction : (rest : ℚ) / d ≤ 1 / 2 := by
      rw [div_le_div_iff₀ divisor (by norm_num)]
      linarith
    have nonneg : (0 : ℚ) ≤ rest / d := div_nonneg least divisor.le
    constructor <;> linarith

/-- An even number is reached by rounding from half a unit below it on. -/
theorem le_roundHalfEven_iff {n d limit : Nat} (positive : 0 < d) (even : limit % 2 = 0) :
    limit ≤ roundHalfEven n d ↔ (limit : ℚ) - 1 / 2 ≤ n / d := by
  have divisor : (0 : ℚ) < d := Nat.cast_pos.mpr positive
  have parts : d * (n / d) + n % d = n := Nat.div_add_mod n d
  have below : n % d < d := Nat.mod_lt n positive
  have scaled : (limit : ℚ) - 1 / 2 ≤ n / d ↔ 2 * (limit * d) ≤ 2 * n + d := by
    rw [le_div_iff₀ divisor, ← Nat.cast_le (α := ℚ)]
    push_cast
    constructor <;> intro bound <;> linarith
  rw [scaled]
  simp only [roundHalfEven]
  generalize n / d = quotient at parts ⊢
  generalize n % d = rest at parts below ⊢
  subst parts
  rcases Nat.lt_trichotomy limit (quotient + 1) with fewer | rfl | more
  · -- The quotient reaches the limit by itself.
    have reached : limit * d ≤ d * quotient := by
      rw [Nat.mul_comm]
      exact Nat.mul_le_mul_left d (Nat.le_of_lt_succ fewer)
    have bound : 2 * (limit * d) ≤ 2 * (d * quotient + rest) + d := by omega
    split <;> simp only [bound, iff_true] <;> omega
  · -- The quotient is odd, so a half goes up.
    have product : (quotient + 1) * d = d * quotient + d := by
      rw [Nat.mul_comm, Nat.mul_succ]
    rw [product]
    split <;> omega
  · have missed : d * quotient + 2 * d ≤ limit * d := by
      have enough : (quotient + 2) * d ≤ limit * d := Nat.mul_le_mul_right d more
      rwa [Nat.add_mul, Nat.mul_comm quotient] at enough
    have beyond : ¬ 2 * (limit * d) ≤ 2 * (d * quotient + rest) + d := by omega
    split <;> simp only [beyond, iff_false] <;> omega

namespace Decimal

variable {a b c : Decimal} {n : Int} {scale places finer : Nat} {x y : ℚ}

/-! ## Numbers that some places suffice for -/

/-- The number can be written with so many places behind the point. -/
def HasPlaces (x : ℚ) (places : Nat) : Prop :=
  ∃ digits : ℤ, x * 10 ^ places = digits

theorem HasPlaces.mono (written : HasPlaces x places) (more : places ≤ finer) :
    HasPlaces x finer := by
  obtain ⟨digits, same⟩ := written
  refine ⟨digits * 10 ^ (finer - places), ?_⟩
  rw [← Nat.add_sub_cancel' more, pow_add, ← mul_assoc, same, Nat.add_sub_cancel_left]
  push_cast
  rfl

theorem hasPlaces_zero (places : Nat) : HasPlaces 0 places :=
  ⟨0, by rw [zero_mul, Int.cast_zero]⟩

theorem hasPlaces_value (a : Decimal) : HasPlaces a.value a.scale :=
  ⟨a.mantissa, (mantissa_eq a).symm⟩

/-- All decimals can be written with as many places as there are at most. -/
theorem hasPlaces_most (a : Decimal) : HasPlaces a.value 28 :=
  a.hasPlaces_value.mono a.scale_le

theorem HasPlaces.neg (written : HasPlaces x places) : HasPlaces (-x) places := by
  obtain ⟨digits, same⟩ := written
  exact ⟨-digits, by rw [neg_mul, same, Int.cast_neg]⟩

theorem HasPlaces.abs (written : HasPlaces x places) : HasPlaces |x| places := by
  rcases abs_choice x with same | opposite
  · rwa [same]
  · rw [opposite]
    exact written.neg

/-- Whole multiples take no more places, and neither does a whole number that is added. -/
theorem HasPlaces.mul_add (written : HasPlaces x places) (factor whole : ℤ) :
    HasPlaces (factor * x + whole) places := by
  obtain ⟨digits, same⟩ := written
  refine ⟨factor * digits + whole * 10 ^ places, ?_⟩
  push_cast
  rw [← same]
  ring

/-- The digits of a decimal have 96 bits, and so do not reach the next power of two. -/
theorem abs_value_mul_lt (a : Decimal) : |a.value| * 10 ^ a.scale < 2 ^ 96 - 1 / 2 := by
  have power : (0 : ℚ) < 10 ^ a.scale := by positivity
  have digits : |a.value| * 10 ^ a.scale = (a.mantissa.natAbs : ℚ) := by
    rw [← abs_of_pos power, ← abs_mul, ← mantissa_eq, Nat.cast_natAbs, Int.cast_abs]
  have below : a.mantissa.natAbs + 1 ≤ 2 ^ 96 := a.mantissa_lt
  have cast : (a.mantissa.natAbs : ℚ) + 1 ≤ 2 ^ 96 := by exact_mod_cast below
  rw [digits]
  linarith

/-! ## The nearest number -/

/-- The decimal is the number, rounded to the last of its own places. -/
def IsNearest (a : Decimal) (x : ℚ) : Prop :=
  |a.value - x| * 10 ^ a.scale ≤ 1 / 2

/-- Rounding does not lead above a number that can be written in the same places. -/
theorem IsNearest.le (near : a.IsNearest x) (written : HasPlaces y a.scale) (below : x ≤ y) :
    a.value ≤ y := by
  obtain ⟨digits, same⟩ := written
  have power : (0 : ℚ) < 10 ^ a.scale := by positivity
  have above : (a.value - x) * 10 ^ a.scale ≤ 1 / 2 :=
    (mul_le_mul_of_nonneg_right (le_abs_self _) power.le).trans near
  have ordered : x * 10 ^ a.scale ≤ digits := same ▸ mul_le_mul_of_nonneg_right below power.le
  rw [sub_mul, ← mantissa_eq] at above
  have close : (a.mantissa : ℚ) < digits + 1 := by linarith
  have whole : a.mantissa ≤ digits := Int.lt_add_one_iff.mp (by exact_mod_cast close)
  refine le_of_mul_le_mul_right ?_ power
  rw [same, ← mantissa_eq]
  exact_mod_cast whole

theorem IsNearest.neg (near : a.IsNearest x) : (-a).IsNearest (-x) := by
  change |(-a).value - -x| * 10 ^ a.scale ≤ 1 / 2
  rwa [value_neg, neg_sub_neg, abs_sub_comm]

/-- Rounding does not lead below a number that can be written in the same places. -/
theorem IsNearest.ge (near : a.IsNearest x) (written : HasPlaces y a.scale) (above : y ≤ x) :
    y ≤ a.value := by
  have opposite : HasPlaces (-y) (-a).scale := written.neg
  have bound := near.neg.le opposite (neg_le_neg above)
  rw [value_neg] at bound
  exact neg_le_neg_iff.mp bound

/-- Rounding keeps a magnitude within a number that can be written in the same places. -/
theorem IsNearest.abs_value_le (near : a.IsNearest x) (written : HasPlaces y a.scale)
    (within : |x| ≤ y) : |a.value| ≤ y := by
  rw [abs_le] at within ⊢
  exact ⟨near.ge written.neg within.1, near.le written within.2⟩

theorem IsNearest.nonneg (near : a.IsNearest x) (nonneg : 0 ≤ x) : 0 ≤ a.value :=
  near.ge (hasPlaces_zero a.scale) nonneg

theorem IsNearest.nonpos (near : a.IsNearest x) (nonpos : x ≤ 0) : a.value ≤ 0 :=
  near.le (hasPlaces_zero a.scale) nonpos

/-! ## Rounding to the most places that fit -/

theorem withSignOf_near {d : Nat} (positive : 0 < d) :
    |(withSignOf n (roundHalfEven n.natAbs d) : ℚ) - n / d| ≤ 1 / 2 := by
  have near := roundHalfEven_near (n := n.natAbs) positive
  rw [Nat.cast_natAbs] at near
  simp only [withSignOf]
  split
  next below =>
    rw [abs_of_neg below, Int.cast_neg, neg_div, sub_neg_eq_add] at near
    rwa [Int.cast_neg, Int.cast_natCast, ← neg_add', abs_neg]
  next notBelow =>
    rwa [abs_of_nonneg (Int.not_lt.mp notBelow)] at near

/-- Moving the point of a number leaves a quotient by the places that are still missing. -/
theorem shifted (n : Int) (within : places ≤ scale) :
    (n : ℚ) / 10 ^ scale * 10 ^ places = n / (Nat.pow 10 (scale - places) : Nat) := by
  have power : (10 : ℚ) ^ scale = 10 ^ (scale - places) * 10 ^ places := by
    rw [← pow_add, Nat.sub_add_cancel within]
  rw [power, Nat.pow_eq, Nat.cast_pow, Nat.cast_ofNat]
  field_simp

theorem roundedTo?_nearest (within : places ≤ scale)
    (rounded : roundedTo? n scale places = some a) :
    a.scale = places ∧ a.IsNearest (n / 10 ^ scale) := by
  have positive : 0 < Nat.pow 10 (scale - places) := Nat.pow_pos (by decide)
  simp only [roundedTo?, Option.dite_none_right_eq_some] at rounded
  obtain ⟨_, rounded⟩ := rounded
  obtain rfl := Option.some.inj rounded
  refine ⟨rfl, ?_⟩
  have power : (0 : ℚ) < 10 ^ places := by positivity
  rw [IsNearest, ← abs_of_pos power, ← abs_mul, sub_mul, ← mantissa_eq, shifted n within]
  exact withSignOf_near positive

/-- Some places are too many when the value, moved by them, has more than 96 bits. -/
theorem roundedTo?_eq_none_iff (within : places ≤ scale) (few : places ≤ 28) :
    roundedTo? n scale places = none ↔ 2 ^ 96 - 1 / 2 ≤ |(n : ℚ) / 10 ^ scale| * 10 ^ places := by
  have positive : 0 < Nat.pow 10 (scale - places) := Nat.pow_pos (by decide)
  have power : (0 : ℚ) < 10 ^ places := by positivity
  have magnitude : |(n : ℚ) / 10 ^ scale| * 10 ^ places =
      n.natAbs / (Nat.pow 10 (scale - places) : Nat) := by
    rw [← abs_of_pos power, ← abs_mul, shifted n within, abs_div, Nat.abs_cast,
      Nat.cast_natAbs, Int.cast_abs]
  have reached : Nat.pow 2 96 ≤ roundHalfEven n.natAbs (Nat.pow 10 (scale - places)) ↔ _ :=
    le_roundHalfEven_iff positive rfl
  rw [← magnitude, Nat.pow_eq, Nat.cast_pow, Nat.cast_ofNat] at reached
  rw [← reached]
  simp only [roundedTo?, few, and_true, dite_eq_right_iff, reduceCtorEq, imp_false, not_lt]

/-- The value, rounded to a whole number, has more than 96 bits. -/
def OutOfRange (x : ℚ) : Prop :=
  2 ^ 96 - 1 / 2 ≤ |x|

theorem fitted?_eq_none_iff (within : places ≤ scale) (few : places ≤ 28) :
    fitted? n scale places = none ↔ OutOfRange (n / 10 ^ scale) := by
  have whole : roundedTo? n scale 0 = none ↔ OutOfRange (n / 10 ^ scale) := by
    rw [roundedTo?_eq_none_iff (Nat.zero_le scale) (Nat.zero_le 28), pow_zero, mul_one, OutOfRange]
  induction places with
  | zero => exact whole
  | succ places ih =>
      have fewer : fitted? n scale places = none ↔ OutOfRange (n / 10 ^ scale) :=
        ih (Nat.le_of_succ_le within) (Nat.le_of_succ_le few)
      rw [fitted?, Option.or_eq_none_iff, fewer, roundedTo?_eq_none_iff within few]
      -- What is too large without places is too large with them.
      refine and_iff_right_of_imp fun tooLarge => tooLarge.trans ?_
      exact le_mul_of_one_le_right (abs_nonneg _) (one_le_pow₀ (by norm_num))

/-- **Overflow.** A value has no decimal exactly when it is out of range. -/
theorem ofScaled?_eq_none_iff : ofScaled? n scale = none ↔ OutOfRange (n / 10 ^ scale) :=
  fitted?_eq_none_iff (Nat.min_le_left _ _) (Nat.min_le_right _ _)

/-- What is given is rounded to its places, and with more of them it would not fit. -/
theorem of_fitted?_eq_some (found : fitted? n scale places = some a) (within : places ≤ scale) :
    a.scale ≤ places ∧ a.IsNearest (n / 10 ^ scale) ∧
      ∀ finer, a.scale < finer → finer ≤ places → roundedTo? n scale finer = none := by
  induction places with
  | zero =>
      obtain ⟨same, near⟩ := roundedTo?_nearest within found
      exact ⟨same.le, near, fun finer more most => by omega⟩
  | succ places ih =>
      rw [fitted?, Option.or_eq_some_iff] at found
      rcases found with found | ⟨missed, found⟩
      · obtain ⟨same, near⟩ := roundedTo?_nearest within found
        exact ⟨same.le, near, fun finer more most => by omega⟩
      · obtain ⟨fewer, near, maximal⟩ := ih found (Nat.le_of_succ_le within)
        refine ⟨fewer.trans (Nat.le_succ places), near, fun finer more most => ?_⟩
        rcases Nat.of_le_succ most with inside | rfl
        · exact maximal finer more inside
        · exact missed

theorem ofScaled?_nearest (found : ofScaled? n scale = some a) : a.IsNearest (n / 10 ^ scale) :=
  (of_fitted?_eq_some found (Nat.min_le_left _ _)).2.1

/-- A result has all places in which the exact value fits. -/
theorem places_le_of_ofScaled? (found : ofScaled? n scale = some a) (within : places ≤ scale)
    (few : places ≤ 28) (fits : |(n : ℚ) / 10 ^ scale| * 10 ^ places < 2 ^ 96 - 1 / 2) :
    places ≤ a.scale := by
  obtain ⟨_, _, maximal⟩ := of_fitted?_eq_some found (Nat.min_le_left _ _)
  by_contra more
  have missed := maximal places (Nat.lt_of_not_le more) (Nat.le_min.mpr ⟨within, few⟩)
  rw [roundedTo?_eq_none_iff within few] at missed
  exact absurd fits (not_lt.mpr missed)

/-- A result passes a bound by little, even where it has too few places for the bound: the
exact value is large then, and the last place small beside it. -/
theorem abs_le_of_ofScaled? (found : ofScaled? n scale = some a) (fewer : places ≤ scale)
    (few : places ≤ 28) (written : HasPlaces y places) (within : |(n : ℚ) / 10 ^ scale| ≤ y) :
    |a.value| ≤ (1 + 1 / 2 ^ 93) * y := by
  have nonneg : 0 ≤ y := (abs_nonneg _).trans within
  obtain ⟨_, near, maximal⟩ := of_fitted?_eq_some found (Nat.min_le_left _ _)
  rcases Nat.lt_or_ge a.scale places with short | enough
  · have oneMore : a.scale + 1 ≤ min scale 28 :=
      Nat.le_min.mpr ⟨Nat.lt_of_lt_of_le short fewer, Nat.lt_of_lt_of_le short few⟩
    have missed := maximal (a.scale + 1) (Nat.lt_succ_self _) oneMore
    rw [roundedTo?_eq_none_iff (oneMore.trans (Nat.min_le_left _ _))
      (oneMore.trans (Nat.min_le_right _ _)), pow_succ (10 : ℚ), ← mul_assoc] at missed
    rw [IsNearest] at near
    generalize (n : ℚ) / 10 ^ scale = x at within near missed
    have power : (0 : ℚ) < 10 ^ a.scale := by positivity
    have triangle : |a.value| ≤ |x| + |a.value - x| := by
      have split := abs_add_le x (a.value - x)
      rwa [add_sub_cancel] at split
    have scaled : |a.value| * 10 ^ a.scale ≤ (1 + 1 / 2 ^ 93) * |x| * 10 ^ a.scale := by
      have moved := mul_le_mul_of_nonneg_right triangle power.le
      rw [add_mul] at moved
      linarith
    exact (le_of_mul_le_mul_right scaled power).trans
      (mul_le_mul_of_nonneg_left within (by norm_num))
  · exact (near.abs_value_le (written.mono enough) within).trans
      (le_mul_of_one_le_left nonneg (by norm_num))

/-! ## Sums, products and hundredths -/

theorem add?_eq_none_iff : a.add? b = none ↔ OutOfRange (a.value + b.value) := by
  rw [add?, ofScaled?_eq_none_iff, value_addends]

theorem mul?_eq_none_iff : a.mul? b = none ↔ OutOfRange (a.value * b.value) := by
  rw [mul?, ofScaled?_eq_none_iff, value_factors]

theorem add?_nearest (found : a.add? b = some c) : c.IsNearest (a.value + b.value) := by
  rw [← value_addends]
  exact ofScaled?_nearest found

/-- A sum passes by little a bound that can be written in the places of an addend. -/
theorem add?_abs_le (found : a.add? b = some c) (written : HasPlaces y a.scale)
    (within : |a.value + b.value| ≤ y) : |c.value| ≤ (1 + 1 / 2 ^ 93) * y := by
  rw [← value_addends] at within
  exact abs_le_of_ofScaled? found (Nat.le_max_left _ _) a.scale_le written within

theorem mul?_nearest (found : a.mul? b = some c) : c.IsNearest (a.value * b.value) := by
  rw [← value_factors]
  exact ofScaled?_nearest found

theorem hasPlaces_shifted (a : Decimal) (shift : Nat) :
    HasPlaces (10 ^ shift * a.value) (a.scale - shift) := by
  have powers : (10 : ℚ) ^ shift * 10 ^ (a.scale - shift) =
      10 ^ a.scale * 10 ^ (shift - a.scale) := by
    rw [← pow_add, ← pow_add]
    congr 1
    omega
  refine ⟨a.mantissa * 10 ^ (shift - a.scale), ?_⟩
  push_cast
  rw [mantissa_eq, mul_assoc (a.value), ← powers]
  ring

/-- A product by at most a power of ten has the places in which the number can be written
after its point has been moved by that power. -/
theorem hasPlaces_of_mul? {shift : Nat} (most : |b.value| ≤ 10 ^ shift)
    (found : a.mul? b = some c) : HasPlaces (10 ^ shift * a.value) c.scale := by
  refine (a.hasPlaces_shifted shift).mono ?_
  rcases Nat.lt_or_ge a.scale shift with few | enough
  · rw [Nat.sub_eq_zero_of_le few.le]
    exact Nat.zero_le _
  · have product : |a.value * b.value| ≤ |a.value| * 10 ^ shift := by
      rw [abs_mul]
      exact mul_le_mul_of_nonneg_left most (abs_nonneg _)
    have fits : |a.value * b.value| * 10 ^ (a.scale - shift) < 2 ^ 96 - 1 / 2 := by
      have digits := a.abs_value_mul_lt
      rw [← Nat.sub_add_cancel enough, pow_add] at digits
      refine lt_of_le_of_lt (mul_le_mul_of_nonneg_right product (by positivity)) ?_
      calc |a.value| * 10 ^ shift * 10 ^ (a.scale - shift)
          = |a.value| * (10 ^ (a.scale - shift) * 10 ^ shift) := by ring
        _ < 2 ^ 96 - 1 / 2 := digits
    rw [← value_factors] at fits
    have places : a.scale - shift ≤ 28 := (Nat.sub_le _ _).trans a.scale_le
    exact places_le_of_ofScaled? found (by omega) places fits

/-- A product by at most a power of ten is at most the number moved by that power. -/
theorem mul?_abs_le {shift : Nat} (most : |b.value| ≤ 10 ^ shift) (found : a.mul? b = some c) :
    |c.value| ≤ 10 ^ shift * |a.value| := by
  have power : |(10 : ℚ) ^ shift| = 10 ^ shift := abs_of_pos (by positivity)
  have written := (hasPlaces_of_mul? most found).abs
  rw [abs_mul, power] at written
  refine (mul?_nearest found).abs_value_le written ?_
  rw [abs_mul, mul_comm]
  exact mul_le_mul_of_nonneg_right most (abs_nonneg _)

/-- Zeros at the end can go. -/
theorem value_dropZeros (a : Decimal) (places : Nat) : (a.dropZeros places).value = a.value := by
  induction places generalizing a with
  | zero => rfl
  | succ places ih =>
      rw [dropZeros]
      split
      next ends =>
        have digits : (a.mantissa : ℚ) = ((a.mantissa / 10 : ℤ) : ℚ) * 10 := by
          exact_mod_cast (Int.ediv_mul_cancel (Int.dvd_of_emod_eq_zero ends.2)).symm
        have power : (10 : ℚ) ^ a.scale = 10 ^ (a.scale - 1) * 10 := by
          rw [← pow_succ, Nat.sub_add_cancel ends.1]
        rw [ih]
        simp only [value]
        rw [digits, power, mul_div_mul_right _ _ (by norm_num)]
      next => rfl

/-- A hundredth is rounded only where 28 places do not suffice for it. -/
theorem hundredth_nearest (a : Decimal) :
    a.hundredth.value = a.value / 100 ∨
      a.hundredth.scale = 28 ∧ a.hundredth.IsNearest (a.value / 100) := by
  have moved : a.value / 100 = a.mantissa / 10 ^ (a.scale + 2) := by
    rw [value, div_div, pow_add]
    norm_num
  rw [hundredth]
  split
  next whole =>
    refine .inl ?_
    have digits : (a.mantissa : ℚ) = ((a.mantissa / 100 : ℤ) : ℚ) * 100 := by
      exact_mod_cast (Int.ediv_mul_cancel (Int.dvd_of_emod_eq_zero whole)).symm
    rw [value, value, digits]
    ring
  next =>
    split
    next room =>
      refine .inl ?_
      rw [trimmed, value_dropZeros, moved]
      rfl
    next full =>
      refine .inr ⟨rfl, ?_⟩
      have within : 28 ≤ a.scale + 2 := (Nat.lt_of_not_le full).le
      have power : (0 : ℚ) < 10 ^ 28 := by positivity
      have positive : 0 < Nat.pow 10 (a.scale + 2 - 28) := Nat.pow_pos (by decide)
      rw [IsNearest, ← abs_of_pos power, ← abs_mul, sub_mul, ← mantissa_eq, moved,
        shifted _ within]
      exact withSignOf_near positive

/-- Division by one hundred does not lead above a number that can be written. -/
theorem hundredth_le (written : HasPlaces y 28) (below : a.value ≤ 100 * y) :
    a.hundredth.value ≤ y := by
  rcases a.hundredth_nearest with exact | ⟨places, near⟩
  · linarith
  · exact near.le (written.mono places.ge) (by linarith)

/-- Division by one hundred does not lead below a number that can be written. -/
theorem le_hundredth (written : HasPlaces y 28) (above : 100 * y ≤ a.value) :
    y ≤ a.hundredth.value := by
  rcases a.hundredth_nearest with exact | ⟨places, near⟩
  · linarith
  · exact near.ge (written.mono places.ge) (by linarith)

theorem abs_hundredth_le (written : HasPlaces y 28) (within : |a.value| ≤ 100 * y) :
    |a.hundredth.value| ≤ y := by
  rw [abs_le] at within ⊢
  exact ⟨le_hundredth written.neg (by linarith), hundredth_le written within.2⟩

theorem hundredth_nonneg (nonneg : 0 ≤ a.value) : 0 ≤ a.hundredth.value :=
  le_hundredth (hasPlaces_zero 28) (by rwa [mul_zero])

theorem hundredth_nonpos (nonpos : a.value ≤ 0) : a.hundredth.value ≤ 0 :=
  hundredth_le (hasPlaces_zero 28) (by rwa [mul_zero])

end Decimal

end Lodging
