import Lodging.Rounding

/-! # Decimal numbers

Money, tax rates and rule values are decimals: a whole mantissa below `2 ^ 96`
over a power of ten of at most 28 places. Sums and products are the exact
results, rounded half to even to the most places for which the mantissa fits
(`Lodging.Decimal.ofScaled?`); a result that does not fit even without places
overflows. Money alone is rounded otherwise, to two places with a half going
away from zero (`Lodging.Decimal.roundMoney`).
-/

namespace Lodging

/-- The decimal number `mantissa / 10 ^ scale`. -/
structure Decimal where
  /-- The signed digits without the point. -/
  mantissa : Int
  /-- The number of places behind the point. -/
  scale : Nat
  /-- The digits fit into 96 bits. -/
  mantissa_lt : mantissa.natAbs < Nat.pow 2 96 := by decide
  /-- There are at most 28 places. -/
  scale_le : scale ≤ 28 := by decide
deriving DecidableEq, Repr

namespace Decimal

def maxScale : Nat := 28

/-- Every mantissa lies below this power of two. -/
def mantissaLimit : Nat := Nat.pow 2 96

def zero : Decimal where
  mantissa := 0
  scale := 0

def hundred : Decimal where
  mantissa := 100
  scale := 0

def thousand : Decimal where
  mantissa := 1000
  scale := 0

def million : Decimal where
  mantissa := 1000000
  scale := 0

instance : Inhabited Decimal := ⟨zero⟩

/-- A number of hundredths, written with two places. -/
def ofHundredths (n : Int) (fits : n.natAbs < Nat.pow 2 96 := by decide) : Decimal where
  mantissa := n
  scale := 2
  mantissa_lt := fits

/-- A whole number as a decimal, if it fits. -/
def ofInt? (n : Int) : Option Decimal :=
  if fits : n.natAbs < Nat.pow 2 96 then some { mantissa := n, scale := 0, mantissa_lt := fits }
  else none

def isZero (a : Decimal) : Bool :=
  a.mantissa == 0

def isNegative (a : Decimal) : Bool :=
  decide (a.mantissa < 0)

/-- Order by value: both mantissas are brought to the sum of the two scales. -/
instance : LE Decimal where
  le a b := a.mantissa * Nat.pow 10 b.scale ≤ b.mantissa * Nat.pow 10 a.scale

instance (a b : Decimal) : Decidable (a ≤ b) :=
  inferInstanceAs (Decidable (a.mantissa * Nat.pow 10 b.scale ≤ b.mantissa * Nat.pow 10 a.scale))

/-- Strict order by value. -/
instance : LT Decimal where
  lt a b := a.mantissa * Nat.pow 10 b.scale < b.mantissa * Nat.pow 10 a.scale

instance (a b : Decimal) : Decidable (a < b) :=
  inferInstanceAs (Decidable (a.mantissa * Nat.pow 10 b.scale < b.mantissa * Nat.pow 10 a.scale))

/-- The larger of two numbers; of two equal ones the second. -/
def larger (a b : Decimal) : Decimal :=
  if b < a then a else b

/-- The opposite number. -/
instance : Neg Decimal where
  neg a :=
    { mantissa := -a.mantissa
      scale := a.scale
      mantissa_lt := by rw [Int.natAbs_neg]; exact a.mantissa_lt
      scale_le := a.scale_le }

/-- A natural number with the sign of an integer. -/
def withSignOf (n : Int) (magnitude : Nat) : Int :=
  if n < 0 then -(magnitude : Int) else magnitude

/-- Giving a number the sign of another keeps its magnitude. -/
theorem natAbs_withSignOf (n : Int) (magnitude : Nat) :
    (withSignOf n magnitude).natAbs = magnitude := by
  simp only [withSignOf]
  split
  · rw [Int.natAbs_neg, Int.natAbs_natCast]
  · exact Int.natAbs_natCast magnitude

/-- The value `n / 10 ^ scale` rounded half to even to `places` places, if that
fits; `places` is at most `scale`. -/
def roundedTo? (n : Int) (scale places : Nat) : Option Decimal :=
  let magnitude := roundHalfEven n.natAbs (Nat.pow 10 (scale - places))
  if fits : magnitude < Nat.pow 2 96 ∧ places ≤ 28 then
    some
      { mantissa := withSignOf n magnitude
        scale := places
        mantissa_lt := by rw [natAbs_withSignOf]; exact fits.1
        scale_le := fits.2 }
  else none

/-- The value `n / 10 ^ scale` rounded half to even to the most places, at most
`places`, for which it fits. -/
def fitted? (n : Int) (scale : Nat) : (places : Nat) → Option Decimal
  | 0 => roundedTo? n scale 0
  | places + 1 => (roundedTo? n scale (places + 1)).or (fitted? n scale places)

/-- The decimal nearest to `n / 10 ^ scale`, or `none` when the value is out of
range. -/
def ofScaled? (n : Int) (scale : Nat) : Option Decimal :=
  fitted? n scale (min scale maxScale)

/-- The sum, rounded once; `none` when it is out of range. -/
def add? (a b : Decimal) : Option Decimal :=
  let scale := max a.scale b.scale
  ofScaled?
    (a.mantissa * Nat.pow 10 (scale - a.scale) + b.mantissa * Nat.pow 10 (scale - b.scale)) scale

/-- The product, rounded once; `none` when it is out of range. -/
def mul? (a b : Decimal) : Option Decimal :=
  ofScaled? (a.mantissa * b.mantissa) (a.scale + b.scale)

/-- The same value with the fewest places, given at most `places` of them may
go. -/
def dropZeros (a : Decimal) : (places : Nat) → Decimal
  | 0 => a
  | places + 1 =>
      if ends : 0 < a.scale ∧ a.mantissa % 10 = 0 then
        dropZeros
          { mantissa := a.mantissa / 10
            scale := a.scale - 1
            mantissa_lt := by have := a.mantissa_lt; omega
            scale_le := by have := a.scale_le; omega }
          places
      else a

/-- The same value with the fewest places behind the point. -/
def trimmed (a : Decimal) : Decimal :=
  a.dropZeros a.scale

/-- One hundredth of a number, rounded half to even to at most 28 places. It
always fits. -/
def hundredth (a : Decimal) : Decimal :=
  if a.mantissa % 100 = 0 then
    { mantissa := a.mantissa / 100
      scale := a.scale
      mantissa_lt := by have := a.mantissa_lt; omega
      scale_le := a.scale_le }
  else if room : a.scale + 2 ≤ 28 then
    trimmed
      { mantissa := a.mantissa
        scale := a.scale + 2
        mantissa_lt := a.mantissa_lt
        scale_le := room }
  else
    { mantissa :=
        withSignOf a.mantissa (roundHalfEven a.mantissa.natAbs (Nat.pow 10 (a.scale + 2 - 28)))
      scale := 28
      mantissa_lt := by
        rw [natAbs_withSignOf]
        exact Nat.lt_of_le_of_lt (roundHalfEven_le _ _) a.mantissa_lt }

/-- The number divided by a power of ten. Digits that fall behind the last of 28
places are rounded half up. -/
def overPowerOfTen (a : Decimal) (power : Nat) : Decimal :=
  if room : a.scale + power ≤ 28 then
    { mantissa := a.mantissa
      scale := a.scale + power
      mantissa_lt := a.mantissa_lt
      scale_le := room }
  else
    { mantissa :=
        withSignOf a.mantissa
          (roundHalfUp a.mantissa.natAbs (Nat.pow 10 (a.scale + power - 28)))
      scale := 28
      mantissa_lt := by
        rw [natAbs_withSignOf]
        exact Nat.lt_of_le_of_lt (roundHalfUp_le (Nat.pow_pos (by decide))) a.mantissa_lt }

/-- An amount of money: two places, a half going away from zero. -/
def roundMoney (a : Decimal) : Decimal :=
  if a.scale ≤ 2 then a
  else
    ofHundredths
      (withSignOf a.mantissa (roundHalfUp a.mantissa.natAbs (Nat.pow 10 (a.scale - 2))))
      (by
        rw [natAbs_withSignOf]
        exact Nat.lt_of_le_of_lt (roundHalfUp_le (Nat.pow_pos (by decide))) a.mantissa_lt)

end Decimal

end Lodging
