import Lodging.Rounding

/-! # Double precision numbers

Numbers of the binary64 format, computed exactly: every operation takes the
exact result and rounds it once, to the nearest number of the format with a tie
going to the even significand (`Lodging.Binary64.nearest`). The exponent has no
upper limit here; `Binary64.isFinite` tells whether the format holds the number.
-/

namespace Lodging

/-- The number `± significand * 2 ^ exponent`. -/
structure Binary64 where
  /-- The number carries a minus sign; zero may carry one too. -/
  negative : Bool
  /-- The significand, below `2 ^ 53`. -/
  significand : Nat
  /-- The power of two, at least `-1074`. -/
  exponent : Int
deriving DecidableEq, Repr, Inhabited

namespace Binary64

/-- The lowest power of two of the format. -/
def minExponent : Int := -1074

/-- The highest power of two of the format. -/
def maxExponent : Int := 971

/-- The format holds the number. -/
def isFinite (x : Binary64) : Bool :=
  decide (x.exponent ≤ maxExponent)

def zero : Binary64 where
  negative := false
  significand := 0
  exponent := minExponent

/-- The value is zero, whatever its sign. -/
def isZero (x : Binary64) : Bool :=
  x.significand == 0

/-- The fraction `significand * 2 ^ exponent` as numerator and denominator. -/
def scaleByTwo (significand : Nat) (exponent : Int) : Nat × Nat :=
  (significand * Nat.pow 2 exponent.toNat, Nat.pow 2 (-exponent).toNat)

/-- The magnitude as numerator and denominator. -/
def ratio (x : Binary64) : Nat × Nat :=
  scaleByTwo x.significand x.exponent

/-- The power of two on whose multiples a quotient is rounded: the one that
leaves a significand of 53 bits, but at least the lowest of the format. -/
def roundingExponent (n d : Nat) : Int :=
  let guess : Int := (n.log2 : Int) - d.log2
  let (scaled, unit) := scaleByTwo 1 guess
  let power := if scaled * d ≤ n * unit then guess else guess - 1
  max minExponent (power - 52)

/-- The number of the format nearest to `n / d`, with a sign. -/
def nearest (negative : Bool) (n d : Nat) : Binary64 :=
  if n = 0 then { zero with negative }
  else
    let exponent := roundingExponent n d
    let (up, down) := scaleByTwo 1 exponent
    let significand := roundHalfEven (n * down) (d * up)
    if significand = Nat.pow 2 53 then
      { negative, significand := Nat.pow 2 52, exponent := exponent + 1 }
    else { negative, significand, exponent }

/-- The number nearest to a natural number. -/
def ofNat (n : Nat) : Binary64 :=
  nearest false n 1

def ofInt (n : Int) : Binary64 :=
  nearest (decide (n < 0)) n.natAbs 1

def mul (x y : Binary64) : Binary64 :=
  let (xn, xd) := x.ratio
  let (yn, yd) := y.ratio
  nearest (x.negative != y.negative) (xn * yn) (xd * yd)

/-- The rounded quotient by a number that is not zero. -/
def div (x y : Binary64) : Binary64 :=
  let (xn, xd) := x.ratio
  let (yn, yd) := y.ratio
  nearest (x.negative != y.negative) (xn * yd) (xd * yn)

def addMagnitudes (x y : Binary64) : Binary64 :=
  let (xn, xd) := x.ratio
  let (yn, yd) := y.ratio
  nearest false (xn * yd + yn * xd) (xd * yd)

/-- The whole number nearest to the magnitude; a half goes up. -/
def roundMagnitude (x : Binary64) : Nat :=
  let (n, d) := x.ratio
  roundHalfUp n d

/-- The number nearest to a power of ten. -/
def powerOfTen (power : Nat) : Binary64 :=
  ofNat (Nat.pow 10 power)

/-- The highest power of ten that the format holds. -/
def maxPowerOfTen : Nat := 308

/-- The number divided by the highest power of ten `steps` times; zero stays as
it is. -/
def dividedDown (x : Binary64) : (steps : Nat) → Binary64
  | 0 => x
  | steps + 1 =>
      if x.isZero then x else dividedDown (x.div (powerOfTen maxPowerOfTen)) steps

/-- A significand scaled down by a power of ten: what lies beyond the highest
power of ten is divided off in whole steps, each step rounding. -/
def scaledDown (x : Binary64) (power : Nat) : Binary64 :=
  let steps := (power - 1) / maxPowerOfTen
  let x := x.dividedDown steps
  if x.isZero then x else x.div (powerOfTen (power - maxPowerOfTen * steps))

/-- The number that a numeral `significand * 10 ^ power` is read as: the
significand and the power of ten are rounded each, and so is their product or
quotient. There is none when the result is not finite. -/
def ofNumeral? (negative : Bool) (significand : Nat) (power : Int) : Option Binary64 :=
  let start := ofNat significand
  let magnitude :=
    if maxPowerOfTen < power then
      if start.isZero then some start else none
    else if 0 ≤ power then some (start.mul (powerOfTen power.toNat))
    else some (start.scaledDown power.natAbs)
  match magnitude with
  | some x => if x.isFinite then some { x with negative } else none
  | none => none

end Binary64

end Lodging
