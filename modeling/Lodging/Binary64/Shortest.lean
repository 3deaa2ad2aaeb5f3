import Lodging.Binary64.Basic
import Lodging.Decimal.Text

/-! # Shortest decimal text of a double precision number

Among the decimals that read back as the number, the one with the fewest digits
is written, and of several the nearest (`Binary64.shortest`). It is found on the
grids of one, two, up to seventeen digits: when a point of a grid lies in the
interval of values that round to the number, so does one of the number's two
neighbours on that grid.
-/

namespace Lodging

namespace Binary64

/-- The decimal `digits * 10 ^ power`. -/
structure ShortDecimal where
  /-- The digits, without zeros at the end unless they are all of it. -/
  digits : Nat
  /-- The power of ten. -/
  power : Int
deriving DecidableEq, Repr

/-- The fraction `digits * 10 ^ power` as numerator and denominator. -/
def scaleByTen (digits : Nat) (power : Int) : Nat × Nat :=
  (digits * Nat.pow 10 power.toNat, Nat.pow 10 (-power).toNat)

/-- Comparison of two fractions. -/
def ratioLe (a b : Nat × Nat) : Bool :=
  decide (a.1 * b.2 ≤ b.1 * a.2)

/-- The ends of the interval of values that round to a number that is not
zero. The interval reaches half a step up and half a step down, and the step
down is half as wide at a power of two. -/
def ends (x : Binary64) : (Nat × Nat) × (Nat × Nat) :=
  let upper := scaleByTwo (2 * x.significand + 1) (x.exponent - 1)
  let lower :=
    if x.significand = Nat.pow 2 52 ∧ minExponent < x.exponent then
      scaleByTwo (4 * x.significand - 1) (x.exponent - 2)
    else scaleByTwo (2 * x.significand - 1) (x.exponent - 1)
  (lower, upper)

/-- A decimal rounds to the number: it lies inside the interval, or on an end
when the significand is even. -/
def roundsTo (x : Binary64) (candidate : Nat × Nat) : Bool :=
  let (lower, upper) := x.ends
  if x.significand % 2 = 0 then ratioLe lower candidate && ratioLe candidate upper
  else !ratioLe candidate lower && !ratioLe upper candidate

/-- The power of ten of the leading digit of a fraction. -/
def leadingPower (n d : Nat) : Int :=
  if d ≤ n then (Text.digits (n / d)).length - 1
  else
    let places := (Text.digits (d / n)).length
    if d ≤ n * Nat.pow 10 (places - 1) then -((places : Int) - 1) else -(places : Int)

/-- The decimal of `count` digits that reads back, if there is one. -/
def withDigits? (x : Binary64) (count : Nat) : Option ShortDecimal :=
  let (n, d) := x.ratio
  let power := leadingPower n d - count + 1
  let (unit, part) := scaleByTen 1 power
  let below := (n * part) / (d * unit)
  let lowFits := x.roundsTo (scaleByTen below power)
  let highFits := x.roundsTo (scaleByTen (below + 1) power)
  let nearerHigh := decide (2 * ((n * part) % (d * unit)) > d * unit)
  if lowFits && !(highFits && nearerHigh) then some { digits := below, power }
  else if highFits then some { digits := below + 1, power }
  else none

/-- Zeros at the end of the digits go into the power; at most `count` of them. -/
def ShortDecimal.dropZeros (s : ShortDecimal) : (count : Nat) → ShortDecimal
  | 0 => s
  | count + 1 =>
      if s.digits % 10 = 0 ∧ s.digits ≠ 0 then
        ShortDecimal.dropZeros { digits := s.digits / 10, power := s.power + 1 } count
      else s

/-- The shortest decimal that reads back as the magnitude of the number. -/
def shortest (x : Binary64) : ShortDecimal :=
  if x.isZero then { digits := 0, power := 0 }
  else
    match (List.range 17).findSome? fun count => x.withDigits? (count + 1) with
    | some found => found.dropZeros 17
    | none => { digits := 0, power := 0 }

/-- The text of the number without an exponent. -/
def plain (x : Binary64) : String :=
  let s := x.shortest
  let sign := if x.negative then ['-'] else []
  if 0 ≤ s.power then
    String.ofList (sign ++ Text.digits (s.digits * Nat.pow 10 s.power.toNat))
  else String.ofList (sign ++ fixedPoint s.digits s.power.natAbs)

/-- The text of the number as a numeral of a document: positional from `1e-5` to
below `1e16`, with a point, and with an exponent elsewhere. -/
def numeral (x : Binary64) : String :=
  let s := x.shortest
  let sign := if x.negative then ['-'] else []
  let digits := Text.digits s.digits
  let point : Int := digits.length + s.power
  let body :=
    if 0 ≤ s.power ∧ point ≤ 16 then
      digits ++ List.replicate s.power.toNat '0' ++ ['.', '0']
    else if 0 < point ∧ point ≤ 16 then
      digits.take point.toNat ++ '.' :: digits.drop point.toNat
    else if -5 < point ∧ point ≤ 0 then
      '0' :: '.' :: List.replicate point.natAbs '0' ++ digits
    else
      let exponent := 'e' :: (Text.ofInt (point - 1)).toList
      match digits with
      | [only] => only :: exponent
      | first :: rest => first :: '.' :: rest ++ exponent
      | [] => exponent
  String.ofList (sign ++ body)

end Binary64

namespace Decimal

/-- The double precision number a decimal is sent as. A decimal with places is
taken apart into its whole part and its fraction; their sum is rounded at the
last place. -/
def toBinary64 (a : Decimal) : Binary64 :=
  let magnitude := a.mantissa.natAbs
  let negative := a.isNegative
  if a.scale = 0 then Binary64.nearest negative magnitude 1
  else
    let precision := Nat.pow 10 a.scale
    let whole := Binary64.ofNat (magnitude / precision)
    let fraction := (Binary64.ofNat (magnitude % precision)).div (Binary64.ofNat precision)
    if fraction.isZero then { whole with negative }
    else
      let unit := Binary64.ofNat precision
      let value := whole.addMagnitudes fraction
      let rounded := (Binary64.ofNat (value.mul unit).roundMagnitude).div unit
      { rounded with negative }

end Decimal

end Lodging
