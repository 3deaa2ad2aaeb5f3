import Lodging.Decimal.Basic
import Lodging.Text.Digits

/-! # Decimal text

Decimals are written in plain notation, with all their places (`Decimal.display`)
or with the fewest (`Decimal.plain`). Two notations are read: digits with at most
one point, and such digits with a power of ten behind an `e`. Digits that go
beyond the range of places are rounded half up into the last one that fits.
-/

namespace Lodging

/-- The text of `magnitude / 10 ^ scale`, with exactly `scale` places. -/
def fixedPoint (magnitude scale : Nat) : List Char :=
  let all := Text.padded (scale + 1) magnitude
  let whole := all.take (all.length - scale)
  if scale = 0 then whole else whole ++ '.' :: all.drop (all.length - scale)

namespace Decimal

/-- The text with all places of the number. -/
def display (a : Decimal) : String :=
  String.ofList
    ((if a.isNegative then ['-'] else []) ++ fixedPoint a.mantissa.natAbs a.scale)

/-- The text without needless zeros behind the point. -/
def plain (a : Decimal) : String :=
  a.trimmed.display

/-- Why a text is no decimal number. -/
inductive TextError where
  /-- There is no text. -/
  | empty
  /-- There is a sign or a point, but no digit. -/
  | noDigits
  /-- A character has no place in a number. -/
  | unknownCharacter
  /-- There is a second point. -/
  | twoPoints
  /-- A separator stands before the first digit. -/
  | leadingSeparator
  /-- The digits before the point are too many. -/
  | tooManyDigits
  /-- Rounding up leaves the range. -/
  | roundedOutOfRange
  /-- What follows the `e` is no whole number. -/
  | badExponent
  /-- The power of ten exceeds the limit. -/
  | scaleTooLarge (scale : Nat)
  /-- The power of ten leads out of the range. -/
  | outOfRange
deriving DecidableEq, Repr

def TextError.message : TextError → String
  | .empty => "Invalid decimal: empty"
  | .noDigits => "Invalid decimal: no digits found"
  | .unknownCharacter => "Invalid decimal: unknown character"
  | .twoPoints => "Invalid decimal: two decimal points"
  | .leadingSeparator => "Invalid decimal: must start lead with a number"
  | .tooManyDigits => "Invalid decimal: overflow from too many digits"
  | .roundedOutOfRange => "Invalid decimal: overflow from mantissa after rounding"
  | .badExponent => "Failed to parse"
  | .scaleTooLarge scale => s!"Scale exceeds the maximum precision allowed: {scale} > {maxScale}"
  | .outOfRange => "Number exceeds maximum value that can be represented."

/-- Why a character that is neither digit nor accepted mark is refused. -/
def TextError.ofCharacter (c : Char) : TextError :=
  if c = '.' then .twoPoints else if c = '_' then .leadingSeparator else .unknownCharacter

/-- The number a scan has arrived at: digits gathered, places among them. -/
def ofScan? (negative : Bool) (gathered places : Nat) : Except TextError Decimal :=
  if fits : gathered < Nat.pow 2 96 ∧ places ≤ 28 then
    .ok
      { mantissa := if negative then -(gathered : Int) else gathered
        scale := places
        mantissa_lt := by split <;> omega
        scale_le := fits.2 }
  else .error .outOfRange

/-- Rounds the gathered digits by the first digit that no longer fits, if there
is one. Among the characters that no longer fit are digits and separators
only. -/
def roundScan (negative : Bool) (gathered places : Nat) (beyond : List Char) :
    Except TextError Decimal :=
  match beyond.find? (fun c => !Text.isDigit c && c != '_') with
  | some c => .error (.ofCharacter c)
  | none =>
      match (beyond.filterMap Text.digitValue?).head? with
      | none => ofScan? negative gathered places
      | some digit =>
          if digit < 5 then ofScan? negative gathered places
          else if gathered + 1 < mantissaLimit then ofScan? negative (gathered + 1) places
          else if places = 0 then .error .roundedOutOfRange
          else ofScan? negative ((gathered + 5) / 10) (places - 1)

/-- Scans digits, separators and at most one point. `point` tells whether the
point has been passed and `started` whether a digit has been. -/
def scan (negative point started : Bool) (gathered places : Nat) :
    List Char → Except TextError Decimal
  | [] => if started then ofScan? negative gathered places else .error .noDigits
  | c :: rest =>
      if point ∧ started ∧ maxScale ≤ places then roundScan negative gathered places (c :: rest)
      else
        match Text.digitValue? c with
        | some digit =>
            let next := 10 * gathered + digit
            if next < mantissaLimit then
              scan negative point true next (if point then places + 1 else 0) rest
            else if point then roundScan negative gathered places (c :: rest)
            else .error .tooManyDigits
        | none =>
            if c = '.' ∧ !point then scan negative true started gathered places rest
            else if c = '_' ∧ started then scan negative point started gathered places rest
            else .error (.ofCharacter c)

/-- Reads a number without a power of ten. -/
def readPlain : List Char → Except TextError Decimal
  | [] => .error .empty
  | '-' :: rest => scan true false false 0 0 rest
  | '+' :: rest => scan false false false 0 0 rest
  | chars => scan false false false 0 0 chars

/-- The natural number that digits with an optional plus sign stand for, if it
is below `2 ^ 32`. -/
def readExponent? (chars : List Char) : Option Nat :=
  let unsigned := match chars with
    | '+' :: rest => rest
    | rest => rest
  if unsigned.isEmpty || !unsigned.all Text.isDigit then none
  else
    let value := Text.valueOf unsigned
    if value < Nat.pow 2 32 then some value else none

/-- The number divided by a power of ten of at most 28 places. -/
def shiftDown (a : Decimal) (places : Nat) : Except TextError Decimal :=
  if maxScale < places then .error (.scaleTooLarge places) else .ok (a.overPowerOfTen places)

/-- The number multiplied by a power of ten of at most 28 places. -/
def shiftUp (a : Decimal) (places : Nat) : Except TextError Decimal :=
  if within : places ≤ a.scale then
    .ok
      { mantissa := a.mantissa
        scale := a.scale - places
        mantissa_lt := a.mantissa_lt
        scale_le := by have := a.scale_le; omega }
  else if maxScale < places then .error (.scaleTooLarge places)
  else
    match ofScaled? (a.mantissa * Nat.pow 10 places) a.scale with
    | some shifted => .ok shifted.trimmed
    | none => .error .outOfRange

/-- The character opens a power of ten. -/
def isExponentMark (c : Char) : Bool :=
  c == 'e' || c == 'E'

def readChars (chars : List Char) : Except TextError Decimal :=
  match chars.dropWhile (!isExponentMark ·) with
  | [] => readPlain chars
  | _ :: exponent => do
      let base ← readPlain (chars.takeWhile (!isExponentMark ·))
      match exponent with
      | '-' :: digits =>
          match readExponent? digits with
          | none => .error .badExponent
          | some places => base.shiftDown places
      | digits =>
          match readExponent? digits with
          | none => .error .badExponent
          | some places => base.shiftUp places

/-- The digits of a text stand for a number below zero, whatever is left of it
behind a power of ten. -/
def readsNegative (chars : List Char) : Bool :=
  match readPlain (chars.takeWhile (!isExponentMark ·)) with
  | .ok base => base.isNegative
  | .error _ => false

/-- Reads the text of a decimal number. -/
def read (text : String) : Except TextError Decimal :=
  readChars text.toList

end Decimal

end Lodging
