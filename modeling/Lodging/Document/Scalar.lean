import Lodging.Document.Draft
import Lodging.Text.Hex

/-! # Numbers and quoted texts

The parts of a text of JSON that have no parts themselves. Numbers without point
and exponent are integers as far as 64 bits hold them; all others are rounded to
double precision, and are flawed when they lie beyond its range. A quoted text is
flawed when one of its escapes stands for half a character. What follows is given
only where the part has an end.
-/

namespace Lodging.Draft

open Text

/-- A space, tab or line end. -/
def isSpace (c : Char) : Bool :=
  c == ' ' || c == '\n' || c == '\t' || c == '\r'

/-- What follows the spaces at the front. -/
def skipSpaces (chars : List Char) : List Char :=
  chars.dropWhile isSpace

/-- What follows an expected text. -/
def after? (expected : List Char) (chars : List Char) : Option (List Char) :=
  if expected.isPrefixOf chars then some (chars.drop expected.length) else none

/-- Every gathered significand lies below this. -/
def significandLimit : Nat := Nat.pow 2 64

/-- The value of the leading digits as far as it stays below the limit, and the
number of digits left out. -/
def gatherWhole (value : Nat) : List Char → Nat × Nat
  | [] => (value, 0)
  | c :: rest =>
      let next := 10 * value + (digitValue? c).getD 0
      if next < significandLimit then gatherWhole next rest else (value, rest.length + 1)

/-- The significand continued with the digits of a fraction as far as it stays
below the limit, and the number of digits taken. -/
def gatherFraction (value taken : Nat) : List Char → Nat × Nat
  | [] => (value, taken)
  | c :: rest =>
      let next := 10 * value + (digitValue? c).getD 0
      if next < significandLimit then gatherFraction next (taken + 1) rest else (value, taken)

/-- Takes the digits behind a point, if there is one; a point needs digits. -/
def takeFraction? : List Char → Option (Option (List Char) × List Char)
  | '.' :: rest =>
      match spanDigits rest with
      | ([], _) => none
      | (digits, rest) => some (some digits, rest)
  | chars => some (none, chars)

/-- Takes a power of ten, if an `e` announces one; it needs digits. -/
def takePower? (chars : List Char) : Option (Option Int × List Char) :=
  match chars with
  | c :: rest =>
      if c == 'e' || c == 'E' then
        let (negative, rest) := match rest with
          | '-' :: rest => (true, rest)
          | '+' :: rest => (false, rest)
          | rest => (false, rest)
        match spanDigits rest with
        | ([], _) => none
        | (digits, rest) =>
            let power : Int := valueOf digits
            some (some (if negative then -power else power), rest)
      else some (none, chars)
  | [] => some (none, [])

/-- Zero is the only number that starts with a zero. -/
def isWholePart (digits : List Char) : Bool :=
  match digits with
  | [] => false
  | [_] => true
  | first :: _ => first != '0'

/-- Takes a number whose sign has been taken. -/
def takeUnsigned? (negative : Bool) (chars : List Char) : Option (Draft × List Char) := do
  let (whole, chars) := spanDigits chars
  if !isWholePart whole then none
  else
    let (fraction, chars) ← takeFraction? chars
    let (power, chars) ← takePower? chars
    let (significand, leftOut) := gatherWhole 0 whole
    let isInteger := fraction.isNone && power.isNone && leftOut == 0 &&
      (if negative then 0 < significand && significand ≤ Nat.pow 2 63 else true)
    if isInteger then
      some (.integer (if negative then -(significand : Int) else significand), chars)
    else
      let (significand, taken) := gatherFraction significand 0 (fraction.getD [])
      match Binary64.ofNumeral? negative significand (power.getD 0 + leftOut - taken) with
      | some value => some (.real value, chars)
      | none => some (.flawed, chars)

def takeNumber (chars : List Char) : Draft × Option (List Char) :=
  let number := match chars with
    | '-' :: rest => takeUnsigned? true rest
    | chars => takeUnsigned? false chars
  match number with
  | some (number, rest) => (number, some rest)
  | none => (.broken, none)

def takeUnit? (chars : List Char) : Option (Nat × List Char) := do
  let digits := chars.take 4
  let unit ← hexNumber? digits
  if digits.length = 4 then some (unit, chars.drop 4) else none

/-- The unit of sixteen bits is the first half of a character. -/
def isHighHalf (unit : Nat) : Bool :=
  0xD800 ≤ unit && unit ≤ 0xDBFF

/-- The unit of sixteen bits is the second half of a character. -/
def isLowHalf (unit : Nat) : Bool :=
  0xDC00 ≤ unit && unit ≤ 0xDFFF

/-- Takes the character of a `\u` escape: one unit of sixteen bits, or two that
are the halves of one character. A half alone stands for none. -/
def takeEscapedUnit? (chars : List Char) : Option (Option Char × List Char) := do
  let (unit, rest) ← takeUnit? chars
  if isHighHalf unit then
    match (after? ['\\', 'u'] rest).bind takeUnit? with
    | some (low, behind) =>
        if isLowHalf low then
          some (some (Char.ofNat (0x10000 + (unit - 0xD800) * 0x400 + (low - 0xDC00))), behind)
        else some (none, rest)
    | none => some (none, rest)
  else if isLowHalf unit then some (none, rest)
  else some (some (Char.ofNat unit), rest)

/-- The character that a letter behind a backslash stands for. -/
def escaped? : Char → Option Char
  | '"' => some '"'
  | '\\' => some '\\'
  | '/' => some '/'
  | 'b' => some (Char.ofNat 8)
  | 'f' => some (Char.ofNat 12)
  | 'n' => some '\n'
  | 'r' => some '\r'
  | 't' => some '\t'
  | _ => none

/-- Takes what stands behind a backslash; it may stand for no character. -/
def takeEscape? : List Char → Option (Option Char × List Char)
  | [] => none
  | 'u' :: rest => takeEscapedUnit? rest
  | c :: rest => (escaped? c).map fun c => (some c, rest)

/-- Takes the characters up to the closing quote; at most `fuel` of them. Those
gathered so far come last first; there are none once one could not be made out. -/
def takeText? (gathered : Option (List Char)) :
    (fuel : Nat) → List Char → Option (Option String × List Char)
  | 0, _ => none
  | _, [] => none
  | _, '"' :: rest => some (gathered.map fun chars => String.ofList chars.reverse, rest)
  | fuel + 1, '\\' :: rest =>
      match takeEscape? rest with
      | none => none
      | some (c, rest) => takeText? (c.bind fun c => gathered.map (c :: ·)) fuel rest
  | fuel + 1, c :: rest =>
      if c.toNat < 32 then none else takeText? (gathered.map (c :: ·)) fuel rest

/-- Takes a text up to its closing quote. There is no text if it is flawed. -/
def takeQuoted? (chars : List Char) : Option (Option String × List Char) :=
  takeText? (some []) (chars.length + 1) chars

end Lodging.Draft
