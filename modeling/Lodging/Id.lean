import Lodging.Text.Hex

/-! # Ids

Every record has an id of 32 hexadecimal digits, written in five groups and read
in four notations. New ids are drawn from a supply in sequence, so an id is never
drawn twice.
-/

namespace Lodging

/-- The id of a record, as the number that its digits stand for. -/
structure Id where
  value : Nat
deriving DecidableEq, Repr, Inhabited

namespace Id

/-- The last `count` hexadecimal digits of a number. -/
def hexDigits (value : Nat) : (count : Nat) → List Char
  | 0 => []
  | count + 1 => hexDigits (value / 16) count ++ [Text.hexDigit (value % 16)]

/-- The digits in groups of eight, four, four, four and twelve. -/
def grouped (digits : List Char) : List Char :=
  digits.take 8 ++ '-' :: (digits.drop 8).take 4 ++ '-' :: (digits.drop 12).take 4 ++
    '-' :: (digits.drop 16).take 4 ++ '-' :: digits.drop 20

/-- The text of an id: lower-case digits in groups. -/
def display (id : Id) : String :=
  String.ofList (grouped (hexDigits id.value 32))

instance : ToString Id := ⟨display⟩

def ofDigits? (chars : List Char) : Option Id :=
  if chars.length = 32 then (Text.hexNumber? chars).map fun value => { value } else none

def ofGroups? (chars : List Char) : Option Id :=
  let digits := chars.filter (· != '-')
  if chars = grouped digits then ofDigits? digits
  else none

/-- The text that may introduce an id, in letters of either case. -/
def urnPrefix : List Char := "urn:uuid:".toList

/-- Reads an id: bare digits, groups of digits, groups in braces, or groups with
an introduction. -/
def read? (text : String) : Option Id :=
  let chars := text.toList
  match chars.length with
  | 32 => ofDigits? chars
  | 36 => ofGroups? chars
  | 38 =>
      if chars.head? = some '\x7b' ∧ chars.getLast? = some '\x7d' then
        ofGroups? (chars.drop 1).dropLast
      else none
  | 45 =>
      if (chars.take 9).map Char.toLower = urnPrefix then ofGroups? (chars.drop 9) else none
  | _ => none

/-- A supply of ids not drawn before. -/
structure Supply where
  /-- The number of ids drawn so far. -/
  drawn : Nat
deriving DecidableEq, Repr, Inhabited

/-- The ids of a supply begin behind this one. -/
def Supply.origin : Nat := 0x6f1d9b3052c74e8a9d41000000000000

def Supply.next (supply : Supply) : Id where
  value := origin + supply.drawn

def Supply.rest (supply : Supply) : Supply where
  drawn := supply.drawn + 1

end Id

end Lodging
