import Lodging.Decimal.Text
import Lodging.Document.Basic
import Lodging.Text.Blank

/-! # Checks of single fields

A request that has the right shape may still hold values that no record may
hold. Every field is checked by itself, and all that fail are reported together.
Whether two fields agree with each other is checked elsewhere.
-/

namespace Lodging

/-- What is wrong with the value of a field. -/
inductive FieldFault where
  /-- A text or list is too short or too long. -/
  | length (least : Nat) (most : Option Nat) (value : Document) (message : String)
  /-- A number is too small. -/
  | belowLeast (least value : Int) (message : String)
  /-- A check known by its code alone. -/
  | named (code : String) (params : List (String × Document))
deriving Repr

/-- Faults with the names of the fields they were found in. -/
abbrev FieldFaults := List (String × FieldFault)

namespace FieldFault

def negativeAmount (amount : Decimal) : FieldFault :=
  .named "amount_must_not_be_negative" [("value", .text amount.display)]

def invalidCurrency (code : String) : FieldFault :=
  .named "invalid_currency_code" [("value", .text code)]

/-- One of the channel codes is blank. -/
def blankChannel (codes : List String) : FieldFault :=
  .named "blank_channel_code" [("value", .texts codes)]

def code : FieldFault → String
  | .length .. => "length"
  | .belowLeast .. => "range"
  | .named code _ => code

/-- The wording of a fault, if it has one. -/
def message? : FieldFault → Option String
  | .length _ _ _ message | .belowLeast _ _ message => some message
  | .named _ _ => none

/-- What a fault tells about the check and the value. -/
def params : FieldFault → List (String × Document)
  | .length least most value _ =>
      (most.map fun most => ("max", Document.nat most)).toList ++
        [("min", .nat least), ("value", value)]
  | .belowLeast least value _ =>
      [("min", .real (Binary64.ofInt least)), ("value", .integer value)]
  | .named _ params => params

def toDocument (fault : FieldFault) : Document :=
  .record
    [("code", .text fault.code),
      ("message", Document.orNull .text fault.message?),
      ("params", .record fault.params)]

/-- An amount of money is not below zero. -/
def ofAmount? (amount : Decimal) : Option FieldFault :=
  if amount.isNegative then some (negativeAmount amount) else none

/-- A currency code has three capital letters. -/
def ofCurrency? (code : String) : Option FieldFault :=
  let chars := code.toList
  if chars.length = 3 ∧ chars.all fun c => 'A' ≤ c && c ≤ 'Z' then none
  else some (invalidCurrency code)

/-- A channel code holds more than blanks. -/
def ofChannels? (codes : List String) : Option FieldFault :=
  if codes.any Text.isBlankText then some (blankChannel codes) else none

end FieldFault

namespace FieldFaults

/-- The fault of a field that may be absent. -/
def ofField {α : Type} (name : String) (check : α → Option FieldFault) :
    Option α → FieldFaults
  | none => []
  | some value => (check value).toList.map fun fault => (name, fault)

/-- A text has a number of characters within bounds. -/
def text (name : String) (least most : Nat) (message : String) : Option String → FieldFaults :=
  ofField name fun value =>
    if least ≤ value.length ∧ value.length ≤ most then none
    else some (.length least (some most) (.text value) message)

def atLeast (name : String) (least : Int) (message : String) : Option Int → FieldFaults :=
  ofField name fun value =>
    if least ≤ value then none else some (.belowLeast least value message)

def amount (name : String) : Option Decimal → FieldFaults :=
  ofField name FieldFault.ofAmount?

def entries {α : Type} (name : String) (message : String) (values : List α) : FieldFaults :=
  if values.isEmpty then [(name, .length 1 none (.list []) message)] else []

/-- The document of all faults, by field. -/
def toDocument (faults : FieldFaults) : Document :=
  .record (faults.map fun (name, fault) => (name, .list [fault.toDocument]))

end FieldFaults

/-- A lower bound above the upper bound it belongs to. -/
structure ReversedBounds where
  label : String
  least : String
  most : String
deriving DecidableEq, Repr

namespace ReversedBounds

def message (bounds : ReversedBounds) : String :=
  s!"{bounds.label} minimum ({bounds.least}) cannot exceed maximum ({bounds.most})"

/-- The bounds are reversed; a bound that is absent agrees with any other. -/
def check {α : Type} [LT α] [DecidableLT α] [ToString α] (label : String) :
    (least most : Option α) → Option ReversedBounds
  | some least, some most =>
      if most < least then
        some { label, least := toString least, most := toString most }
      else none
  | _, _ => none

end ReversedBounds

end Lodging
