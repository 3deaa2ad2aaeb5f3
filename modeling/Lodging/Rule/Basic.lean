import Lodging.Decimal.Text
import Lodging.Document.Basic

/-! # Pricing rules

A rule has a trigger, which decides on which nights it fires, and an adjustment,
which says what it adds to the rate or takes off it. The operation carries the
sign, so the value of an accepted adjustment is not negative and bounded
(`Adjustment.fault?`).
-/

namespace Lodging

/-- What makes a rule fire. -/
inductive Trigger where
  /-- The booking is made at least so many days ahead. -/
  | earlyBird (daysInAdvance : Int)
  /-- The booking is made at most so many days ahead. -/
  | lastMinute (daysInAdvance : Int)
  /-- The stay is as long as the least and not longer than the most. -/
  | lengthOfStay (minNights : Int) (maxNights : Option Int)
  /-- The occupancy in percent reaches a threshold. -/
  | occupancyBased (threshold : Decimal)
  /-- The night is one of the days of the week, zero for Sunday. -/
  | dayOfWeek (days : List Nat)
  /-- A type that is kept but not understood; it never fires. -/
  | other (typeName : String) (condition : Document)
deriving Repr, Inhabited

/-- The name of the type of rule. -/
def Trigger.typeName : Trigger → String
  | .earlyBird _ => "EARLY_BIRD"
  | .lastMinute _ => "LAST_MINUTE"
  | .lengthOfStay _ _ => "LENGTH_OF_STAY"
  | .occupancyBased _ => "OCCUPANCY_BASED"
  | .dayOfWeek _ => "DAY_OF_WEEK"
  | .other typeName _ => typeName

/-- What the value of an adjustment means. -/
inductive AdjustmentKind where
  | percentage
  | fixedAmount
  /-- A kind that is not understood; it changes nothing. -/
  | unknown
deriving DecidableEq, Repr, Inhabited

/-- What an adjustment does to the rate. Multiplying is the same as adding. -/
inductive AdjustmentOperation where
  | add
  | subtract
  | multiply
deriving DecidableEq, Repr, Inhabited

structure Adjustment where
  kind : AdjustmentKind
  operation : AdjustmentOperation
  value : Decimal
deriving DecidableEq, Repr, Inhabited

namespace Adjustment

/-- Why an adjustment is refused. -/
inductive Fault where
  | negative (value : Decimal)
  | aboveLimit (value limit : Decimal)
deriving DecidableEq, Repr

def Fault.message : Fault → String
  | .negative value =>
      s!"Adjustment value {value.display} must not be negative; use SUBTRACT to discount"
  | .aboveLimit value limit =>
      s!"Adjustment value {value.display} exceeds the maximum of {limit.display} " ++
        "for this adjustment"

/-- The largest value an adjustment may have, if there is one. -/
def limit? (adjustment : Adjustment) : Option Decimal :=
  match adjustment.kind, adjustment.operation with
  | .percentage, .subtract => some Decimal.hundred
  | .percentage, _ => some Decimal.thousand
  | .fixedAmount, _ => some Decimal.million
  | .unknown, _ => none

/-- What is wrong with the value of an adjustment. -/
def fault? (adjustment : Adjustment) : Option Fault :=
  if adjustment.value.isNegative then some (.negative adjustment.value)
  else
    match adjustment.limit? with
    | some limit =>
        if limit < adjustment.value then some (.aboveLimit adjustment.value limit) else none
    | none => none

end Adjustment

structure Rule where
  name : Option String
  trigger : Trigger
  adjustment : Adjustment
  /-- Rules of higher priority come first. -/
  priority : Int
deriving Repr, Inhabited

end Lodging
