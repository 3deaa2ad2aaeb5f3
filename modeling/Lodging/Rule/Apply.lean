import Lodging.Calendar.Date
import Lodging.Rule.Basic

/-! # Applying rules to a night

The rules that fire on a night change its rate one after another, the highest
priority first and rules of one priority in the order of their list. Each works
on the rate that those before it left, so percentages compound
(`Rule.applyAll?`). A rate that leaves the range of decimals has no value.
-/

namespace Lodging

/-- What a rule can react to on one night. -/
structure RuleContext where
  date : Date
  daysInAdvance : Int
  lengthOfStay : Int
  occupancyPercent : Decimal
deriving DecidableEq, Repr

/-- The record of a rule that fired. -/
structure AppliedRule where
  name : Option String
  typeName : String
  priority : Int
  /-- What was added to the rate, negative for a discount. -/
  amount : Decimal
deriving DecidableEq, Repr

def Trigger.fires (trigger : Trigger) (context : RuleContext) : Bool :=
  match trigger with
  | .earlyBird days => decide (days ≤ context.daysInAdvance)
  | .lastMinute days => decide (context.daysInAdvance ≤ days)
  | .lengthOfStay least most =>
      decide (least ≤ context.lengthOfStay) && most.all fun most => context.lengthOfStay ≤ most
  | .occupancyBased threshold => decide (threshold ≤ context.occupancyPercent)
  | .dayOfWeek days => days.contains context.date.weekday
  | .other _ _ => false

/-- The size of an adjustment of a rate, whatever its direction. A percentage is
multiplied first and divided by one hundred then; the product may be out of
range. -/
def Adjustment.magnitude? (adjustment : Adjustment) (rate : Decimal) : Option Decimal :=
  match adjustment.kind with
  | .percentage => (rate.mul? adjustment.value).map Decimal.hundredth
  | .fixedAmount => some adjustment.value
  | .unknown => some Decimal.zero

/-- What an adjustment adds to a rate. -/
def Adjustment.delta? (adjustment : Adjustment) (rate : Decimal) : Option Decimal :=
  (adjustment.magnitude? rate).map fun magnitude =>
    match adjustment.operation with
    | .subtract => -magnitude
    | .add | .multiply => magnitude

namespace Rule

/-- The record of a rule that changed the rate by an amount. -/
def applied (rule : Rule) (amount : Decimal) : AppliedRule where
  name := rule.name
  typeName := rule.trigger.typeName
  priority := rule.priority
  amount

/-- The rules that fire on a night, in the order in which they apply. -/
def firing (rules : List Rule) (context : RuleContext) : List Rule :=
  (rules.filter fun rule => rule.trigger.fires context).mergeSort fun first second =>
    second.priority ≤ first.priority

def applyInOrder? (rate : Decimal) : List Rule → Option (Decimal × List AppliedRule)
  | [] => some (rate, [])
  | rule :: rest => do
      let amount ← rule.adjustment.delta? rate
      let next ← rate.add? amount
      let (final, trail) ← applyInOrder? next rest
      some (final, rule.applied amount :: trail)

/-- The rate of a night after all its rules, and the record of those that
fired. -/
def applyAll? (base : Decimal) (rules : List Rule) (context : RuleContext) :
    Option (Decimal × List AppliedRule) :=
  applyInOrder? base (firing rules context)

/-- The wording for a rate out of range. -/
def overflowMessage : String :=
  "Pricing rules produce a rate outside the supported range"

end Rule

end Lodging
