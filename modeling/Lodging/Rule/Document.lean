import Lodging.Document.Decode
import Lodging.Rule.Apply

/-! # Rules as documents

A rule is read from a document and written as one. Reading checks the bounds of
the adjustment unless the rule is taken as it was stored (`Rule.decodeStored`).
Decimals are written by a given function, since different readers of answers want
different forms of money.
-/

namespace Lodging

/-- The way in which decimals are written into documents. -/
abbrev MoneyForm := Decimal → Document

namespace AdjustmentKind

def name : AdjustmentKind → String
  | .percentage => "PERCENTAGE"
  | .fixedAmount => "FIXED_AMOUNT"
  | .unknown => "UNKNOWN"

/-- Any name but the two known ones stands for an unknown kind. -/
def decode : Decoder AdjustmentKind :=
  Decoder.choice [(name .percentage, .percentage), (name .fixedAmount, .fixedAmount)]
    (some .unknown)

end AdjustmentKind

namespace AdjustmentOperation

def name : AdjustmentOperation → String
  | .add => "ADD"
  | .subtract => "SUBTRACT"
  | .multiply => "MULTIPLY"

def decode : Decoder AdjustmentOperation :=
  Decoder.oneOf [.add, .subtract, .multiply] name

end AdjustmentOperation

namespace Adjustment

def fields : Fields Adjustment :=
  Adjustment.mk
    <$> .required "type" AdjustmentKind.decode
    <*> .defaulted "operation" AdjustmentOperation.decode .add
    <*> .required "value" Decoder.decimal

/-- The adjustment of a document; its bounds are not looked at. -/
def decode : Decoder Adjustment :=
  fields.decode

def toDocument (money : MoneyForm) (adjustment : Adjustment) : Document :=
  .record
    [("type", .text adjustment.kind.name),
      ("operation", .text adjustment.operation.name),
      ("value", money adjustment.value)]

end Adjustment

namespace Trigger

/-- The condition of a rule that looks at the time of booking. -/
def decodeDaysInAdvance : Decoder Int :=
  (Fields.required "daysInAdvance" Decoder.int64).decode

/-- The condition of a rule that looks at the length of the stay. -/
def decodeLengthOfStay : Decoder Trigger :=
  (Trigger.lengthOfStay
    <$> Fields.defaulted "minNights" Decoder.int64 0
    <*> Fields.omissible "maxNights" Decoder.int64).decode

/-- The condition of a rule that looks at the occupancy. -/
def decodeThreshold : Decoder Decimal :=
  (Fields.required "occupancyThreshold" Decoder.decimal).decode

/-- The condition of a rule that looks at the day of the week. -/
def decodeDaysOfWeek : Decoder (List Nat) := fun condition => do
  let days ← (Fields.required "daysOfWeek" (Decoder.listOf Decoder.nat32)).decode condition
  match days.find? (6 < ·) with
  | some day => .error (.dayOutside day)
  | none => .ok days

/-- The trigger of a rule type, given its condition. An unknown type keeps the
condition as it is. -/
def decode (typeName : String) (condition : Document) : Except DecodeError Trigger :=
  let read : Except DecodeError Trigger :=
    match typeName with
    | "EARLY_BIRD" => (decodeDaysInAdvance condition).map .earlyBird
    | "LAST_MINUTE" => (decodeDaysInAdvance condition).map .lastMinute
    | "LENGTH_OF_STAY" =>
        match condition with
        | .null => decodeLengthOfStay (.record [])
        | condition => decodeLengthOfStay condition
    | "OCCUPANCY_BASED" => (decodeThreshold condition).map .occupancyBased
    | "DAY_OF_WEEK" => (decodeDaysOfWeek condition).map .dayOfWeek
    | _ => .ok (.other typeName condition)
  read.mapError (.condition typeName)

/-- The condition of a trigger as a document. -/
def condition (money : MoneyForm) : Trigger → Document
  | .earlyBird days | .lastMinute days => .record [("daysInAdvance", .integer days)]
  | .lengthOfStay least none => .record [("minNights", .integer least)]
  | .lengthOfStay least (some most) =>
      .record [("minNights", .integer least), ("maxNights", .integer most)]
  | .occupancyBased threshold => .record [("occupancyThreshold", money threshold)]
  | .dayOfWeek days => .record [("daysOfWeek", .list (days.map .nat))]
  | .other _ condition => condition

end Trigger

/-- The document form of a rule before its condition is understood. -/
structure RuleForm where
  typeName : String
  name : Option String
  condition : Document
  adjustment : Adjustment
  priority : Int
deriving Repr

namespace RuleForm

def fields : Fields RuleForm :=
  RuleForm.mk
    <$> .required "type" Decoder.text
    <*> .omissible "name" Decoder.text
    <*> .defaulted "condition" Decoder.any .null
    <*> .required "adjustment" Adjustment.decode
    <*> .defaulted "priority" Decoder.int32 0

/-- The rule of a form whose condition is understood. -/
def toRule (form : RuleForm) : Except DecodeError Rule := do
  let trigger ← Trigger.decode form.typeName form.condition
  .ok
    { name := form.name
      trigger
      adjustment := form.adjustment
      priority := form.priority }

def toDocument (money : MoneyForm) (form : RuleForm) : Document :=
  .record
    (("type", .text form.typeName) ::
      (form.name.map fun name => ("name", Document.text name)).toList ++
      [("condition", form.condition),
        ("adjustment", form.adjustment.toDocument money),
        ("priority", .integer form.priority)])

end RuleForm

namespace Rule

/-- A rule taken as it was stored, without a check of its adjustment. -/
def decodeStored : Decoder Rule := fun draft => do
  (← RuleForm.fields.decode draft).toRule

/-- A rule whose adjustment keeps to its bounds. The condition is checked
first. -/
def decode : Decoder Rule := fun draft => do
  let rule ← decodeStored draft
  match rule.adjustment.fault? with
  | some fault => .error (.adjustment rule.trigger.typeName fault)
  | none => .ok rule

/-- The form in which a rule is written. -/
def toForm (money : MoneyForm) (rule : Rule) : RuleForm where
  typeName := rule.trigger.typeName
  name := rule.name
  condition := rule.trigger.condition money
  adjustment := rule.adjustment
  priority := rule.priority

def toDocument (money : MoneyForm) (rule : Rule) : Document :=
  (rule.toForm money).toDocument money

end Rule

/-- The document of the record of a rule that fired. -/
def AppliedRule.toDocument (money : MoneyForm) (applied : AppliedRule) : Document :=
  .record
    ((applied.name.map fun name => ("name", Document.text name)).toList ++
      [("ruleType", .text applied.typeName),
        ("priority", .integer applied.priority),
        ("amount", money applied.amount)])

end Lodging
