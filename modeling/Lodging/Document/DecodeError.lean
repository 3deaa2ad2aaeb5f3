import Lodging.Calendar.DateText
import Lodging.Rule.Basic

/-! # Why a document is refused

The first problem found in a document that should describe a value. Problems of
the mere shape have no wording of their own.
-/

namespace Lodging

/-- Why a document does not describe a value. -/
inductive DecodeError where
  /-- A value of the wrong kind, out of range, or with text of the wrong form. -/
  | shape
  /-- A text that does not go on in the way in which a value is written. -/
  | malformed
  /-- A field that must be there and is not. -/
  | missing (field : String)
  /-- A field that is given twice. -/
  | repeated (field : String)
  /-- A text that is none of the known choices. -/
  | unknownVariant (given : String) (known : List String)
  /-- A text that is no date. -/
  | date (refused : Date.Unreadable)
  /-- A day of the week beyond the sixth. -/
  | dayOutside (day : Nat)
  /-- The condition of a rule is refused. -/
  | condition (typeName : String) (cause : DecodeError)
  /-- The adjustment of a rule is out of bounds. -/
  | adjustment (typeName : String) (fault : Adjustment.Fault)
deriving DecidableEq, Repr

namespace DecodeError

/-- A name in the quotes that messages put around names. -/
def named (name : String) : String :=
  "`" ++ name ++ "`"

/-- The choices that a message offers. -/
def offer : List String → String
  | [one] => named one
  | [one, two] => named one ++ " or " ++ named two
  | many => "one of " ++ ", ".intercalate (many.map named)

/-- What is told of the cause for which a condition is refused. -/
def conditionDetail : DecodeError → String
  | .missing field => ": missing field " ++ named field
  | .dayOutside day => s!": day {day} is outside 0..=6"
  | _ => ""

/-- The wording of a refusal, where it has one. -/
def message? : DecodeError → Option String
  | .missing field => some ("missing field " ++ named field)
  | .unknownVariant given known =>
      some ("unknown variant " ++ named given ++ ", expected " ++ offer known)
  | .date refused => some refused.message
  | .condition typeName cause =>
      some (s!"Invalid condition for {typeName} rule" ++ cause.conditionDetail)
  | .adjustment typeName fault =>
      some s!"Invalid adjustment for {typeName} rule: {fault.message}"
  | _ => none

end DecodeError

end Lodging
