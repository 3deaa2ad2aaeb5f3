import Lodging.Calendar.Instant
import Lodging.FieldFault
import Lodging.Id

/-! # Overrides of single nights

An override changes a rate plan on one night: its rate, or only its flags. It is
written field by field; a field that a write does not carry keeps its value.
-/

namespace Lodging

/-- The override of a plan on one date. -/
structure RateOverride where
  id : Id
  plan : Id
  date : Date
  /-- The rate in place of the plan's base rate. -/
  rate : Option Decimal
  stopSell : Bool
  minStay : Option Int
  reason : Option String
  createdAt : Instant
  updatedAt : Instant
deriving DecidableEq, Repr, Inhabited

/-- A write to the override of one date. -/
structure OverridePatch where
  date : Date
  rate : Option Decimal
  stopSell : Option Bool
  minStay : Option Int
  reason : Option String
deriving DecidableEq, Repr

namespace RateOverride

/-- The override that a first write starts from. -/
def blank (id plan : Id) (date : Date) (now : Instant) : RateOverride where
  id
  plan
  date
  rate := none
  stopSell := false
  minStay := none
  reason := none
  createdAt := now
  updatedAt := now

end RateOverride

namespace OverridePatch

/-- The write that carries no field. -/
def forDate (date : Date) : OverridePatch where
  date
  rate := none
  stopSell := none
  minStay := none
  reason := none

def faults (patch : OverridePatch) : FieldFaults :=
  .amount "rate" patch.rate ++
    .atLeast "min_stay" 1 "Minimum stay must be at least 1 night" patch.minStay

def apply (patch : OverridePatch) (row : RateOverride) (now : Instant) : RateOverride :=
  { row with
    rate := patch.rate.or row.rate
    stopSell := patch.stopSell.getD row.stopSell
    minStay := patch.minStay.or row.minStay
    reason := patch.reason.or row.reason
    updatedAt := now }

end OverridePatch

/-- The faults of a list of writes to overrides. -/
def OverridePatch.listFaults (patches : List OverridePatch) : FieldFaults :=
  .entries "overrides" "At least one override entry is required" patches

end Lodging
