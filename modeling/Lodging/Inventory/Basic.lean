import Lodging.Calendar.Instant
import Lodging.FieldFault
import Lodging.Id

/-! # The inventory ledger

A row of the ledger counts the rooms of one type on one night and says under
which conditions they are sold. What is available follows from the counts, as long
as every step of their sum is a count as well (`RoomCounts.available?`). Rows are
written field by field; a field that a write does not carry keeps its value.
-/

namespace Lodging

namespace Inventory

/-- Every count is below this number, and none is below its negative. -/
def countLimit : Int := Nat.pow 2 31

/-- The number is one of those that can be counted. -/
def Fits (value : Int) : Prop :=
  -countLimit ≤ value ∧ value < countLimit

instance (value : Int) : Decidable (Fits value) :=
  inferInstanceAs (Decidable (_ ∧ _))

/-- The result of a step of a sum, unless it overflows. -/
def step? (value : Int) : Option Int :=
  if Fits value then some value else none

end Inventory

/-- The counts of a row. -/
structure RoomCounts where
  totalRooms : Int
  outOfOrder : Int
  blocked : Int
  sold : Int
  overbookingLimit : Int
deriving DecidableEq, Repr, Inhabited

open Inventory in
/-- The rooms that can still be sold, below zero when more are sold than there are;
nothing when a step of the sum overflows. -/
def RoomCounts.available? (counts : RoomCounts) : Option Int := do
  let inOrder ← step? (counts.totalRooms - counts.outOfOrder)
  let unblocked ← step? (inOrder - counts.blocked)
  let unsold ← step? (unblocked - counts.sold)
  step? (unsold + counts.overbookingLimit)

/-- The row of a room type on one date. -/
structure InventoryRow extends RoomCounts where
  id : Id
  roomType : Id
  date : Date
  /-- What is available by the counts, as far as it could be computed. -/
  available : Int
  stopSell : Bool
  minStay : Option Int
  maxStay : Option Int
  closedToArrival : Bool
  closedToDeparture : Bool
  rateOverride : Option Decimal
  reason : Option String
  createdAt : Instant
  updatedAt : Instant
deriving DecidableEq, Repr, Inhabited

/-- A write to the row of one date. -/
structure InventoryPatch where
  date : Date
  totalRooms : Option Int
  outOfOrder : Option Int
  blocked : Option Int
  sold : Option Int
  overbookingLimit : Option Int
  stopSell : Option Bool
  minStay : Option Int
  maxStay : Option Int
  closedToArrival : Option Bool
  closedToDeparture : Option Bool
  rateOverride : Option Decimal
  reason : Option String
deriving DecidableEq, Repr

namespace InventoryRow

/-- The row that a first write starts from: all rooms of the type are for sale, and
what is available has yet to be computed. -/
def blank (id roomType : Id) (date : Date) (totalRooms : Int) (now : Instant) :
    InventoryRow where
  id
  roomType
  date
  totalRooms
  outOfOrder := 0
  blocked := 0
  sold := 0
  overbookingLimit := 0
  available := 0
  stopSell := false
  minStay := none
  maxStay := none
  closedToArrival := false
  closedToDeparture := false
  rateOverride := none
  reason := none
  createdAt := now
  updatedAt := now

end InventoryRow

namespace InventoryPatch

/-- The write that carries no field. -/
def forDate (date : Date) : InventoryPatch where
  date
  totalRooms := none
  outOfOrder := none
  blocked := none
  sold := none
  overbookingLimit := none
  stopSell := none
  minStay := none
  maxStay := none
  closedToArrival := none
  closedToDeparture := none
  rateOverride := none
  reason := none

def faults (patch : InventoryPatch) : FieldFaults :=
  .atLeast "total_rooms" 0 "Total rooms cannot be negative" patch.totalRooms ++
    .atLeast "out_of_order" 0 "Out-of-order count cannot be negative" patch.outOfOrder ++
    .atLeast "blocked" 0 "Blocked count cannot be negative" patch.blocked ++
    .atLeast "sold" 0 "Sold count cannot be negative" patch.sold ++
    .atLeast "overbooking_limit" 0 "Overbooking limit cannot be negative"
      patch.overbookingLimit ++
    .atLeast "min_stay" 1 "Minimum stay must be at least 1 night" patch.minStay ++
    .atLeast "max_stay" 1 "Maximum stay must be at least 1 night" patch.maxStay ++
    .amount "rate_override" patch.rateOverride

/-- The faults of a list of writes. -/
def listFaults (patches : List InventoryPatch) : FieldFaults :=
  .entries "entries" "At least one inventory entry is required" patches

/-- The stay bounds of the write contradict each other. -/
def reversedBounds? (patch : InventoryPatch) : Option ReversedBounds :=
  ReversedBounds.check "Stay" patch.minStay patch.maxStay

/-- The stay bounds contradict each other once the write is merged into a row. -/
def reversedMerged? (patch : InventoryPatch) (stored : Option InventoryRow) :
    Option ReversedBounds :=
  ReversedBounds.check "Stay" (patch.minStay.or (stored.bind (·.minStay)))
    (patch.maxStay.or (stored.bind (·.maxStay)))

def applyCounts (patch : InventoryPatch) (counts : RoomCounts) : RoomCounts where
  totalRooms := patch.totalRooms.getD counts.totalRooms
  outOfOrder := patch.outOfOrder.getD counts.outOfOrder
  blocked := patch.blocked.getD counts.blocked
  sold := patch.sold.getD counts.sold
  overbookingLimit := patch.overbookingLimit.getD counts.overbookingLimit

/-- The row after the write is merged into it. What is available stays as it was when
it cannot be computed anew. -/
def apply (patch : InventoryPatch) (row : InventoryRow) (now : Instant) : InventoryRow :=
  let counts := patch.applyCounts row.toRoomCounts
  { row with
    toRoomCounts := counts
    available := counts.available?.getD row.available
    stopSell := patch.stopSell.getD row.stopSell
    minStay := patch.minStay.or row.minStay
    maxStay := patch.maxStay.or row.maxStay
    closedToArrival := patch.closedToArrival.getD row.closedToArrival
    closedToDeparture := patch.closedToDeparture.getD row.closedToDeparture
    rateOverride := patch.rateOverride.or row.rateOverride
    reason := patch.reason.or row.reason
    updatedAt := now }

end InventoryPatch

end Lodging
