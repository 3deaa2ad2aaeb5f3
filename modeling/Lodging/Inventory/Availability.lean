import Lodging.Inventory.Basic

/-! # Availability of a room type

Two signals say whether a room type can be sold for a stay: the rows of the
ledger on its nights, and the rooms that reservations hold. Rows decide where
there are any, and a single stop-sell row closes the stay.
-/

namespace Lodging

/-- Which signal decided. -/
inductive AvailabilitySource where
  | inventory
  | reservations
deriving DecidableEq, Repr

def AvailabilitySource.name : AvailabilitySource → String
  | .inventory => "INVENTORY"
  | .reservations => "RESERVATIONS"

/-- Whether a room type can be sold for a stay. -/
structure Availability where
  available : Bool
  roomsAvailable : Int
  totalRooms : Int
  /-- The rooms that reservations hold at some time of the stay. -/
  occupied : Int
  stopSell : Bool
  source : AvailabilitySource
deriving DecidableEq, Repr

/-- What a row contributes to the verdict. -/
structure NightSupply where
  available : Int
  stopSell : Bool
deriving DecidableEq, Repr

/-- What a row of the ledger contributes. -/
def InventoryRow.supply (row : InventoryRow) : NightSupply where
  available := row.available
  stopSell := row.stopSell

namespace Availability

/-- The verdict on a stay: its room count, the rooms held, and the rows on its
nights. -/
def resolve (totalRooms occupied : Int) (nights : List NightSupply) : Availability :=
  let stopSell := nights.any (·.stopSell)
  let least? := (nights.map (·.available)).min?
  let least := least?.getD (totalRooms - occupied)
  { available := !stopSell && decide (0 < least)
    roomsAvailable := if stopSell then 0 else max least 0
    totalRooms
    occupied
    stopSell
    source := if least?.isSome then .inventory else .reservations }

def toDocument (availability : Availability) : Document :=
  .record
    [("available", .bool availability.available),
      ("roomsAvailable", .integer availability.roomsAvailable),
      ("totalRooms", .integer availability.totalRooms),
      ("occupied", .integer availability.occupied),
      ("stopSell", .bool availability.stopSell),
      ("source", .text availability.source.name)]

end Availability

end Lodging
