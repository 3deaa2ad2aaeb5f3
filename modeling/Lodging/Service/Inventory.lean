import Lodging.Service.Overrides

/-! # Reading and writing the ledger

Rows belong to a room type of the hotel. The stay bounds of a row must agree once
a write is merged into it. A new row counts as many rooms as the directory has
for sale, as long as 32 bits hold the number. Several writes are checked against
the rows as they were before the first of them. None of the checks is about what is
available in the rows that are written, so a write may break off.
-/

namespace Lodging.Inventory

open Service

/-- The rows of a room type within a range of dates. -/
def inRange (hotel roomType : Id) (first last : Date) : Service (List InventoryRow) := do
  Overrides.checkRange first last
  let _ ← Service.roomType hotel roomType
  consult .inventory (·.inventoryIn roomType first last)

/-- The fields and the stay bounds of a write are in order. -/
def checkPatch (patch : InventoryPatch) : Service Unit := do
  refuseFaults patch.faults
  refuse (patch.reversedBounds?.map .reversedBounds)

/-- The number of rooms that a new row counts. -/
def sellableRooms (roomType : Id) : Service Int := do
  let rooms ← consult .directory (·.directory.sellableRooms roomType)
  if Fits rooms then pure rooms
  else fail (.roomCountOutOfRange rooms)

def put (hotel roomType : Id) (patch : InventoryPatch) : Service InventoryRow := do
  checkPatch patch
  let _ ← Service.roomType hotel roomType
  let stored ← consult .inventory (·.inventory? roomType patch.date)
  refuse ((patch.reversedMerged? stored).map .reversedBounds)
  let rooms ← sellableRooms roomType
  let now ← now
  computed (← write .inventory (·.writeInventory roomType patch rooms now))

/-- Writes several rows and gives their number. -/
def putAll (hotel roomType : Id) (patches : List InventoryPatch) : Service Nat := do
  refuseFaults (InventoryPatch.listFaults patches)
  patches.forM checkPatch
  let _ ← Service.roomType hotel roomType
  let reversed ← consult .inventory fun stores =>
    patches.findSome? fun patch =>
      patch.reversedMerged? (stores.inventory? roomType patch.date)
  refuse (reversed.map .reversedBounds)
  let rooms ← sellableRooms roomType
  let now ← now
  computed (← write .inventory (·.writeInventories roomType patches rooms now))
  pure patches.length

end Lodging.Inventory
