import Lodging.Inventory.Availability
import Lodging.Service.Basic

/-! # Checking the availability of a room type

Every check is counted, also one that fails.
-/

namespace Lodging.Availability

open Service

/-- Whether a room type can be sold for a stay. -/
def check (hotel roomType : Id) (stay : Stay) : Service Availability := do
  count .availabilityCheck
  let _ ← Service.roomType hotel roomType
  let _ ← nightsOf stay
  let rooms ← consult .directory (·.directory.sellableRooms roomType)
  let held ← consult .reservations (·.roomsHeld roomType stay)
  let rows ← consult .inventory (·.inventoryIn roomType stay.checkIn stay.lastNight)
  pure (resolve rooms held (rows.map (·.supply)))

end Lodging.Availability
