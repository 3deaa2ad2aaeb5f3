import Lodging.Service.Basic

/-! # The status workflow of reservations

A reservation is set to another status along the workflow. Setting it to the
status it has changes nothing, its time of change included.
-/

namespace Lodging.Reservations

open Service

def get (hotel id : Id) : Service Reservation := do
  require (.notFound .reservation id.display)
    (← consult .reservations (·.reservation? hotel id))

def setStatus (hotel id : Id) (status : ReservationStatus) : Service Reservation := do
  let reservation ← get hotel id
  let status ← accept .transition (reservation.status.change status)
  if status = reservation.status then pure reservation
  else
    let changed := { reservation with status, updatedAt := ← now }
    write .reservations fun stores =>
      (changed, stores.changeReservation hotel id fun _ => changed)

end Lodging.Reservations
