import Lodging.Calendar.Instant
import Lodging.Calendar.Stay
import Lodging.Document.Decode

/-! # Reservations

A reservation moves through its statuses along the arrows of
`ReservationStatus.leadsTo` and stops at one that leads nowhere. While it is
confirmed or checked in it holds the rooms that are booked for it.
-/

namespace Lodging

inductive ReservationStatus where
  | pending
  | confirmed
  | checkedIn
  | checkedOut
  | cancelled
  | noShow
deriving DecidableEq, Repr, Inhabited

namespace ReservationStatus

/-- All statuses, in the order of a stay. -/
def all : List ReservationStatus :=
  [.pending, .confirmed, .checkedIn, .checkedOut, .cancelled, .noShow]

def name : ReservationStatus → String
  | .pending => "PENDING"
  | .confirmed => "CONFIRMED"
  | .checkedIn => "CHECKED_IN"
  | .checkedOut => "CHECKED_OUT"
  | .cancelled => "CANCELLED"
  | .noShow => "NO_SHOW"

def decode : Decoder ReservationStatus :=
  Decoder.oneOf all name

/-- A reservation of this status holds its rooms. -/
def holdsInventory : ReservationStatus → Bool
  | .confirmed | .checkedIn => true
  | _ => false

/-- One status is followed by another. -/
def leadsTo : (source target : ReservationStatus) → Bool
  | .pending, .confirmed | .pending, .cancelled => true
  | .confirmed, .checkedIn | .confirmed, .cancelled | .confirmed, .noShow => true
  | .checkedIn, .checkedOut => true
  | _, _ => false

/-- A reservation may be set to a status: the one it has, or one that follows. -/
def allows (source target : ReservationStatus) : Bool :=
  source == target || source.leadsTo target

end ReservationStatus

/-- A change of status that the workflow does not have. -/
structure ForbiddenTransition where
  source : ReservationStatus
  target : ReservationStatus
deriving DecidableEq, Repr

def ForbiddenTransition.message (transition : ForbiddenTransition) : String :=
  s!"Invalid reservation status transition from {transition.source.name} " ++
    s!"to {transition.target.name}"

/-- The status after a change, if the workflow has it. -/
def ReservationStatus.change (source target : ReservationStatus) :
    Except ForbiddenTransition ReservationStatus :=
  if source.allows target then .ok target else .error { source, target }

structure Reservation where
  id : Id
  hotel : Id
  /-- The rate plan it was booked on, if there was one. -/
  plan : Option Id
  status : ReservationStatus
  stay : Stay
  createdAt : Instant
  updatedAt : Instant
deriving DecidableEq, Repr

/-- A room booked for a reservation. -/
structure BookedRoom where
  reservation : Id
  roomType : Id
  stay : Stay
deriving DecidableEq, Repr

def Reservation.toDocument (reservation : Reservation) : Document :=
  .record
    [("id", .text reservation.id.display),
      ("hotelId", .text reservation.hotel.display),
      ("ratePlanId", .orNull (fun id => .text id.display) reservation.plan),
      ("status", .text reservation.status.name),
      ("checkIn", .text reservation.stay.checkIn.display),
      ("checkOut", .text reservation.stay.checkOut.display),
      ("createdAt", .text reservation.createdAt.display),
      ("updatedAt", .text reservation.updatedAt.display)]

/-- The request for a change of status. -/
def ReservationStatus.decodeRequest : Decoder ReservationStatus :=
  (Fields.required "status" decode).decode

end Lodging
