import Lodging.Access.Role
import Lodging.Calendar.DateText
import Lodging.Calendar.Stay
import Lodging.FieldFault
import Lodging.Reservation.Basic
import Lodging.Rule.Apply

/-! # What can go wrong with a request

A problem is the cause for which a request is refused. What callers are told is a
failure: its category, by which a status and a code are chosen, and a message
(`Problem.failure`). Faults of the stores and internal faults are told apart
inside only; callers learn no details of them.
-/

namespace Lodging

inductive StoreName where
  /-- Hotels, room types and room counts. -/
  | directory
  | ratePlans
  | overrides
  | inventory
  | reservations
deriving DecidableEq, Repr

/-- What a request may look for and not find. -/
inductive Resource where
  | hotel
  | roomType
  | ratePlan
  | rateOverride
  | reservation
deriving DecidableEq, Repr

/-- The name of a kind of resource. -/
def Resource.name : Resource → String
  | .hotel => "Hotel"
  | .roomType => "RoomType"
  | .ratePlan => "RatePlan"
  | .rateOverride => "RateOverride"
  | .reservation => "Reservation"

/-- The cause for which a request is refused. -/
inductive Problem where
  /-- Fields fail their checks. -/
  | invalidFields (faults : FieldFaults)
  /-- Two bounds contradict each other. -/
  | reversedBounds (bounds : ReversedBounds)
  /-- A range of dates ends before it starts. -/
  | reversedRange
  /-- A date in the address of a request cannot be read. -/
  | unreadableDate (refused : Date.Unreadable)
  | stay (refusal : Stay.Refusal)
  /-- The price of a plan leaves the range of decimals. -/
  | unpriceable (code : String)
  /-- A public plan of the room type has one of the channels already. -/
  | channelTaken (code : String)
  | transition (forbidden : ForbiddenTransition)
  | notFound (resource : Resource) (id : String)
  /-- A live plan of the hotel has the code already. -/
  | codeTaken (code : String)
  /-- A reservation that holds rooms was booked on the plan. -/
  | planInUse
  | access (fault : AccessFault)
  /-- A store does not answer. -/
  | unreachable (store : StoreName)
  /-- A room type has more rooms than a row can count. -/
  | roomCountOutOfRange (rooms : Int)
deriving Repr

/-- What callers are told of a problem. -/
inductive Failure where
  | validation (faults : FieldFaults)
  | badRequest (message : String)
  | notFound (resource id : String)
  | conflict (message : String)
  | unauthorized (message : String)
  | forbidden (message : String)
  /-- A store does not answer. -/
  | database
  | internal (message : String)
deriving Repr

namespace Failure

def code : Failure → String
  | .validation _ => "VALIDATION_ERROR"
  | .badRequest _ => "BAD_REQUEST"
  | .notFound _ _ => "NOT_FOUND"
  | .conflict _ => "CONFLICT"
  | .unauthorized _ => "UNAUTHORIZED"
  | .forbidden _ => "FORBIDDEN"
  | .database => "DATABASE_ERROR"
  | .internal _ => "INTERNAL_ERROR"

def status : Failure → Nat
  | .validation _ | .badRequest _ => 400
  | .unauthorized _ => 401
  | .forbidden _ => 403
  | .notFound _ _ => 404
  | .conflict _ => 409
  | .database | .internal _ => 500

/-- The message for the inside; there is none that is fixed for a store that does
not answer. -/
def words? : Failure → Option String
  | .validation _ => some "Request validation failed"
  | .badRequest message | .conflict message | .unauthorized message | .forbidden message =>
      some message
  | .notFound resource id => some s!"{resource} with id {id} not found"
  | .database => none
  | .internal message => some s!"Internal error: {message}"

/-- The message that callers see. -/
def message : Failure → String
  | .internal _ => "An internal server error occurred"
  | failure => failure.words?.getD "A database error occurred"

/-- The faults of single fields, if these are the problem. -/
def details? : Failure → Option Document
  | .validation faults => some faults.toDocument
  | _ => none

end Failure

/-- What callers are told of a refused access. -/
def AccessFault.failure (fault : AccessFault) : Failure :=
  match fault with
  | .missingToken | .invalidToken | .expiredToken => .unauthorized fault.message
  | .foreignOrganization | .roleTooLow => .forbidden fault.message
  | .tokenGeneration reason => .internal reason

/-- What callers are told of a problem. -/
def Problem.failure : Problem → Failure
  | .invalidFields faults => .validation faults
  | .reversedBounds bounds => .badRequest bounds.message
  | .reversedRange => .badRequest "from must not be after to"
  | .unreadableDate refused => .badRequest refused.message
  | .stay refusal => .badRequest refusal.message
  | .unpriceable code => .badRequest s!"Rate plan '{code}': {Rule.overflowMessage}"
  | .channelTaken code =>
      .badRequest
        (s!"A public rate plan ('{code}') already serves one of these channels " ++
          "for this room type")
  | .transition forbidden => .badRequest forbidden.message
  | .notFound resource id => .notFound resource.name id
  | .codeTaken code => .conflict s!"Rate plan with code '{code}' already exists"
  | .planInUse =>
      .conflict "Rate plan is referenced by confirmed or checked-in reservations"
  | .access fault => fault.failure
  | .unreachable _ => .database
  | .roomCountOutOfRange rooms => .internal s!"Room count {rooms} out of range"

end Lodging
