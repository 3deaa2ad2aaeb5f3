import Lodging.Http.Address
import Lodging.Http.Message

/-! # Routes

What a path and a method ask for. A fixed segment wins over one that stands for
an id, so a plan cannot be reached under the name of a fixed segment.
-/

namespace Lodging.Http

/-- A place below a hotel; ids and dates are as the path gives them. -/
inductive Place where
  | plans
  | calculation
  | applicablePlans
  | plan (id : String)
  | overrides (plan : String)
  | bulkOverrides (plan : String)
  | override (plan date : String)
  | inventory (roomType : String)
  | bulkInventory (roomType : String)
  | availability (roomType : String)
  | reservationStatus (reservation : String)
deriving DecidableEq, Repr

/-- What a request asks for below a hotel. -/
inductive Action where
  | createPlan
  | listPlans
  | calculate
  | listApplicable
  | getPlan (plan : String)
  | updatePlan (plan : String)
  | deletePlan (plan : String)
  | getOverrides (plan : String)
  | putOverride (plan : String)
  | putOverrides (plan : String)
  | deleteOverride (plan date : String)
  | getInventory (roomType : String)
  | putInventory (roomType : String)
  | putInventories (roomType : String)
  | checkAvailability (roomType : String)
  | setStatus (reservation : String)
deriving DecidableEq, Repr

/-- The place of segments. The last segment is never empty; one in front of
others may be, although no id is. -/
def Place.ofSegments? : List String → Option Place
  | ["rate-plans"] => some .plans
  | ["rate-plans", "calculate"] => some .calculation
  | ["rate-plans", "applicable"] => some .applicablePlans
  | ["rate-plans", id] => if id.isEmpty then none else some (.plan id)
  | ["rate-plans", id, "overrides"] => some (.overrides id)
  | ["rate-plans", id, "overrides", "bulk"] => some (.bulkOverrides id)
  | ["rate-plans", id, "overrides", date] =>
      if date.isEmpty then none else some (.override id date)
  | ["room-types", id, "inventory"] => some (.inventory id)
  | ["room-types", id, "inventory", "bulk"] => some (.bulkInventory id)
  | ["room-types", id, "availability"] => some (.availability id)
  | ["reservations", id, "status"] => some (.reservationStatus id)
  | _ => none

/-- What a method asks for at a place. -/
def Place.action? : Place → Method → Option Action
  | .plans, .post => some .createPlan
  | .plans, .get => some .listPlans
  | .calculation, .post => some .calculate
  | .applicablePlans, .get => some .listApplicable
  | .plan id, .get => some (.getPlan id)
  | .plan id, .patch => some (.updatePlan id)
  | .plan id, .delete => some (.deletePlan id)
  | .overrides id, .get => some (.getOverrides id)
  | .overrides id, .put => some (.putOverride id)
  | .bulkOverrides id, .post => some (.putOverrides id)
  | .override id date, .delete => some (.deleteOverride id date)
  | .inventory id, .get => some (.getInventory id)
  | .inventory id, .put => some (.putInventory id)
  | .bulkInventory id, .post => some (.putInventories id)
  | .availability id, .get => some (.checkAvailability id)
  | .reservationStatus id, .patch => some (.setStatus id)
  | _, _ => none

/-- The action may change what is stored. -/
def Action.changes : Action → Bool
  | .createPlan | .updatePlan _ | .deletePlan _ | .putOverride _ | .putOverrides _
  | .deleteOverride _ _ | .putInventory _ | .putInventories _ | .setStatus _ => true
  | .listPlans | .calculate | .listApplicable | .getPlan _ | .getOverrides _
  | .getInventory _ | .checkAvailability _ => false

/-- Where a request leads. -/
inductive Route where
  | health
  | metrics
  /-- An action below a hotel of an organization. -/
  | hotel (organization hotel : String) (action : Action)
  /-- There is such a place, but not for this method. -/
  | wrongMethod
  /-- There is no such place. -/
  | unknown
deriving DecidableEq, Repr

/-- The method by which a request is routed: what may be read may also be asked
for without its body. -/
def Method.routed : Method → Method
  | .head => .get
  | method => method

/-- Where a method and the segments of a path lead. -/
def Route.ofSegments (method : Method) : List String → Route
  | ["health"] => if method.routed = .get then .health else .wrongMethod
  | ["metrics"] => if method.routed = .get then .metrics else .wrongMethod
  | "organizations" :: owner :: "hotels" :: house :: rest =>
      match Place.ofSegments? rest with
      | none => .unknown
      | some place =>
          match place.action? method.routed with
          | some action => .hotel owner house action
          | none => .wrongMethod
  | _ => .unknown

def Request.route (request : Request) : Route :=
  Route.ofSegments request.method (segments (pathOf request.address))

end Lodging.Http
