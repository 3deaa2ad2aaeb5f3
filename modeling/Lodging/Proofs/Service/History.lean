import Lodging.Proofs.Service.Outcome

/-! # Histories of calls

A history is any sequence of calls to the services, made one after another by
whoever may make them. A call may be accepted, be refused or break off, and every one
has its own circumstance: the time, the stores that answer, the tax rate and the
longest stay. What every call of a history keeps is kept by the history
(`Lodging.History.invariant`).
-/

namespace Lodging

/-- What the services can be asked for. -/
inductive Call where
  | createPlan (hotel : Id) (request : NewPlan)
  | updatePlan (hotel plan : Id) (patch : PlanPatch)
  | deletePlan (hotel plan : Id)
  | getPlan (hotel plan : Id)
  | listPlans (hotel : Id) (roomType : Option Id)
  | applicablePlans (hotel : Id) (request : ApplicableRequest)
  | putOverride (hotel plan : Id) (patch : OverridePatch)
  | putOverrides (hotel plan : Id) (patches : List OverridePatch)
  | deleteOverride (hotel plan : Id) (date : Date)
  | getOverrides (hotel plan : Id) (first last : Date)
  | putInventory (hotel roomType : Id) (patch : InventoryPatch)
  | putInventories (hotel roomType : Id) (patches : List InventoryPatch)
  | getInventory (hotel roomType : Id) (first last : Date)
  | checkAvailability (hotel roomType : Id) (stay : Stay)
  | calculate (hotel : Id) (request : QuoteRequest)
  | getReservation (hotel reservation : Id)
  | setStatus (hotel reservation : Id) (status : ReservationStatus)

namespace Call

/-- The hotel below which a call is made. -/
def hotel : Call → Id
  | createPlan hotel _ | updatePlan hotel _ _ | deletePlan hotel _ | getPlan hotel _
  | listPlans hotel _ | applicablePlans hotel _ | putOverride hotel _ _ | putOverrides hotel _ _
  | deleteOverride hotel _ _ | getOverrides hotel _ _ _ | putInventory hotel _ _
  | putInventories hotel _ _ | getInventory hotel _ _ _ | checkAvailability hotel _ _
  | calculate hotel _ | getReservation hotel _ | setStatus hotel _ _ => hotel

/-- What a call gives when it is accepted. -/
@[reducible] def Answer : Call → Type
  | createPlan .. | updatePlan .. | getPlan .. => RatePlan
  | listPlans .. | applicablePlans .. => List RatePlan
  | putOverride .. => RateOverride
  | getOverrides .. => List RateOverride
  | putInventory .. => InventoryRow
  | getInventory .. => List InventoryRow
  | putOverrides .. | putInventories .. => Nat
  | deletePlan .. | deleteOverride .. => Unit
  | checkAvailability .. => Availability
  | calculate .. => Quote
  | getReservation .. | setStatus .. => Reservation

/-- What the service does that is asked. -/
def perform : (call : Call) → Service call.Answer
  | createPlan hotel request => RatePlans.create hotel request
  | updatePlan hotel plan patch => RatePlans.update hotel plan patch
  | deletePlan hotel plan => RatePlans.delete hotel plan
  | getPlan hotel plan => RatePlans.get hotel plan
  | listPlans hotel roomType => RatePlans.list hotel roomType
  | applicablePlans hotel request => RatePlans.applicable hotel request
  | putOverride hotel plan patch => Overrides.put hotel plan patch
  | putOverrides hotel plan patches => Overrides.putAll hotel plan patches
  | deleteOverride hotel plan date => Overrides.delete hotel plan date
  | getOverrides hotel plan first last => Overrides.inRange hotel plan first last
  | putInventory hotel roomType patch => Inventory.put hotel roomType patch
  | putInventories hotel roomType patches => Inventory.putAll hotel roomType patches
  | getInventory hotel roomType first last => Inventory.inRange hotel roomType first last
  | checkAvailability hotel roomType stay => Availability.check hotel roomType stay
  | calculate hotel request => Quote.calculate hotel request
  | getReservation hotel reservation => Reservations.get hotel reservation
  | setStatus hotel reservation status => Reservations.setStatus hotel reservation status

/-- The writes to the ledger that a call asks for, and the room type that they are for. -/
def inventoryWrites? : Call → Option (Id × List InventoryPatch)
  | putInventory _ roomType patch => some (roomType, [patch])
  | putInventories _ roomType patches => some (roomType, patches)
  | _ => none

end Call

/-- A call and the circumstance in which it is made. -/
structure Event where
  call : Call
  circumstance : Circumstance

/-- The backend after a call, whatever has become of it. -/
def Event.after (event : Event) (backend : Backend) : Backend :=
  (event.call.perform.run event.circumstance backend).2

/-- Calls in the order in which they are made. -/
abbrev History := List Event

namespace History

/-- The backend after the calls of a history. -/
def after (history : History) (backend : Backend) : Backend :=
  history.foldl (fun backend event => event.after backend) backend

/-- Calls that follow others are made on what those have left. -/
theorem after_append (earlier later : History) (backend : Backend) :
    after (earlier ++ later) backend = later.after (earlier.after backend) :=
  List.foldl_append

/-- **Invariants.** What each call of a history keeps is kept by all of them. -/
theorem invariant (property : Stores → Prop) (history : History)
    (step : ∀ event ∈ history, ∀ backend : Backend, property backend.stores →
      property (event.after backend).stores)
    (start : Backend) (initial : property start.stores) :
    property (history.after start).stores := by
  induction history generalizing start with
  | nil => exact initial
  | cons event rest ih =>
      apply ih
      · intro later member
        exact step later (List.mem_cons_of_mem event member)
      · exact step event List.mem_cons_self start initial

/-- Each call of a history has a property on what the earlier ones have left. -/
def Each (property : Event → Backend → Prop) : History → Backend → Prop
  | [], _ => True
  | event :: rest, backend => property event backend ∧ Each property rest (event.after backend)

/-- What is kept by each call that has a property is kept by a history of them. -/
theorem invariant_of_each {condition : Event → Backend → Prop} (property : Stores → Prop)
    (step : ∀ event backend, condition event backend → property backend.stores →
      property (event.after backend).stores)
    (history : History) {start : Backend} (each : history.Each condition start)
    (initial : property start.stores) : property (history.after start).stores := by
  induction history generalizing start with
  | nil => exact initial
  | cons event rest ih => exact ih each.2 (step event start each.1 initial)

end History

/-! ## The calls that only ask -/

namespace RatePlans

open Service

theorem isQuery_get (hotel id : Id) : IsQuery (get hotel id) :=
  (isQuery_consult _ _).bind fun _ => isQuery_require _ _

theorem isQuery_list (hotel : Id) (roomType : Option Id) : IsQuery (list hotel roomType) :=
  isQuery_consult _ _

theorem isQuery_applicable (hotel : Id) (request : ApplicableRequest) :
    IsQuery (applicable hotel request) :=
  isQuery_consult _ _

theorem isQuery_checkBounds (terms : PlanTerms) : IsQuery (checkBounds terms) :=
  isQuery_refuse _

theorem isQuery_checkChannels (roomType : Id) (self : Option Id) (terms : PlanTerms) :
    IsQuery (checkChannels roomType self terms) := by
  refine .ite (.bind (isQuery_consult _ _) fun others => ?_) (isQuery_pure ())
  split
  · exact isQuery_fail _
  · exact isQuery_pure ()

theorem isQuery_checkCode (hotel id : Id) (before after : String) :
    IsQuery (checkCode hotel id before after) := by
  refine .ite (.bind (isQuery_consult _ _) fun other => ?_) (isQuery_pure ())
  split
  · exact .ite (isQuery_fail _) (isQuery_pure ())
  · exact isQuery_pure ()

end RatePlans

namespace Overrides

open Service

theorem isQuery_checkRange (first last : Date) : IsQuery (checkRange first last) :=
  isQuery_refuse _

end Overrides

namespace Inventory

open Service

theorem isQuery_checkPatch (patch : InventoryPatch) : IsQuery (checkPatch patch) :=
  (isQuery_refuseFaults _).bind fun _ => isQuery_refuse _

theorem isQuery_sellableRooms (roomType : Id) : IsQuery (sellableRooms roomType) :=
  (isQuery_consult _ _).bind fun _ => .ite (isQuery_pure _) (isQuery_fail _)

end Inventory

namespace Quote

open Service

theorem isQuery_offer? (plan : RatePlan) (stay : Stay) (booking : Booking) :
    IsQuery (offer? plan stay booking) := by
  refine .ite (.bind (isQuery_consult _ _) fun overrides => ?_) (isQuery_pure none)
  refine isQuery_read.bind fun circumstance => ?_
  exact (isQuery_require _ _).bind fun offer => isQuery_pure (some offer)

theorem isQuery_calculate (hotel : Id) (request : QuoteRequest) :
    IsQuery (calculate hotel request) := by
  refine (isQuery_count _).bind fun _ => (isQuery_roomType _ _).bind fun _ =>
    (isQuery_nightsOf _).bind fun _ => (isQuery_consult _ _).bind fun _ =>
      isQuery_now.bind fun _ => ?_
  exact (isQuery_filterMapM (fun plan => isQuery_offer? plan _ _) _).bind fun _ => isQuery_pure _

end Quote

namespace Reservations

open Service

theorem isQuery_get (hotel id : Id) : IsQuery (get hotel id) :=
  (isQuery_consult _ _).bind fun _ => isQuery_require _ _

end Reservations

/-! ## A small house -/

namespace Sample

/-- The room type of the house. -/
def king : RoomType where
  id := ⟨2⟩
  hotel := ⟨1⟩
  code := "KING"
  name := "King"
  deletedAt := none
  rooms := 3

/-- The house, for which nothing has been planned. -/
def backend : Backend where
  stores := { Stores.empty with directory := { hotels := [], roomTypes := [king] } }
  metrics := default

/-- All stores answer. -/
def circumstance : Circumstance where
  now := default
  reachable := fun _ => true
  taxRate := ⟨1, 1, by decide, by decide⟩
  maxStayNights := 30

/-- A plan of the room type that leaves all else to defaults. -/
def request (code : String) (baseRate : Decimal) (channelCodes : List String) : NewPlan where
  roomType := ⟨2⟩
  code
  name := code
  description := none
  baseRate
  currency := none
  pricingType := none
  minStay := none
  maxStay := none
  minAdvanceDays := none
  maxAdvanceDays := none
  isRefundable := none
  cancellationPolicy := none
  isPublic := none
  channelCodes
  mealPlan := none
  amenities := []
  rules := []
  validFrom := none
  validUntil := none
  isActive := none

/-- The plan is asked for. -/
def making (code : String) (baseRate : Decimal) (channelCodes : List String) : Event where
  call := .createPlan ⟨1⟩ (request code baseRate channelCodes)
  circumstance := circumstance

/-- The house with a plan. -/
def housed : Backend := (making "BAR" .hundred []).after backend

/-- The id of that plan. -/
def bar : Id := backend.stores.supply.next

end Sample

end Lodging
