import Lodging.Proofs.Service.History

/-! # Calls are made as a whole or not at all

Every call asks and checks first and writes last, so one that is refused leaves the
stores as they were (`Lodging.Call.isTraceless`). Only the removal of an override
writes before it fails: it fails when there was nothing to remove, and then the
stores are what they were. Only writes to the ledger break off, and what they have
written by then stays; all other calls are made as a whole or not at all
(`Lodging.Call.isAtomic`). Calls that do not change anything are queries
(`Lodging.Call.isQuery`).
-/

namespace Lodging

/-- The call may change what is stored. -/
def Call.changes : Call → Bool
  | createPlan .. | updatePlan .. | deletePlan .. | putOverride .. | putOverrides ..
  | deleteOverride .. | putInventory .. | putInventories .. | setStatus .. => true
  | getPlan .. | listPlans .. | applicablePlans .. | getOverrides .. | getInventory ..
  | checkAvailability .. | calculate .. | getReservation .. => false

/-! ## The registry -/

namespace RatePlans

open Service

/-- A plan is made by the last thing that its making does. -/
theorem isAtomic_create (hotel : Id) (request : NewPlan) : IsAtomic (create hotel request) := by
  refine (isQuery_refuseFaults _).bind_atomic fun _ => (isQuery_checkBounds _).bind_atomic fun _ =>
    (isQuery_roomType _ _).bind_atomic fun _ => (isQuery_consult _ _).bind_atomic fun taken => ?_
  have rest : IsAtomic (do
      checkChannels request.roomType none request.terms
      let now ← now
      write .ratePlans fun stores => stores.addPlan hotel request now) :=
    (isQuery_checkChannels _ _ _).bind_atomic fun _ => isQuery_now.bind_atomic fun _ =>
      isAtomic_write _ _
  exact .ite ((isQuery_fail _).bind_atomic fun _ => rest) rest

/-- A plan is revised after all checks, whether its channels have to be checked or not. -/
theorem isAtomic_update (hotel id : Id) (patch : PlanPatch) :
    IsAtomic (update hotel id patch) := by
  refine (isQuery_refuseFaults _).bind_atomic fun _ => (isQuery_get _ _).bind_atomic fun plan =>
    (isQuery_checkBounds _).bind_atomic fun _ => (isQuery_checkCode _ _ _ _).bind_atomic
      fun _ => .ite ((isQuery_checkChannels _ _ _).bind_atomic fun _ => ?_) ?_
  · exact isQuery_now.bind_atomic fun _ => isAtomic_write _ _
  · exact isQuery_now.bind_atomic fun _ => isAtomic_write _ _

/-- A plan is deleted after it is known to be unused. -/
theorem isAtomic_delete (hotel id : Id) : IsAtomic (delete hotel id) := by
  refine (isQuery_get _ _).bind_atomic fun _ => (isQuery_consult _ _).bind_atomic fun used =>
    .ite ((isQuery_fail _).bind_atomic fun _ => ?_) ?_
  · exact isQuery_now.bind_atomic fun _ => isAtomic_write _ _
  · exact isQuery_now.bind_atomic fun _ => isAtomic_write _ _

end RatePlans

/-! ## Overrides -/

/-- Where there is no override to remove, removing it changes nothing. -/
theorem Stores.deleteOverride_of_none {stores : Stores} {plan : Id} {date : Date}
    (missing : stores.override? plan date = none) : stores.deleteOverride plan date = stores := by
  have kept : (stores.overrides.filter fun row => !(row.plan == plan && row.date == date)) =
      stores.overrides := by
    refine List.filter_eq_self.mpr fun row member => ?_
    rw [Bool.not_eq_true']
    exact Bool.eq_false_iff.mpr (List.find?_eq_none.mp missing row member)
  rw [Stores.deleteOverride, kept]

namespace Overrides

open Service

/-- Reading a range of overrides is a query. -/
theorem isQuery_inRange (hotel plan : Id) (first last : Date) :
    IsQuery (inRange hotel plan first last) :=
  (isQuery_checkRange first last).bind fun _ => (RatePlans.isQuery_get hotel plan).bind fun _ =>
    isQuery_consult _ _

/-- An override is written after its plan has been found. -/
theorem isAtomic_put (hotel plan : Id) (patch : OverridePatch) :
    IsAtomic (put hotel plan patch) :=
  (isQuery_refuseFaults _).bind_atomic fun _ => (RatePlans.isQuery_get hotel plan).bind_atomic
    fun _ => isQuery_now.bind_atomic fun _ => isAtomic_write _ _

/-- Several overrides are written at once, after all of them have been checked. -/
theorem isAtomic_putAll (hotel plan : Id) (patches : List OverridePatch) :
    IsAtomic (putAll hotel plan patches) :=
  (isQuery_refuseFaults _).bind_atomic fun _ =>
    (isQuery_forM (fun _ => isQuery_refuseFaults _) _).bind_atomic fun _ =>
      (RatePlans.isQuery_get hotel plan).bind_atomic fun _ => isQuery_now.bind_atomic fun _ =>
        isAtomic_write _ _

/-- A removal that fails after its write has found nothing to remove. -/
theorem isAtomic_delete (hotel plan : Id) (date : Date) : IsAtomic (delete hotel plan date) := by
  refine (RatePlans.isQuery_get hotel plan).bind_atomic fun _ => ⟨?_, ?_⟩
  · intro circumstance backend broken
    rcases run_bind_error broken with ⟨stopped, _⟩ | ⟨removed, _, on⟩
    · exact (isAtomic_write _ _).settles circumstance backend stopped
    · rw [on] at broken
      exact (IsQuery.ite (isQuery_fail _) (isQuery_pure ())).settles _ _ broken
  · intro circumstance backend stop failed
    rw [run_bind, run_write] at failed ⊢
    by_cases reached : circumstance.reachable .overrides = true
    · simp only [reached, ↓reduceIte] at failed ⊢
      cases removed : backend.stores.override? plan date with
      | none =>
          -- What the failing call has written is what was there.
          rw [Stores.deleteOverride_of_none removed]
          rfl
      | some row =>
          rw [removed] at failed
          exact nomatch failed
    · simp only [reached, Bool.false_eq_true, ↓reduceIte]

end Overrides

/-! ## The ledger and the reservations -/

namespace Inventory

open Service

/-- Reading a range of the ledger is a query. -/
theorem isQuery_inRange (hotel roomType : Id) (first last : Date) :
    IsQuery (inRange hotel roomType first last) :=
  (Overrides.isQuery_checkRange first last).bind fun _ => (isQuery_roomType _ _).bind fun _ =>
    isQuery_consult _ _

/-- A row is written after all checks; nothing refuses what is available in it. -/
theorem isTraceless_put (hotel roomType : Id) (patch : InventoryPatch) :
    IsTraceless (put hotel roomType patch) :=
  (isQuery_checkPatch _).bind_traceless fun _ => (isQuery_roomType _ _).bind_traceless fun _ =>
    (isQuery_consult _ _).bind_traceless fun _ => (isQuery_refuse _).bind_traceless fun _ =>
      (isQuery_sellableRooms _).bind_traceless fun _ => isQuery_now.bind_traceless fun _ =>
        (isAtomic_write _ _).isTraceless.bind_committed isCommitted_computed

/-- Several rows are written after all checks of all of them. -/
theorem isTraceless_putAll (hotel roomType : Id) (patches : List InventoryPatch) :
    IsTraceless (putAll hotel roomType patches) :=
  (isQuery_refuseFaults _).bind_traceless fun _ =>
    (isQuery_forM isQuery_checkPatch _).bind_traceless fun _ =>
      (isQuery_roomType _ _).bind_traceless fun _ => (isQuery_consult _ _).bind_traceless fun _ =>
        (isQuery_refuse _).bind_traceless fun _ => (isQuery_sellableRooms _).bind_traceless
          fun _ => isQuery_now.bind_traceless fun _ =>
            (isAtomic_write _ _).isTraceless.bind_committed fun made =>
              (isCommitted_computed made).bind fun _ => isCommitted_pure _

end Inventory

namespace Availability

open Service

/-- Checking a stay is a query. -/
theorem isQuery_check (hotel roomType : Id) (stay : Stay) :
    IsQuery (check hotel roomType stay) :=
  (isQuery_count _).bind fun _ => (isQuery_roomType _ _).bind fun _ =>
    (isQuery_nightsOf _).bind fun _ => (isQuery_consult _ _).bind fun _ =>
      (isQuery_consult _ _).bind fun _ => (isQuery_consult _ _).bind fun _ => isQuery_pure _

end Availability

namespace Reservations

open Service

/-- A status is set after it is known to be allowed, unless it is the same. -/
theorem isAtomic_setStatus (hotel id : Id) (status : ReservationStatus) :
    IsAtomic (setStatus hotel id status) :=
  (isQuery_get _ _).bind_atomic fun _ => (isQuery_accept _ _).bind_atomic fun _ =>
    .ite (isQuery_pure _).isAtomic (isQuery_now.bind_atomic fun _ => isAtomic_write _ _)

end Reservations

/-! ## All calls -/

namespace Call

open Service

/-- A call that does not change anything only asks. -/
theorem isQuery (call : Call) (asks : call.changes = false) : IsQuery call.perform := by
  cases call with
  | getPlan hotel plan => exact RatePlans.isQuery_get hotel plan
  | listPlans hotel roomType => exact RatePlans.isQuery_list hotel roomType
  | applicablePlans hotel request => exact RatePlans.isQuery_applicable hotel request
  | getOverrides hotel plan first last => exact Overrides.isQuery_inRange hotel plan first last
  | getInventory hotel roomType first last =>
      exact Inventory.isQuery_inRange hotel roomType first last
  | checkAvailability hotel roomType stay => exact Availability.isQuery_check hotel roomType stay
  | calculate hotel request => exact Quote.isQuery_calculate hotel request
  | getReservation hotel reservation => exact Reservations.isQuery_get hotel reservation
  | _ => exact nomatch asks

/-- A call that writes nothing to the ledger is made as a whole or not at all. -/
theorem isAtomic (call : Call) (unwritten : call.inventoryWrites? = none) :
    IsAtomic call.perform := by
  cases changing : call.changes with
  | false => exact (call.isQuery changing).isAtomic
  | true =>
      cases call with
      | createPlan hotel request => exact RatePlans.isAtomic_create hotel request
      | updatePlan hotel plan patch => exact RatePlans.isAtomic_update hotel plan patch
      | deletePlan hotel plan => exact RatePlans.isAtomic_delete hotel plan
      | putOverride hotel plan patch => exact Overrides.isAtomic_put hotel plan patch
      | putOverrides hotel plan patches => exact Overrides.isAtomic_putAll hotel plan patches
      | deleteOverride hotel plan date => exact Overrides.isAtomic_delete hotel plan date
      | putInventory => exact nomatch unwritten
      | putInventories => exact nomatch unwritten
      | setStatus hotel reservation status =>
          exact Reservations.isAtomic_setStatus hotel reservation status
      | _ => exact nomatch changing

/-- Every call leaves the stores as they were when it is refused. -/
theorem isTraceless (call : Call) : IsTraceless call.perform := by
  cases asked : call.inventoryWrites? with
  | none => exact (call.isAtomic asked).isTraceless
  | some writes =>
      cases call with
      | putInventory hotel roomType patch => exact Inventory.isTraceless_put hotel roomType patch
      | putInventories hotel roomType patches =>
          exact Inventory.isTraceless_putAll hotel roomType patches
      | _ => exact nomatch asked

end Call

end Lodging
