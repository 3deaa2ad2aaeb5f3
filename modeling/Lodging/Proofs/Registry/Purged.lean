import Lodging.Proofs.Registry.Step
import Lodging.Proofs.Rows
import Lodging.Proofs.Service.Parallel

/-! # Deleted plans make no difference

A deleted plan stays in its store, and every search has to leave it out. A call is
*blind* to deleted plans when stores that hold the same but for such plans give it the
same answer and hold the same but for such plans afterwards
(`Lodging.Service.IsBlind`). Calls are blind when their parts are, so what has to be
looked at are single searches and writes, and all calls are blind
(`Lodging.Call.isBlind`).
-/

namespace Lodging

namespace Stores

/-- The stores without the plans that have been deleted. -/
def purged (stores : Stores) : Stores :=
  { stores with plans := stores.plans.filter (·.isLive) }

/-! ## Searches for plans -/

variable (stores : Stores) (hotel id : Id)

/-- A plan that is found has not been deleted. -/
theorem plan?_purged : stores.purged.plan? hotel id = stores.plan? hotel id := by
  refine find?_filter_of_imp fun plan _ matched => ?_
  rw [Bool.and_eq_true] at matched
  exact (isLiveIn_iff.mp matched.2).2

/-- Neither has one that is found by its code. -/
theorem planByCode?_purged (code : String) :
    stores.purged.planByCode? hotel code = stores.planByCode? hotel code := by
  refine find?_filter_of_imp fun plan _ matched => ?_
  rw [Bool.and_eq_true] at matched
  exact (isLiveIn_iff.mp matched.2).2

/-- Deleted plans are not listed. -/
theorem plansOf_purged (roomType : Option Id) :
    stores.purged.plansOf hotel roomType = stores.plansOf hotel roomType := by
  refine congrArg (List.mergeSort · _) (filter_filter_of_imp fun plan _ matched => ?_)
  rw [Bool.and_eq_true] at matched
  exact (isLiveIn_iff.mp matched.1).2

/-- Deleted plans are not offered. -/
theorem applicablePlans_purged (roomType : Id) (checkIn : Date) (channel : Option String)
    (isPublic : Option Bool) :
    stores.purged.applicablePlans hotel roomType checkIn channel isPublic =
      stores.applicablePlans hotel roomType checkIn channel isPublic := by
  refine congrArg (List.mergeSort · _) (filter_filter_of_imp fun plan _ matched => ?_)
  simp only [RatePlan.isApplicable, Bool.and_eq_true] at matched
  exact matched.2.1.1.1.1.2

/-- Deleted plans are not open, and hold no channel. -/
theorem publicPlans_purged (roomType : Id) :
    stores.purged.publicPlans roomType = stores.publicPlans roomType := by
  refine filter_filter_of_imp fun plan _ matched => ?_
  rw [Bool.and_eq_true] at matched
  exact matched.2

/-! ## Writes -/

/-- What has been removed is not removed again. -/
theorem purged_purged : stores.purged.purged = stores.purged :=
  congrArg (fun plans => { stores with plans }) (filter_filter_of_imp fun _ _ live => live)

/-- Overrides are written past the deleted plans. -/
theorem writeOverrides_purged (plan : Id) (patches : List OverridePatch) (now : Instant) :
    stores.purged.writeOverrides plan patches now =
      (stores.writeOverrides plan patches now).purged := by
  induction patches generalizing stores with
  | nil => rfl
  | cons patch rest ih =>
      have step : (stores.purged.writeOverride plan patch now).2 =
          (stores.writeOverride plan patch now).2.purged := rfl
      rw [writeOverrides, List.foldl_cons, step]
      exact ih (stores.writeOverride plan patch now).2

/-- So is the ledger, and what is available is computed in the same rows. -/
theorem writeInventories_purged (roomType : Id) (patches : List InventoryPatch)
    (totalRooms : Int) (now : Instant) :
    stores.purged.writeInventories roomType patches totalRooms now =
      ((stores.writeInventories roomType patches totalRooms now).1,
        (stores.writeInventories roomType patches totalRooms now).2.purged) := by
  induction patches generalizing stores with
  | nil => rfl
  | cons patch rest ih =>
      have step : stores.purged.writeInventory roomType patch totalRooms now =
          ((stores.writeInventory roomType patch totalRooms now).1,
            (stores.writeInventory roomType patch totalRooms now).2.purged) := rfl
      rw [writeInventories, writeInventories, step]
      rcases stores.writeInventory roomType patch totalRooms now with ⟨_ | row, after⟩
      · rfl
      · exact ih after

/-- A plan is added next to the deleted ones. -/
theorem addPlan_purged (request : NewPlan) (now : Instant) :
    (stores.purged.addPlan hotel request now).2.purged =
      (stores.addPlan hotel request now).2.purged := by
  have kept : (stores.plans.filter (·.isLive)).filter (·.isLive) = stores.plans.filter (·.isLive) :=
    filter_filter_of_imp fun _ _ live => live
  simp only [purged, addPlan, List.filter_append, kept]

/-- A deleted plan is not changed. -/
theorem changePlan_purged (change : RatePlan → RatePlan) :
    (stores.purged.changePlan hotel id change).purged =
      (stores.changePlan hotel id change).purged := by
  refine congrArg (fun plans => { stores with plans }) (filter_map_filter (fun plan dead => ?_) _)
  rw [RatePlan.isLiveIn, dead, Bool.and_false, Bool.and_false]
  exact dead

end Stores

/-! ## Calls that do not see deleted plans -/

namespace Service

variable {α β : Type}

/-- The call does the same on stores that hold the same but for deleted plans. -/
def IsBlind (call : Service α) : Prop :=
  ∀ one other : Stores, one.purged = other.purged →
    Parallel (fun left right => left.purged = right.purged) id one other call

/-- A sequence of blind calls is blind. -/
theorem IsBlind.bind {first : Service α} {next : α → Service β} (before : IsBlind first)
    (rest : ∀ value, IsBlind (next value)) : IsBlind (first >>= next) :=
  fun one other same => (before one other same).bind (fun _ _ between => between)
    fun value _ left right between => rest value left right between

/-- A choice between blind calls is blind. -/
theorem IsBlind.ite {condition : Prop} [Decidable condition] {one other : Service α}
    (left : IsBlind one) (right : IsBlind other) :
    IsBlind (if condition then one else other) := by
  split
  · exact left
  · exact right

/-- What follows a check that is made under a condition only stands in both branches. -/
theorem IsBlind.checked {condition : Prop} [Decidable condition] {check : Service PUnit}
    {rest : Service α} (blind : IsBlind check) (after : IsBlind rest) :
    IsBlind (if condition then check >>= fun _ => rest else rest) :=
  .ite (blind.bind fun _ => after) after

/-- A call that looks at no store is blind. -/
theorem isBlind_of_steady {call : Service α}
    (steady : ∀ one other : Stores, Steady one other call) : IsBlind call :=
  fun one other same => (steady one other).parallel same

/-- A search is blind when deleted plans make no difference to it. -/
theorem isBlind_consult (store : StoreName) {ask : Stores → α}
    (blind : ∀ stores : Stores, ask stores.purged = ask stores) : IsBlind (consult store ask) :=
  fun one other same => (steady_consult store (by rw [← blind one, same, blind])).parallel same

/-- A write is blind when deleted plans make no difference to its answer and to what it
leaves. -/
theorem isBlind_write (store : StoreName) {change : Stores → α × Stores}
    (answer : ∀ stores : Stores, (change stores.purged).1 = (change stores).1)
    (left : ∀ stores : Stores, (change stores.purged).2.purged = (change stores).2.purged) :
    IsBlind (write store change) := by
  refine fun one other same => parallel_write store same ⟨?_, ?_⟩
  · rw [← answer one, same, answer]
    rfl
  · rw [← left one, same, left]

/-- An answer alone looks at no plan. -/
theorem isBlind_pure (value : α) : IsBlind (pure value) :=
  isBlind_of_steady fun _ _ => steady_pure value

/-- A refusal alone looks at no plan. -/
theorem isBlind_fail (problem : Problem) : IsBlind (fail problem : Service α) :=
  isBlind_of_steady fun _ _ => steady_fail problem

/-- Computing looks at no plan. -/
theorem isBlind_computed (value : Option α) : IsBlind (computed value) :=
  isBlind_of_steady fun _ _ => steady_computed value

/-- Checks are blind. -/
theorem isBlind_refuse (problem : Option Problem) : IsBlind (refuse problem) :=
  isBlind_of_steady fun _ _ => steady_refuse problem

/-- Checks of fields are blind. -/
theorem isBlind_refuseFaults (faults : FieldFaults) : IsBlind (refuseFaults faults) :=
  isBlind_of_steady fun _ _ => steady_refuseFaults faults

/-- Taking what was looked up is blind. -/
theorem isBlind_require (problem : Problem) (found : Option α) :
    IsBlind (require problem found) :=
  isBlind_of_steady fun _ _ => steady_require problem found

/-- The time is the same for both stores. -/
theorem isBlind_now : IsBlind now :=
  isBlind_of_steady fun _ _ => steady_now

/-- Taking the value of a check is blind. -/
theorem isBlind_accept {ε : Type} (problem : ε → Problem) (checked : Except ε α) :
    IsBlind (accept problem checked) :=
  isBlind_of_steady fun _ _ => steady_accept problem checked

/-- Counting a call is blind. -/
theorem isBlind_count (operation : Operation) : IsBlind (count operation) :=
  isBlind_of_steady fun _ _ => steady_count operation

/-- Counting the nights of a stay is blind. -/
theorem isBlind_nightsOf (stay : Stay) : IsBlind (nightsOf stay) :=
  isBlind_of_steady fun _ _ => steady_nightsOf stay

/-- Looking a room type up is blind. -/
theorem isBlind_roomType (hotel id : Id) : IsBlind (roomType hotel id) :=
  (isBlind_consult _ fun _ => rfl).bind fun _ => isBlind_require _ _

/-- A blind check of each value is blind. -/
theorem isBlind_forM {part : α → Service PUnit} (parts : ∀ value, IsBlind (part value))
    (values : List α) : IsBlind (values.forM part) := by
  induction values with
  | nil => exact isBlind_pure _
  | cons value rest ih => exact (parts value).bind fun _ => ih

/-- So is a blind call for each value whose answers are collected. -/
theorem isBlind_filterMapM {part : α → Service (Option β)}
    (parts : ∀ value, IsBlind (part value)) (values : List α) :
    IsBlind (values.filterMapM part) := by
  induction values with
  | nil => exact isBlind_pure []
  | cons value rest ih =>
      rw [List.filterMapM_cons]
      refine (parts value).bind fun found => ?_
      cases found with
      | none => exact ih
      | some found => exact ih.bind fun _ => isBlind_pure _

end Service

open Service

namespace RatePlans

/-- Only live plans are read. -/
theorem isBlind_get (hotel id : Id) : IsBlind (get hotel id) :=
  (isBlind_consult _ fun stores => stores.plan?_purged hotel id).bind fun _ => isBlind_require _ _

/-- Only live plans are listed. -/
theorem isBlind_list (hotel : Id) (roomType : Option Id) : IsBlind (list hotel roomType) :=
  isBlind_consult _ fun stores => stores.plansOf_purged hotel roomType

/-- Only live plans are offered. -/
theorem isBlind_applicable (hotel : Id) (request : ApplicableRequest) :
    IsBlind (applicable hotel request) :=
  isBlind_consult _ fun stores => stores.applicablePlans_purged hotel _ _ _ _

/-- A deleted plan has given its channels back. -/
theorem isBlind_checkChannels (roomType : Id) (self : Option Id) (terms : PlanTerms) :
    IsBlind (checkChannels roomType self terms) := by
  refine .ite (.bind (isBlind_consult _ fun stores => stores.publicPlans_purged roomType)
    fun others => ?_) (isBlind_pure ())
  split
  · exact isBlind_fail _
  · exact isBlind_pure ()

/-- A deleted plan has given its code back. -/
theorem isBlind_checkCode (hotel id : Id) (before after : String) :
    IsBlind (checkCode hotel id before after) := by
  refine .ite (.bind (isBlind_consult _ fun stores => stores.planByCode?_purged hotel after)
    fun found => ?_) (isBlind_pure ())
  split
  · exact .ite (isBlind_fail _) (isBlind_pure ())
  · exact isBlind_pure ()

/-- Deleted plans are in the way of no new one. -/
theorem isBlind_create (hotel : Id) (request : NewPlan) : IsBlind (create hotel request) := by
  refine (isBlind_refuseFaults _).bind fun _ => (isBlind_refuse _).bind fun _ =>
    (isBlind_roomType _ _).bind fun _ =>
      (isBlind_consult _ fun stores => stores.planByCode?_purged hotel _).bind fun _ =>
        .checked (isBlind_fail _) ?_
  exact (isBlind_checkChannels _ _ _).bind fun _ => isBlind_now.bind fun now =>
    isBlind_write _ (fun _ => rfl) fun stores => stores.addPlan_purged hotel request now

/-- Deleted plans are in the way of no revision, and none of them is revised. -/
theorem isBlind_update (hotel id : Id) (patch : PlanPatch) : IsBlind (update hotel id patch) := by
  refine (isBlind_refuseFaults _).bind fun _ => (isBlind_get _ _).bind fun plan =>
    (isBlind_refuse _).bind fun _ => (isBlind_checkCode _ _ _ _).bind fun _ =>
      .checked (isBlind_checkChannels _ _ _) ?_
  exact isBlind_now.bind fun now =>
    isBlind_write _ (fun _ => rfl) fun stores => stores.changePlan_purged hotel id _

/-- A plan is deleted once. -/
theorem isBlind_delete (hotel id : Id) : IsBlind (delete hotel id) := by
  refine (isBlind_get _ _).bind fun _ => (isBlind_consult _ fun _ => rfl).bind fun _ =>
    .checked (isBlind_fail _) ?_
  exact isBlind_now.bind fun now =>
    isBlind_write _ (fun _ => rfl) fun stores => stores.changePlan_purged hotel id _

end RatePlans

namespace Overrides

/-- Overrides are read for live plans only. -/
theorem isBlind_inRange (hotel plan : Id) (first last : Date) :
    IsBlind (inRange hotel plan first last) :=
  (isBlind_refuse _).bind fun _ => (RatePlans.isBlind_get _ _).bind fun _ =>
    isBlind_consult _ fun _ => rfl

/-- An override is written for live plans only. -/
theorem isBlind_put (hotel plan : Id) (patch : OverridePatch) :
    IsBlind (put hotel plan patch) :=
  (isBlind_refuseFaults _).bind fun _ => (RatePlans.isBlind_get _ _).bind fun _ =>
    isBlind_now.bind fun now => isBlind_write _ (fun _ => rfl) fun stores =>
      (stores.writeOverride plan patch now).2.purged_purged

/-- So are several. -/
theorem isBlind_putAll (hotel plan : Id) (patches : List OverridePatch) :
    IsBlind (putAll hotel plan patches) := by
  refine (isBlind_refuseFaults _).bind fun _ =>
    (isBlind_forM (fun _ => isBlind_refuseFaults _) _).bind fun _ =>
      (RatePlans.isBlind_get _ _).bind fun _ => isBlind_now.bind fun now =>
        isBlind_write _ (fun _ => rfl) fun stores => ?_
  dsimp only
  rw [Stores.writeOverrides_purged, Stores.purged_purged]

/-- An override is removed for live plans only. -/
theorem isBlind_delete (hotel plan : Id) (date : Date) : IsBlind (delete hotel plan date) :=
  (RatePlans.isBlind_get _ _).bind fun _ =>
    (isBlind_write _ (fun _ => rfl) fun stores =>
      (stores.deleteOverride plan date).purged_purged).bind fun _ =>
        .ite (isBlind_fail _) (isBlind_pure ())

end Overrides

namespace Inventory

/-- The ledger is read without a look at plans. -/
theorem isBlind_inRange (hotel roomType : Id) (first last : Date) :
    IsBlind (inRange hotel roomType first last) :=
  (isBlind_refuse _).bind fun _ => (isBlind_roomType _ _).bind fun _ =>
    isBlind_consult _ fun _ => rfl

/-- A write is checked without a look at plans. -/
theorem isBlind_checkPatch (patch : InventoryPatch) : IsBlind (checkPatch patch) :=
  (isBlind_refuseFaults _).bind fun _ => isBlind_refuse _

/-- Rooms are counted without a look at plans. -/
theorem isBlind_sellableRooms (roomType : Id) : IsBlind (sellableRooms roomType) :=
  (isBlind_consult _ fun _ => rfl).bind fun _ => .ite (isBlind_pure _) (isBlind_fail _)

/-- A row is written without a look at plans. -/
theorem isBlind_put (hotel roomType : Id) (patch : InventoryPatch) :
    IsBlind (put hotel roomType patch) :=
  (isBlind_checkPatch _).bind fun _ => (isBlind_roomType _ _).bind fun _ =>
    (isBlind_consult _ fun _ => rfl).bind fun _ => (isBlind_refuse _).bind fun _ =>
      (isBlind_sellableRooms _).bind fun rooms => isBlind_now.bind fun now =>
        (isBlind_write _ (fun _ => rfl) fun stores =>
          (stores.writeInventory roomType patch rooms now).2.purged_purged).bind isBlind_computed

/-- So are several rows. -/
theorem isBlind_putAll (hotel roomType : Id) (patches : List InventoryPatch) :
    IsBlind (putAll hotel roomType patches) := by
  refine (isBlind_refuseFaults _).bind fun _ => (isBlind_forM isBlind_checkPatch _).bind fun _ =>
    (isBlind_roomType _ _).bind fun _ => (isBlind_consult _ fun _ => rfl).bind fun _ =>
      (isBlind_refuse _).bind fun _ => (isBlind_sellableRooms _).bind fun rooms =>
        isBlind_now.bind fun now => ?_
  have written : IsBlind (write .inventory (·.writeInventories roomType patches rooms now)) := by
    refine isBlind_write _ (fun stores => ?_) fun stores => ?_
    · rw [Stores.writeInventories_purged]
    · rw [Stores.writeInventories_purged, Stores.purged_purged]
  exact written.bind fun made => (isBlind_computed made).bind fun _ => isBlind_pure _

end Inventory

namespace Availability

/-- What a stay can have is counted without a look at plans. -/
theorem isBlind_check (hotel roomType : Id) (stay : Stay) : IsBlind (check hotel roomType stay) :=
  (isBlind_count _).bind fun _ => (isBlind_roomType _ _).bind fun _ =>
    (isBlind_nightsOf _).bind fun _ => (isBlind_consult _ fun _ => rfl).bind fun _ =>
      (isBlind_consult _ fun _ => rfl).bind fun _ => (isBlind_consult _ fun _ => rfl).bind fun _ =>
        isBlind_pure _

end Availability

namespace Quote

/-- A single plan is priced without a look at the others. -/
theorem isBlind_offer? (plan : RatePlan) (stay : Stay) (booking : Booking) :
    IsBlind (offer? plan stay booking) := by
  refine .ite (.bind (isBlind_consult _ fun _ => rfl) fun overrides => ?_) (isBlind_pure none)
  -- The tax rate is one of the circumstances, which are the same for both.
  refine .bind (isBlind_of_steady fun _ _ _ _ _ atOne atOther => ⟨rfl, atOne, atOther⟩)
    fun circumstance => ?_
  exact (isBlind_require _ _).bind fun offer => isBlind_pure (some offer)

/-- Only live plans are priced. -/
theorem isBlind_calculate (hotel : Id) (request : QuoteRequest) :
    IsBlind (calculate hotel request) :=
  (isBlind_count _).bind fun _ => (isBlind_roomType _ _).bind fun roomType =>
    (isBlind_nightsOf _).bind fun _ =>
      (isBlind_consult _ fun stores => stores.applicablePlans_purged hotel roomType.id _ _ _).bind
        fun _ => isBlind_now.bind fun _ =>
          (isBlind_filterMapM (fun plan => isBlind_offer? plan _ _) _).bind fun _ => isBlind_pure _

end Quote

namespace Reservations

/-- A reservation is read without a look at its plan. -/
theorem isBlind_get (hotel id : Id) : IsBlind (get hotel id) :=
  (isBlind_consult _ fun _ => rfl).bind fun _ => isBlind_require _ _

/-- Its status is set without a look at its plan. -/
theorem isBlind_setStatus (hotel id : Id) (status : ReservationStatus) :
    IsBlind (setStatus hotel id status) := by
  refine (isBlind_get _ _).bind fun reservation => (isBlind_accept _ _).bind fun status =>
    .ite (isBlind_pure _) (isBlind_now.bind fun now => ?_)
  exact isBlind_write _ (fun _ => rfl) fun stores =>
    (stores.changeReservation hotel id _).purged_purged

end Reservations

/-! ## All calls -/

/-- **Deleted plans make no difference.** Every call gives the same answer where deleted plans
are as where they are not, and leaves the same but for deleted plans. -/
theorem Call.isBlind (call : Call) : IsBlind call.perform := by
  cases call with
  | createPlan hotel request => exact RatePlans.isBlind_create hotel request
  | updatePlan hotel plan patch => exact RatePlans.isBlind_update hotel plan patch
  | deletePlan hotel plan => exact RatePlans.isBlind_delete hotel plan
  | getPlan hotel plan => exact RatePlans.isBlind_get hotel plan
  | listPlans hotel roomType => exact RatePlans.isBlind_list hotel roomType
  | applicablePlans hotel request =>
      exact RatePlans.isBlind_applicable hotel request
  | putOverride hotel plan patch => exact Overrides.isBlind_put hotel plan patch
  | putOverrides hotel plan patches => exact Overrides.isBlind_putAll hotel plan patches
  | deleteOverride hotel plan date => exact Overrides.isBlind_delete hotel plan date
  | getOverrides hotel plan first last => exact Overrides.isBlind_inRange hotel plan first last
  | putInventory hotel roomType patch => exact Inventory.isBlind_put hotel roomType patch
  | putInventories hotel roomType patches =>
      exact Inventory.isBlind_putAll hotel roomType patches
  | getInventory hotel roomType first last =>
      exact Inventory.isBlind_inRange hotel roomType first last
  | checkAvailability hotel roomType stay => exact Availability.isBlind_check hotel roomType stay
  | calculate hotel request => exact Quote.isBlind_calculate hotel request
  | getReservation hotel reservation => exact Reservations.isBlind_get hotel reservation
  | setStatus hotel reservation status =>
      exact Reservations.isBlind_setStatus hotel reservation status

/-- The answer is the one that is given where deleted plans have been removed. -/
theorem Call.answer_purged (call : Call) (circumstance : Circumstance) (backend : Backend) :
    (run call.perform circumstance { backend with stores := backend.stores.purged }).1 =
      (run call.perform circumstance backend).1 := by
  have same := call.isBlind backend.stores backend.stores.purged backend.stores.purged_purged.symm
  have answers := (same circumstance backend { backend with stores := _ } rfl rfl).1
  rwa [Except.map_id] at answers

end Lodging
