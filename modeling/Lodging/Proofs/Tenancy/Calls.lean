import Lodging.Proofs.Service.Parallel
import Lodging.Proofs.Tenancy.Paired
import Lodging.Service.Access

/-! # Calls below a hotel on twins

Every call below a hotel does the same on stores that hold the same of the hotel
(`Lodging.Call.parallel`). It asks for a plan or a room type of the hotel before it
makes a search that is not limited to hotels, so each of its answers is the same in
both, and what it writes at last is the same, up to the names of what is new.
-/

namespace Lodging

open Service

variable {one other : Stores} {hotel : Id}

namespace Service

/-- Twins find the same room type of the hotel, or both none. -/
theorem steady_roomType (twins : Stores.Twins hotel one other) (id : Id) :
    Steady one other (roomType hotel id) :=
  (steady_consult _ (twins.roomType? id)).bind fun _ _ => steady_require _ _

/-- A room type that is given has been found. -/
theorem roomType?_of_gives {id : Id} {found : RoomType}
    (given : Gives one (roomType hotel id) found) :
    one.directory.roomType? hotel id = some found := by
  obtain ⟨_, _, _, rfl, outcome⟩ := given
  exact (run_roomType_ok.mp outcome).2.1

/-- A room type that is found is one of the hotel. -/
theorem ownsRoomType_of_gives {id : Id} {found : RoomType}
    (given : Gives one (roomType hotel id) found) : one.ownsRoomType hotel id = true :=
  Stores.ownsRoomType_of_roomType? (Option.isSome_of_eq_some (roomType?_of_gives given))

end Service

/-! ## The gate -/

namespace Access

/-- Who may read of the hotel may on both stores. -/
theorem steady_read (twins : Stores.Twins hotel one other) (caller : Caller)
    (organization : Id) : Steady one other (Access.read caller organization hotel) := by
  refine (steady_accept _ _).bind fun _ _ => ?_
  refine (steady_consult _ (twins.hotelIn organization)).bind fun known _ => ?_
  exact .ite (steady_fail _) (steady_pure ())

/-- Who may change something of the hotel may on both stores. -/
theorem steady_change (twins : Stores.Twins hotel one other) (caller : Caller)
    (organization : Id) : Steady one other (Access.change caller organization hotel) :=
  (steady_read twins caller organization).bind fun _ _ => steady_accept _ _

end Access

/-! ## The registry -/

namespace RatePlans

/-- A plan of the hotel is read alike. -/
theorem steady_get (twins : Stores.Twins hotel one other) (id : Id) :
    Steady one other (get hotel id) :=
  (steady_consult _ (twins.plan? id)).bind fun _ _ => steady_require _ _

/-- A plan that is given has been found. -/
theorem plan?_of_gives {id : Id} {plan : RatePlan} (given : Gives one (get hotel id) plan) :
    one.plan? hotel id = some plan := by
  obtain ⟨_, _, _, rfl, outcome⟩ := given
  exact (run_get_ok.mp outcome).2.1

/-- A plan that is found is one of the hotel. -/
theorem ownsPlan_of_gives {id : Id} {plan : RatePlan} (given : Gives one (get hotel id) plan) :
    one.ownsPlan hotel id = true :=
  Stores.ownsPlan_of_plan? (Option.isSome_of_eq_some (plan?_of_gives given))

/-- The plans of the hotel are listed alike. -/
theorem steady_list (twins : Stores.Twins hotel one other) (roomType : Option Id) :
    Steady one other (list hotel roomType) :=
  steady_consult _ (twins.plansOf roomType)

/-- The plans of the hotel are offered alike. -/
theorem steady_applicable (twins : Stores.Twins hotel one other) (request : ApplicableRequest) :
    Steady one other (applicable hotel request) :=
  steady_consult _ (twins.applicablePlans _ _ _ _)

/-- Bounds are compared without a store. -/
theorem steady_checkBounds (terms : PlanTerms) : Steady one other (checkBounds terms) :=
  steady_refuse _

/-- The channels of a plan collide on both stores or on neither. -/
theorem steady_checkChannels (twins : Stores.Twins hotel one other) {roomType : Id}
    (owned : one.ownsRoomType hotel roomType = true) (self : Option Id) (terms : PlanTerms) :
    Steady one other (checkChannels roomType self terms) := by
  -- The search is for plans of all hotels, but only those of this one are for its room type.
  refine .ite ((steady_consult _ (twins.publicPlans owned)).bind fun others _ => ?_)
    (steady_pure ())
  split
  · exact steady_fail _
  · exact steady_pure ()

/-- The code of a plan is taken on both stores or on neither. -/
theorem steady_checkCode (twins : Stores.Twins hotel one other) (id : Id)
    (before after : String) : Steady one other (checkCode hotel id before after) := by
  refine .ite ((steady_consult _ (twins.planByCode? after)).bind fun found _ => ?_)
    (steady_pure ())
  split
  · exact .ite (steady_fail _) (steady_pure ())
  · exact steady_pure ()

/-- The plans that are made are the same but for their ids. -/
theorem parallel_create (twins : Stores.Twins hotel one other) (request : NewPlan) :
    Parallel (Stores.Paired (one.naming other) hotel) (·.renamed (one.naming other)) one other
      (create hotel request) := by
  have paired := twins.paired
  refine (steady_refuseFaults _).bind_parallel paired fun _ _ => ?_
  refine (steady_checkBounds _).bind_parallel paired fun _ _ => ?_
  refine (steady_roomType twins _).bind_parallel paired fun _ given => ?_
  refine (steady_consult _ (twins.planByCode? _)).bind_parallel paired fun taken _ => ?_
  have owned := ownsRoomType_of_gives given
  have housed := Stores.ownsRoomType_iff.mp owned
  have housedToo := Stores.ownsRoomType_iff.mp (twins.ownsRoomType_right owned)
  have rest : Parallel (Stores.Paired (one.naming other) hotel)
      (·.renamed (one.naming other)) one other (do
        checkChannels request.roomType none request.terms
        let now ← now
        write .ratePlans fun stores => stores.addPlan hotel request now) :=
    (steady_checkChannels twins owned _ _).bind_parallel paired fun _ _ =>
      steady_now.bind_parallel paired fun now _ =>
        parallel_write _ paired (paired.addPlan housed housedToo now)
  exact .ite ((steady_fail _).bind_parallel paired fun _ _ => rest) rest

/-- A plan of the hotel is revised alike. -/
theorem parallel_update (twins : Stores.Twins hotel one other) (plan : Id) (patch : PlanPatch) :
    Parallel (Stores.Paired (one.naming other) hotel) id one other (update hotel plan patch) := by
  have paired := twins.paired
  refine (steady_refuseFaults _).bind_parallel paired fun _ _ => ?_
  refine (steady_get twins plan).bind_parallel paired fun before given => ?_
  have found := plan?_of_gives given
  obtain ⟨member, live, _⟩ := Stores.of_plan? found
  have owned : one.ownsRoomType hotel before.roomType = true :=
    Stores.ownsRoomType_iff.mpr
      ((Stores.isLiveIn_iff.mp live).1 ▸ (twins.left.plans before member).2)
  refine (steady_checkBounds _).bind_parallel paired fun _ _ => ?_
  refine (steady_checkCode twins _ _ _).bind_parallel paired fun _ _ => ?_
  have rest : Parallel (Stores.Paired (one.naming other) hotel) id one other (do
      let now ← now
      write .ratePlans fun stores =>
        (before.revisedBy patch now,
          stores.changePlan hotel plan fun _ => before.revisedBy patch now)) :=
    steady_now.bind_parallel paired fun now _ => parallel_write _ paired
      ⟨rfl, (twins.revisePlan found patch now).paired⟩
  exact .ite ((steady_checkChannels twins owned _ _).bind_parallel paired fun _ _ => rest) rest

/-- A plan of the hotel is deleted from both stores or from neither. -/
theorem parallel_delete (twins : Stores.Twins hotel one other) (plan : Id) :
    Parallel (Stores.Paired (one.naming other) hotel) id one other (delete hotel plan) := by
  have paired := twins.paired
  refine (steady_get twins plan).bind_parallel paired fun found given => ?_
  -- Reservations of other hotels on the plan count as well, and they are part of the slice.
  have used := twins.planInUse (ownsPlan_of_gives given)
  refine (steady_consult _ used).bind_parallel paired fun used _ => ?_
  have rest : Parallel (Stores.Paired (one.naming other) hotel) id one other (do
      let now ← now
      write .ratePlans fun stores => ((), stores.deletePlan hotel plan now)) :=
    steady_now.bind_parallel paired fun now _ => parallel_write _ paired
      ⟨rfl, (twins.deletePlan plan now).paired⟩
  exact .ite ((steady_fail _).bind_parallel paired fun _ _ => rest) rest

end RatePlans

/-! ## Overrides -/

namespace Overrides

/-- A range of overrides of the hotel is read alike. -/
theorem steady_inRange (twins : Stores.Twins hotel one other) (plan : Id) (first last : Date) :
    Steady one other (inRange hotel plan first last) :=
  (steady_refuse _).bind fun _ _ => (RatePlans.steady_get twins plan).bind fun _ given =>
    steady_consult _ (twins.overridesIn (RatePlans.ownsPlan_of_gives given) first last)

/-- The overrides that are written are the same but for the ids of new ones. -/
theorem parallel_put (twins : Stores.Twins hotel one other) (plan : Id) (patch : OverridePatch) :
    Parallel (Stores.Paired (one.naming other) hotel) (·.renamed (one.naming other)) one other
      (put hotel plan patch) := by
  have paired := twins.paired
  refine (steady_refuseFaults _).bind_parallel paired fun _ _ => ?_
  refine (RatePlans.steady_get twins plan).bind_parallel paired fun _ given => ?_
  have owned := RatePlans.ownsPlan_of_gives given
  exact steady_now.bind_parallel paired fun now _ =>
    parallel_write _ paired (paired.writeOverride owned (twins.ownsPlan_right owned) patch now)

/-- Several overrides are written to both stores or to neither. -/
theorem parallel_putAll (twins : Stores.Twins hotel one other) (plan : Id)
    (patches : List OverridePatch) :
    Parallel (Stores.Paired (one.naming other) hotel) id one other
      (putAll hotel plan patches) := by
  have paired := twins.paired
  refine (steady_refuseFaults _).bind_parallel paired fun _ _ => ?_
  refine (steady_forM (fun _ => steady_refuseFaults _) _).bind_parallel paired fun _ _ => ?_
  refine (RatePlans.steady_get twins plan).bind_parallel paired fun _ given => ?_
  have owned := RatePlans.ownsPlan_of_gives given
  exact steady_now.bind_parallel paired fun now _ => parallel_write _ paired
    ⟨rfl, paired.writeOverrides owned (twins.ownsPlan_right owned) patches now⟩

/-- The removal fails only after it has written, and then on both stores. -/
theorem parallel_delete (twins : Stores.Twins hotel one other) (plan : Id) (date : Date) :
    Parallel (Stores.Paired (one.naming other) hotel) id one other
      (delete hotel plan date) := by
  have paired := twins.paired
  refine (RatePlans.steady_get twins plan).bind_parallel paired fun _ given => ?_
  have stored := twins.override? (RatePlans.ownsPlan_of_gives given) date
  have removal : Parallel (Stores.Paired (one.naming other) hotel) id one other
      (write .overrides fun stores =>
        (stores.override? plan date, stores.deleteOverride plan date)) :=
    parallel_write _ paired ⟨stored.symm, (twins.deleteOverride plan date).paired⟩
  refine removal.bind (fun _ _ related => related) fun removed _ left right related => ?_
  exact .ite (parallel_fail _ related) ((steady_pure ()).parallel related)

end Overrides

/-! ## The ledger -/

namespace Inventory

/-- A range of the ledger of the hotel is read alike. -/
theorem steady_inRange (twins : Stores.Twins hotel one other) (roomType : Id)
    (first last : Date) : Steady one other (inRange hotel roomType first last) :=
  (steady_refuse _).bind fun _ _ => (steady_roomType twins roomType).bind fun _ given =>
    steady_consult _ (twins.inventoryIn (ownsRoomType_of_gives given) first last)

/-- A write is checked by itself without a store. -/
theorem steady_checkPatch (patch : InventoryPatch) : Steady one other (checkPatch patch) :=
  (steady_refuseFaults _).bind fun _ _ => steady_refuse _

/-- The rooms of a type of the hotel are counted alike. -/
theorem steady_sellableRooms (twins : Stores.Twins hotel one other) {roomType : Id}
    (owned : one.ownsRoomType hotel roomType = true) :
    Steady one other (sellableRooms roomType) :=
  (steady_consult _ (twins.sellableRooms owned)).bind fun _ _ =>
    .ite (steady_pure _) (steady_fail _)

/-- The rows that are written are the same but for the ids of new ones, and what is available
overflows in both or in neither. -/
theorem parallel_put (twins : Stores.Twins hotel one other) (roomType : Id)
    (patch : InventoryPatch) :
    Parallel (Stores.Paired (one.naming other) hotel) (·.renamed (one.naming other)) one other
      (put hotel roomType patch) := by
  have paired := twins.paired
  refine (steady_checkPatch _).bind_parallel paired fun _ _ => ?_
  refine (steady_roomType twins roomType).bind_parallel paired fun _ given => ?_
  have owned := ownsRoomType_of_gives given
  refine (steady_consult _ (twins.inventory? owned _)).bind_parallel paired fun _ _ => ?_
  refine (steady_refuse _).bind_parallel paired fun _ _ => ?_
  refine (steady_sellableRooms twins owned).bind_parallel paired fun rooms _ => ?_
  exact steady_now.bind_parallel paired fun now _ =>
    (parallel_write _ paired (paired.writeInventory owned (twins.ownsRoomType_right owned) patch
      rooms now)).bind_computed

/-- Several rows are written to both stores, up to the same one, or to neither. -/
theorem parallel_putAll (twins : Stores.Twins hotel one other) (roomType : Id)
    (patches : List InventoryPatch) :
    Parallel (Stores.Paired (one.naming other) hotel) id one other
      (putAll hotel roomType patches) := by
  have paired := twins.paired
  refine (steady_refuseFaults _).bind_parallel paired fun _ _ => ?_
  refine (steady_forM steady_checkPatch _).bind_parallel paired fun _ _ => ?_
  refine (steady_roomType twins roomType).bind_parallel paired fun _ given => ?_
  have owned := ownsRoomType_of_gives given
  have merged : (patches.findSome? fun patch =>
        patch.reversedMerged? (one.inventory? roomType patch.date)) =
      patches.findSome? fun patch =>
        patch.reversedMerged? (other.inventory? roomType patch.date) := by
    congr 1
    funext patch
    rw [twins.inventory? owned]
  refine (steady_consult _ merged).bind_parallel paired fun _ _ => ?_
  refine (steady_refuse _).bind_parallel paired fun _ _ => ?_
  refine (steady_sellableRooms twins owned).bind_parallel paired fun rooms _ => ?_
  refine steady_now.bind_parallel paired fun now _ => ?_
  have written : Parallel (Stores.Paired (one.naming other) hotel) id one other
      (write .inventory (·.writeInventories roomType patches rooms now)) :=
    parallel_write _ paired
      (paired.writeInventories owned (twins.ownsRoomType_right owned) patches rooms now)
  -- Whether all rows were written is asked when they are.
  refine written.bind (fun _ _ related => related) fun made _ left right related => ?_
  exact ((steady_computed made).bind fun _ _ => steady_pure _).parallel related

end Inventory

/-! ## Quotes, availability and reservations -/

namespace Availability

/-- The rooms that a stay can have are counted alike. -/
theorem steady_check (twins : Stores.Twins hotel one other) (roomType : Id) (stay : Stay) :
    Steady one other (check hotel roomType stay) := by
  refine (steady_count _).bind fun _ _ => ?_
  refine (steady_roomType twins roomType).bind fun _ given => ?_
  have owned := ownsRoomType_of_gives given
  refine (steady_nightsOf stay).bind fun _ _ => ?_
  refine (steady_consult _ (twins.sellableRooms owned)).bind fun rooms _ => ?_
  refine (steady_consult _ (twins.roomsHeld owned stay)).bind fun held _ => ?_
  refine (steady_consult _ (twins.inventoryIn owned _ _)).bind fun rows _ => ?_
  exact steady_pure _

end Availability

namespace Quote

/-- A plan of the hotel is priced alike. -/
theorem steady_offer? (twins : Stores.Twins hotel one other) {plan : RatePlan}
    (owned : one.ownsPlan hotel plan.id = true) (stay : Stay) (booking : Booking) :
    Steady one other (offer? plan stay booking) := by
  have overrides := twins.overridesIn owned stay.checkIn stay.lastNight
  refine .ite ((steady_consult _ overrides).bind fun overrides _ => ?_) (steady_pure none)
  -- The tax rate is one of the circumstances, which are the same for both.
  refine Steady.bind (fun _ _ _ atOne atOther => ⟨rfl, atOne, atOther⟩) fun circumstance _ => ?_
  exact (steady_require _ _).bind fun offer _ => steady_pure (some offer)

/-- A stay is quoted alike. -/
theorem steady_calculate (twins : Stores.Twins hotel one other) (request : QuoteRequest) :
    Steady one other (calculate hotel request) := by
  refine (steady_count _).bind fun _ _ => ?_
  refine (steady_roomType twins _).bind fun roomType _ => ?_
  refine (steady_nightsOf _).bind fun nights _ => ?_
  have plans := twins.applicablePlans roomType.id request.stay.checkIn request.channel none
  refine (steady_consult _ plans).bind fun plans given => steady_now.bind fun now _ => ?_
  have each : ∀ plan ∈ plans, one.ownsPlan hotel plan.id = true := by
    intro plan member
    rw [eq_of_gives_consult given, Stores.applicablePlans, List.mem_mergeSort] at member
    obtain ⟨present, matched⟩ := List.mem_filter.mp member
    rw [Bool.and_eq_true, Bool.and_eq_true, beq_iff_eq] at matched
    exact Stores.ownsPlan_iff.mpr ⟨plan, present, rfl, matched.1.1⟩
  have offers := steady_filterMapM fun plan member =>
    steady_offer? twins (each plan member) request.stay
      { checkIn := request.stay.checkIn
        nights
        daysInAdvance := Instant.daysInAdvance request.stay.checkIn now }
  exact offers.bind fun offers _ => steady_pure _

end Quote

namespace Reservations

/-- A reservation of the hotel is read alike. -/
theorem steady_get (twins : Stores.Twins hotel one other) (id : Id) :
    Steady one other (get hotel id) :=
  (steady_consult _ (twins.reservation? id)).bind fun _ _ => steady_require _ _

/-- A reservation that is given has been found. -/
theorem reservation?_of_gives {id : Id} {reservation : Reservation}
    (given : Gives one (get hotel id) reservation) :
    one.reservation? hotel id = some reservation := by
  obtain ⟨_, _, _, rfl, outcome⟩ := given
  exact (run_get_ok.mp outcome).2.1

/-- The status of a reservation of the hotel is set alike. -/
theorem parallel_setStatus (twins : Stores.Twins hotel one other) (reservation : Id)
    (status : ReservationStatus) :
    Parallel (Stores.Paired (one.naming other) hotel) id one other
      (setStatus hotel reservation status) := by
  have paired := twins.paired
  refine (steady_get twins reservation).bind_parallel paired fun before given => ?_
  have found := reservation?_of_gives given
  refine (steady_accept _ _).bind_parallel paired fun status _ => ?_
  refine .ite ((steady_pure before).parallel paired) ?_
  refine steady_now.bind_parallel paired fun now _ => ?_
  have changed := twins.changeReservation found { before with status, updatedAt := now }
  exact parallel_write _ paired ⟨rfl, (changed ⟨rfl, rfl, rfl⟩).paired⟩

end Reservations

/-! ## All calls -/

namespace Call

/-- The answer under other names for what the call may have made. -/
def renamed (naming : Id → Id) : (call : Call) → call.Answer → call.Answer
  | createPlan .., plan => plan.renamed naming
  | putOverride .., row => row.renamed naming
  | putInventory .., row => row.renamed naming
  | _, answer => answer

/-- **Parallel calls.** Every call does the same on stores that hold the same of its
hotel, up to the names of what is new. -/
theorem parallel (call : Call) (twins : Stores.Twins call.hotel one other) :
    Parallel (Stores.Paired (one.naming other) call.hotel) (call.renamed (one.naming other))
      one other call.perform := by
  have paired := twins.paired
  cases call with
  | createPlan hotel request => exact RatePlans.parallel_create twins request
  | updatePlan hotel plan patch => exact RatePlans.parallel_update twins plan patch
  | deletePlan hotel plan => exact RatePlans.parallel_delete twins plan
  | getPlan hotel plan => exact (RatePlans.steady_get twins plan).parallel paired
  | listPlans hotel roomType => exact (RatePlans.steady_list twins roomType).parallel paired
  | applicablePlans hotel request =>
      exact (RatePlans.steady_applicable twins request).parallel paired
  | putOverride hotel plan patch => exact Overrides.parallel_put twins plan patch
  | putOverrides hotel plan patches => exact Overrides.parallel_putAll twins plan patches
  | deleteOverride hotel plan date => exact Overrides.parallel_delete twins plan date
  | getOverrides hotel plan first last =>
      exact (Overrides.steady_inRange twins plan first last).parallel paired
  | putInventory hotel roomType patch => exact Inventory.parallel_put twins roomType patch
  | putInventories hotel roomType patches =>
      exact Inventory.parallel_putAll twins roomType patches
  | getInventory hotel roomType first last =>
      exact (Inventory.steady_inRange twins roomType first last).parallel paired
  | checkAvailability hotel roomType stay =>
      exact (Availability.steady_check twins roomType stay).parallel paired
  | calculate hotel request => exact (Quote.steady_calculate twins request).parallel paired
  | getReservation hotel reservation =>
      exact (Reservations.steady_get twins reservation).parallel paired
  | setStatus hotel reservation status =>
      exact Reservations.parallel_setStatus twins reservation status

end Call

end Lodging
