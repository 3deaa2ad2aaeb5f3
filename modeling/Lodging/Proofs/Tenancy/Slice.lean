import Lodging.Proofs.Tenancy.Reach

/-! # What belongs to a hotel

The *slice* of a hotel is all that the stores hold of it: its entry in the directory,
its room types, its plans, the rows of both, and the reservations that are its own or
have to do with a plan or a room type of it. The rest is what belongs to others. A call
below a hotel leaves the rest as it was (`Lodging.Step.rest_eq`), because it writes only
to what it has found to be of the hotel.
-/

namespace Lodging

/-- A part of what the stores hold. -/
@[ext]
structure Slice where
  hotels : List Hotel
  roomTypes : List RoomType
  plans : List RatePlan
  overrides : List RateOverride
  inventory : List InventoryRow
  reservations : List Reservation
  bookedRooms : List BookedRoom

namespace Stores

/-- The plan is one of the hotel, be it live or deleted. -/
def ownsPlan (stores : Stores) (hotel id : Id) : Bool :=
  stores.plans.any fun plan => plan.id == id && plan.hotel == hotel

/-- The room type is one of the hotel. -/
def ownsRoomType (stores : Stores) (hotel id : Id) : Bool :=
  stores.directory.homes.contains (id, hotel)

/-- The reservation is one of the hotel, on a plan of it or for a room type of it. -/
def concerns (stores : Stores) (hotel : Id) (entry : Reservation) : Bool :=
  entry.hotel == hotel || entry.plan.any (stores.ownsPlan hotel) ||
    stores.bookedRooms.any fun room =>
      room.reservation == entry.id && stores.ownsRoomType hotel room.roomType

/-- What belongs to a hotel; its plans are in the order of their creation. -/
def slice (stores : Stores) (hotel : Id) : Slice where
  hotels := stores.directory.hotels.filter (·.id == hotel)
  roomTypes := stores.directory.roomTypes.filter (·.hotel == hotel)
  plans := stores.plans.filter (·.hotel == hotel)
  overrides := stores.overrides.filter fun row => stores.ownsPlan hotel row.plan
  inventory := stores.inventory.filter fun row => stores.ownsRoomType hotel row.roomType
  reservations := stores.reservations.filter (stores.concerns hotel)
  bookedRooms := stores.bookedRooms.filter fun room => stores.ownsRoomType hotel room.roomType

/-- What does not belong to a hotel, with the whole directory and all booked rooms. -/
def rest (stores : Stores) (hotel : Id) : Slice where
  hotels := stores.directory.hotels
  roomTypes := stores.directory.roomTypes
  plans := stores.plans.filter (·.hotel != hotel)
  overrides := stores.overrides.filter fun row => !stores.ownsPlan hotel row.plan
  inventory := stores.inventory.filter fun row => !stores.ownsRoomType hotel row.roomType
  reservations := stores.reservations.filter (·.hotel != hotel)
  bookedRooms := stores.bookedRooms

variable {stores : Stores} {hotel : Id}

/-! ## Ownership -/

theorem ownsPlan_iff {id : Id} :
    stores.ownsPlan hotel id = true ↔ ∃ plan ∈ stores.plans, plan.id = id ∧ plan.hotel = hotel := by
  simp only [ownsPlan, List.any_eq_true, Bool.and_eq_true, beq_iff_eq]

/-- A plan that is found below a hotel is one of the hotel's. -/
theorem ownsPlan_of_plan? {id : Id} (found : (stores.plan? hotel id).isSome) :
    stores.ownsPlan hotel id = true := by
  obtain ⟨plan, found⟩ := Option.isSome_iff_exists.mp found
  obtain ⟨member, live, same⟩ := of_plan? found
  exact ownsPlan_iff.mpr ⟨plan, member, same, (isLiveIn_iff.mp live).1⟩

theorem ownsRoomType_iff {id : Id} :
    stores.ownsRoomType hotel id = true ↔ (id, hotel) ∈ stores.directory.homes := by
  rw [ownsRoomType, List.contains_iff_mem]

/-- A room type that is found below a hotel is one of the hotel's. -/
theorem ownsRoomType_of_roomType? {id : Id}
    (found : (stores.directory.roomType? hotel id).isSome) :
    stores.ownsRoomType hotel id = true :=
  ownsRoomType_iff.mpr (Orderly.home_of_roomType? found)

/-- A new plan is the hotel's; who owns what has been drawn before stays. -/
theorem ownsPlan_addPlan {request : NewPlan} {now : Instant} {id : Id}
    (drawn : stores.HasDrawn id) :
    (stores.addPlan hotel request now).2.ownsPlan hotel id = stores.ownsPlan hotel id := by
  have other : (stores.supply.next == id) = false := by
    rw [beq_eq_false_iff_ne]
    rintro rfl
    exact stores.not_hasDrawn_next drawn
  rw [ownsPlan, addPlan, List.any_append, List.any_cons, List.any_nil, NewPlan.toPlan]
  dsimp only
  rw [other, Bool.false_and, Bool.false_or, Bool.or_false, ownsPlan]

/-- The change leaves the identity of the plan that it is made to. -/
def KeepsIdentity (change : RatePlan → RatePlan) (hotel id : Id) : Prop :=
  ∀ plan : RatePlan, plan.id = id → plan.hotel = hotel →
    (change plan).id = id ∧ (change plan).hotel = hotel

/-- Plans after a change have the identity that they had. -/
theorem KeepsIdentity.same {change : RatePlan → RatePlan} {id : Id}
    (keeps : KeepsIdentity change hotel id) (plan : RatePlan) :
    (if plan.id == id && plan.isLiveIn hotel then change plan else plan).id = plan.id ∧
      (if plan.id == id && plan.isLiveIn hotel then change plan else plan).hotel =
        plan.hotel := by
  split
  · rename_i matched
    rw [Bool.and_eq_true, beq_iff_eq, isLiveIn_iff] at matched
    obtain ⟨id, hotel⟩ := keeps plan matched.1 matched.2.1
    exact ⟨id.trans matched.1.symm, hotel.trans matched.2.1.symm⟩
  · exact ⟨rfl, rfl⟩

/-- Who owns a plan does not change with a change that keeps its identity. -/
theorem ownsPlan_changePlan {change : RatePlan → RatePlan} {id : Id}
    (keeps : KeepsIdentity change hotel id) (owner other : Id) :
    (stores.changePlan hotel id change).ownsPlan owner other = stores.ownsPlan owner other := by
  rw [ownsPlan, changePlan, List.any_map, ownsPlan]
  congr 1
  funext plan
  dsimp only [Function.comp_apply]
  rw [(keeps.same plan).1, (keeps.same plan).2]

/-! ## Plans -/

/-- A new plan comes last among the plans of its hotel. -/
theorem Orderly.slice_addPlan (orderly : stores.Orderly) (request : NewPlan) (now : Instant) :
    (stores.addPlan hotel request now).2.slice hotel =
      { stores.slice hotel with
        plans := (stores.slice hotel).plans ++
          [request.toPlan hotel stores.supply.next now] } := by
  refine Slice.ext rfl rfl ?plans ?overrides rfl ?reservations rfl
  case plans =>
    have own : ((request.toPlan hotel stores.supply.next now).hotel == hotel) = true :=
      beq_self_eq_true hotel
    change (stores.plans ++ [_]).filter _ = _
    rw [List.filter_append,
      List.filter_cons_of_pos (p := fun plan : RatePlan => plan.hotel == hotel) own]
    rfl
  -- No override and no reservation refers to the new plan yet, so the hotel gets none with it.
  case overrides =>
    exact List.filter_congr fun row member => ownsPlan_addPlan (orderly.overrides row member).2
  case reservations =>
    refine List.filter_congr fun entry member => ?_
    have known := (orderly.reservations entry member).2
    cases named : entry.plan with
    | none => simp only [concerns, named]; rfl
    | some id =>
        simp only [concerns, named, Option.any_some]
        rw [ownsPlan_addPlan (known id named)]
        rfl

/-- Nobody owned what is written of a new plan before, so the rest stays. -/
theorem Orderly.rest_addPlan (orderly : stores.Orderly) (request : NewPlan) (now : Instant) :
    (stores.addPlan hotel request now).2.rest hotel = stores.rest hotel := by
  refine Slice.ext rfl rfl ?plans ?overrides rfl rfl rfl
  case plans =>
    have own : ¬ ((request.toPlan hotel stores.supply.next now).hotel != hotel) = true := by
      rw [NewPlan.toPlan, bne_self_eq_false]
      exact Bool.false_ne_true
    change (stores.plans ++ [_]).filter _ = _
    rw [List.filter_append,
      List.filter_cons_of_neg (p := fun plan : RatePlan => plan.hotel != hotel) own,
      List.filter_nil, List.append_nil]
    rfl
  case overrides =>
    refine List.filter_congr fun row member => ?_
    rw [ownsPlan_addPlan (orderly.overrides row member).2]

/-- Changing a plan in its place commutes with looking at the plans of an owner. -/
theorem filter_changePlan {change : RatePlan → RatePlan} {id : Id}
    (keeps : KeepsIdentity change hotel id) (passes : Id → Bool) :
    (stores.changePlan hotel id change).plans.filter (fun plan => passes plan.hotel) =
      (stores.plans.filter fun plan => passes plan.hotel).map fun plan =>
        if plan.id == id && plan.isLiveIn hotel then change plan else plan := by
  have kept (plan : RatePlan) := congrArg passes (keeps.same plan).2
  exact filter_map_of_kept kept stores.plans

/-- A change to a plan of the hotel is a change of its slice. -/
theorem slice_changePlan {change : RatePlan → RatePlan} {id : Id}
    (keeps : KeepsIdentity change hotel id) :
    (stores.changePlan hotel id change).slice hotel =
      { stores.slice hotel with
        plans := (stores.slice hotel).plans.map fun plan =>
          if plan.id == id && plan.isLiveIn hotel then change plan else plan } := by
  have owns : (stores.changePlan hotel id change).ownsPlan hotel = stores.ownsPlan hotel :=
    funext fun other => ownsPlan_changePlan keeps hotel other
  refine Slice.ext rfl rfl (filter_changePlan keeps (· == hotel)) ?overrides rfl ?reservations rfl
  case overrides =>
    simp only [slice, owns]
    rfl
  case reservations =>
    refine List.filter_congr fun entry _ => ?_
    simp only [concerns, owns]
    rfl

theorem rest_changePlan {change : RatePlan → RatePlan} {id : Id}
    (keeps : KeepsIdentity change hotel id) :
    (stores.changePlan hotel id change).rest hotel = stores.rest hotel := by
  have owns : (stores.changePlan hotel id change).ownsPlan hotel = stores.ownsPlan hotel :=
    funext fun other => ownsPlan_changePlan keeps hotel other
  refine Slice.ext rfl rfl ?plans ?overrides rfl rfl rfl
  case plans =>
    refine (filter_changePlan keeps (· != hotel)).trans (map_eq_self fun plan member => ?_)
    have foreign : ¬ (plan.id == id && plan.isLiveIn hotel) = true := by
      have other := List.of_mem_filter member
      rw [Bool.and_eq_true, isLiveIn_iff]
      rw [bne_iff_ne] at other
      exact fun matched => other matched.2.1
    exact if_neg foreign
  case overrides =>
    simp only [rest, owns]
    rfl

/-! ## Overrides and the ledger -/

/-- A write to a plan of the hotel is a write to the rows of its slice. -/
theorem slice_writeOverride {plan : Id} (own : stores.ownsPlan hotel plan = true)
    (patch : OverridePatch) (now : Instant) :
    (stores.writeOverride plan patch now).2.slice hotel =
      { stores.slice hotel with
        overrides := upsert (fun row => row.plan == plan && row.date == patch.date)
          (.blank stores.supply.next plan patch.date now) (patch.apply · now)
          (stores.slice hotel).overrides } := by
  have passes (row : RateOverride) (matched : (row.plan == plan && row.date == patch.date) = true) :
      stores.ownsPlan hotel row.plan = true := by
    rw [Bool.and_eq_true, beq_iff_eq] at matched
    rw [matched.1, own]
  exact Slice.ext rfl rfl rfl (filter_upsert_of_pos passes passes own) rfl rfl rfl

/-- A row of a plan of the hotel is not part of the rest. -/
theorem rest_writeOverride {plan : Id} (own : stores.ownsPlan hotel plan = true)
    (patch : OverridePatch) (now : Instant) :
    (stores.writeOverride plan patch now).2.rest hotel = stores.rest hotel := by
  have held (row : RateOverride) (matched : (row.plan == plan && row.date == patch.date) = true) :
      (!stores.ownsPlan hotel row.plan) = false := by
    rw [Bool.and_eq_true, beq_iff_eq] at matched
    rw [matched.1, own, Bool.not_true]
  have new : (!stores.ownsPlan hotel plan) = false := by rw [own, Bool.not_true]
  exact Slice.ext rfl rfl rfl (filter_upsert_of_neg held held new) rfl rfl rfl

/-- A write to a room type of the hotel is a write to the rows of its slice. -/
theorem slice_writeInventory {roomType : Id} (own : stores.ownsRoomType hotel roomType = true)
    (patch : InventoryPatch) (rooms : Int) (now : Instant) :
    (stores.writeInventory roomType patch rooms now).2.slice hotel =
      { stores.slice hotel with
        inventory := upsert (fun row => row.roomType == roomType && row.date == patch.date)
          (.blank stores.supply.next roomType patch.date rooms now) (patch.apply · now)
          (stores.slice hotel).inventory } := by
  have passes (row : InventoryRow)
      (matched : (row.roomType == roomType && row.date == patch.date) = true) :
      stores.ownsRoomType hotel row.roomType = true := by
    rw [Bool.and_eq_true, beq_iff_eq] at matched
    rw [matched.1, own]
  exact Slice.ext rfl rfl rfl rfl (filter_upsert_of_pos passes passes own) rfl rfl

theorem rest_writeInventory {roomType : Id} (own : stores.ownsRoomType hotel roomType = true)
    (patch : InventoryPatch) (rooms : Int) (now : Instant) :
    (stores.writeInventory roomType patch rooms now).2.rest hotel = stores.rest hotel := by
  have held (row : InventoryRow)
      (matched : (row.roomType == roomType && row.date == patch.date) = true) :
      (!stores.ownsRoomType hotel row.roomType) = false := by
    rw [Bool.and_eq_true, beq_iff_eq] at matched
    rw [matched.1, own, Bool.not_true]
  have new : (!stores.ownsRoomType hotel roomType) = false := by rw [own, Bool.not_true]
  exact Slice.ext rfl rfl rfl rfl (filter_upsert_of_neg held held new) rfl rfl

theorem rest_writeOverrides {plan : Id} (own : stores.ownsPlan hotel plan = true)
    (patches : List OverridePatch) (now : Instant) :
    (stores.writeOverrides plan patches now).rest hotel = stores.rest hotel := by
  induction patches generalizing stores with
  | nil => rfl
  | cons patch rest ih =>
      have first := rest_writeOverride own patch now
      exact (@ih (stores.writeOverride plan patch now).2 own).trans first

/-- The rest stays however far the writes come. -/
theorem rest_writeInventories {roomType : Id} (own : stores.ownsRoomType hotel roomType = true)
    (patches : List InventoryPatch) (rooms : Int) (now : Instant) :
    (stores.writeInventories roomType patches rooms now).2.rest hotel = stores.rest hotel := by
  refine (writeInventories_induction (fun after =>
    after.ownsRoomType hotel roomType = true ∧ after.rest hotel = stores.rest hotel)
    (fun patch _ between kept => ?_) ⟨own, rfl⟩).2
  exact ⟨kept.1, (rest_writeInventory kept.1 patch rooms now).trans kept.2⟩

theorem slice_deleteOverride (stores : Stores) (hotel plan : Id) (date : Date) :
    (stores.deleteOverride plan date).slice hotel =
      { stores.slice hotel with
        overrides := (stores.slice hotel).overrides.filter fun row =>
          !(row.plan == plan && row.date == date) } := by
  refine Slice.ext rfl rfl rfl ?_ rfl rfl rfl
  simp only [slice, deleteOverride, List.filter_filter, Bool.and_comm]
  rfl

theorem rest_deleteOverride {plan : Id} (own : stores.ownsPlan hotel plan = true) (date : Date) :
    (stores.deleteOverride plan date).rest hotel = stores.rest hotel := by
  refine Slice.ext rfl rfl rfl ?_ rfl rfl rfl
  simp only [rest, deleteOverride, List.filter_filter]
  refine List.filter_congr fun row _ => ?_
  by_cases same : row.plan = plan
  · rw [same]
    change (!stores.ownsPlan hotel plan && _) = !stores.ownsPlan hotel plan
    rw [own]
    rfl
  · rw [beq_eq_false_iff_ne.mpr same, Bool.false_and, Bool.not_false, Bool.and_true]
    rfl

/-! ## Reservations -/

/-- A changed reservation of the hotel is one of the hotel, and any other stays. -/
theorem changed_or_same {change : Reservation → Reservation} (id : Id)
    (keeps : ∀ entry, (change entry).hotel = hotel) (entry : Reservation) :
    (entry.hotel = hotel ∧
        (if entry.id == id && entry.hotel == hotel then change entry else entry).hotel = hotel) ∨
      (if entry.id == id && entry.hotel == hotel then change entry else entry) = entry := by
  split
  · rename_i matched
    rw [Bool.and_eq_true, beq_iff_eq, beq_iff_eq] at matched
    exact .inl ⟨matched.2, keeps entry⟩
  · exact .inr rfl

/-- A reservation of the hotel concerns it, whatever it refers to. -/
theorem concerns_of_hotel {entry : Reservation} (own : entry.hotel = hotel) :
    stores.concerns hotel entry = true := by
  rw [concerns, own, beq_self_eq_true, Bool.true_or, Bool.true_or]

/-- A change to a reservation of the hotel is a change of its slice. -/
theorem slice_changeReservation {change : Reservation → Reservation} {id : Id}
    (keeps : ∀ entry, (change entry).hotel = hotel) :
    (stores.changeReservation hotel id change).slice hotel =
      { stores.slice hotel with
        reservations := (stores.slice hotel).reservations.map fun entry =>
          if entry.id == id && entry.hotel == hotel then change entry else entry } := by
  refine Slice.ext rfl rfl rfl rfl rfl ?_ rfl
  change (stores.reservations.map _).filter (stores.concerns hotel) =
    (stores.reservations.filter (stores.concerns hotel)).map _
  refine filter_map_of_kept (fun entry => ?_) stores.reservations
  rcases changed_or_same id keeps entry with ⟨own, after⟩ | same
  · rw [concerns_of_hotel own, concerns_of_hotel after]
  · rw [same]

theorem rest_changeReservation {change : Reservation → Reservation} {id : Id}
    (keeps : ∀ entry, (change entry).hotel = hotel) :
    (stores.changeReservation hotel id change).rest hotel = stores.rest hotel := by
  refine Slice.ext rfl rfl rfl rfl rfl ?_ rfl
  have kept (entry : Reservation) :
      ((if entry.id == id && entry.hotel == hotel then change entry else entry).hotel !=
        hotel) = (entry.hotel != hotel) := by
    rcases changed_or_same id keeps entry with ⟨own, after⟩ | same
    · rw [after, own]
    · rw [same]
  refine (filter_map_of_kept kept stores.reservations).trans (map_eq_self fun entry member => ?_)
  have other := (List.mem_filter.mp member).2
  rw [bne_iff_ne] at other
  have unmatched : ¬ (entry.id == id && entry.hotel == hotel) = true := by
    rw [Bool.and_eq_true, beq_iff_eq, beq_iff_eq]
    exact fun matched => other matched.2
  exact if_neg unmatched

/-! ## Calls -/

/-- A change of a plan that a call makes keeps its identity. -/
theorem keepsIdentity_revisedBy {plan : RatePlan} {id : Id} {patch : PlanPatch} {now : Instant}
    (found : stores.plan? hotel id = some plan) :
    KeepsIdentity (fun _ => plan.revisedBy patch now) hotel id := by
  obtain ⟨_, live, same⟩ := of_plan? found
  exact fun _ _ _ => ⟨same, (isLiveIn_iff.mp live).1⟩

end Stores

/-- **Frame.** A call leaves what does not belong to its hotel as it was. -/
theorem Step.rest_eq {before after : Stores} {event : Event} (orderly : before.Orderly)
    (step : Step before event after) :
    after.rest event.call.hotel = before.rest event.call.hotel := by
  cases step with
  | idle => rfl
  | planned step elsewhere =>
      cases step with
      | unmoved same =>
          rw [Stores.OnlyPlansDiffer, same.plans] at elsewhere
          rw [elsewhere]
          rfl
      | made circumstance hotel request =>
          exact orderly.rest_addPlan request circumstance.now
      | revised circumstance hotel id patch plan _ found =>
          exact Stores.rest_changePlan (Stores.keepsIdentity_revisedBy found)
      | deleted circumstance hotel id =>
          exact Stores.rest_changePlan fun plan own house => ⟨own, house⟩
  | overrideWritten circumstance hotel plan patch found =>
      exact Stores.rest_writeOverride (Stores.ownsPlan_of_plan? found) patch circumstance.now
  | overridesWritten circumstance hotel plan patches found =>
      exact Stores.rest_writeOverrides (Stores.ownsPlan_of_plan? found) patches circumstance.now
  | overrideRemoved circumstance hotel plan date found =>
      exact Stores.rest_deleteOverride (Stores.ownsPlan_of_plan? found) date
  | inventoryWritten circumstance hotel roomType rooms patch admitted =>
      exact Stores.rest_writeInventory (Stores.ownsRoomType_of_roomType? admitted.housed) patch
        rooms circumstance.now
  | inventoriesWritten circumstance hotel roomType rooms patches _ admitted =>
      exact Stores.rest_writeInventories (Stores.ownsRoomType_of_roomType? admitted.housed)
        patches rooms circumstance.now
  | statusSet circumstance hotel id status reservation found =>
      exact Stores.rest_changeReservation fun _ => (Stores.of_reservation? found).2.2

end Lodging
