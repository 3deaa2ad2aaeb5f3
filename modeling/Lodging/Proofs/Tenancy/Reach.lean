import Lodging.Proofs.Rows
import Lodging.Proofs.Service.Step

/-! # Stores that can be reached

Stores are reached from empty ones by calls of anybody for any hotel, and by what
happens elsewhere: hotels, room types and reservations are added, and room types are
revised. In all of them ids have been drawn and keys are apart, a plan is for a room
type of its own hotel, and nothing refers to a plan that is still to be made
(`Lodging.Stores.Reachable.orderly`).
-/

namespace Lodging

/-- The room types with the hotels that they belong to. -/
def Directory.homes (directory : Directory) : List (Id × Id) :=
  directory.roomTypes.map fun roomType => (roomType.id, roomType.hotel)

theorem Directory.homes_addRoomType (directory : Directory) (roomType : RoomType) :
    (directory.addRoomType roomType).homes =
      directory.homes ++ [(roomType.id, roomType.hotel)] :=
  List.map_append

/-- The plan and the date that a row is for. -/
def RateOverride.key (row : RateOverride) : Id × Date :=
  (row.plan, row.date)

/-- The room type and the date that a row is for. -/
def InventoryRow.key (row : InventoryRow) : Id × Date :=
  (row.roomType, row.date)

namespace Stores

/-- A reservation that is found is one of the hotel. -/
theorem of_reservation? {stores : Stores} {hotel id : Id} {reservation : Reservation}
    (found : stores.reservation? hotel id = some reservation) :
    reservation ∈ stores.reservations ∧ reservation.id = id ∧ reservation.hotel = hotel := by
  have matched := List.find?_some found
  rw [Bool.and_eq_true, beq_iff_eq, beq_iff_eq] at matched
  exact ⟨List.mem_of_find?_eq_some found, matched⟩

/-- The id is one of those that have been drawn. -/
def HasDrawn (stores : Stores) (id : Id) : Prop :=
  id.value < stores.supply.next.value

/-- Stores that calls and what happens elsewhere can lead to. -/
inductive Reachable : Stores → Prop where
  | empty : Reachable .empty
  | organization {stores : Stores} (reached : Reachable stores) :
      Reachable stores.addOrganization.2
  | hotel {stores : Stores} (reached : Reachable stores) (organization : Id) :
      Reachable (stores.addHotel organization).2
  | roomType {stores : Stores} (reached : Reachable stores) (hotel : Id) (name : String)
      (rooms : Int) : Reachable (stores.addRoomType hotel name rooms).2
  /-- Room types get other names or counts or are deleted; where they belong stays. -/
  | revised {stores : Stores} (reached : Reachable stores) (directory : Directory)
      (same : directory.homes = stores.directory.homes) :
      Reachable { stores with directory }
  /-- A reservation is made, on a plan that there has been if on any. -/
  | reservation {stores : Stores} (reached : Reachable stores) (hotel roomType : Id)
      (plan : Option Id) (status : ReservationStatus) (stay : Stay) (now : Instant)
      (known : ∀ id ∈ plan, stores.HasDrawn id) :
      Reachable (stores.addReservation hotel roomType plan status stay now).2
  | called {backend : Backend} (reached : Reachable backend.stores) (event : Event) :
      Reachable (event.after backend).stores

/-- What ids and keys are like in stores that can be reached. -/
structure Orderly (stores : Stores) : Prop where
  plans : ∀ plan ∈ stores.plans, stores.HasDrawn plan.id ∧
    (plan.roomType, plan.hotel) ∈ stores.directory.homes
  homes : ∀ home ∈ stores.directory.homes, stores.HasDrawn home.1
  homesApart : (stores.directory.homes.map (·.1)).Nodup
  overrides : ∀ row ∈ stores.overrides, stores.HasDrawn row.id ∧ stores.HasDrawn row.plan
  overridesApart : (stores.overrides.map (·.key)).Nodup
  inventory : ∀ row ∈ stores.inventory, stores.HasDrawn row.id
  inventoryApart : (stores.inventory.map (·.key)).Nodup
  reservations : ∀ entry ∈ stores.reservations, stores.HasDrawn entry.id ∧
    ∀ plan ∈ entry.plan, stores.HasDrawn plan
  reservationsApart : (stores.reservations.map (·.id)).Nodup

variable {stores : Stores}

/-! ## One row for a key -/

/-- The row is the one of the room type and the date. -/
theorem isRowOf_iff (sought : Id × Date) (row : InventoryRow) :
    (row.roomType == sought.1 && row.date == sought.2) = true ↔ row.key = sought :=
  isOwned_iff sought row

/-- A write keeps one row for each room type and date. -/
theorem nodup_writeInventory (apart : (stores.inventory.map (·.key)).Nodup) (roomType : Id)
    (patch : InventoryPatch) (rooms : Int) (now : Instant) :
    ((stores.writeInventory roomType patch rooms now).2.inventory.map (·.key)).Nodup :=
  nodup_keys_upsert (k := (roomType, patch.date)) (isRowOf_iff (roomType, patch.date))
    (fun _ => rfl) rfl apart

/-- Writes keep one row for each room type and date, all of them or some first ones. -/
theorem nodup_mergeInventories (apart : (stores.inventory.map (·.key)).Nodup) {roomType : Id}
    {patches : List InventoryPatch} {rooms : Int} {now : Instant} :
    ((stores.mergeInventories roomType rooms now patches).inventory.map (·.key)).Nodup := by
  induction patches generalizing stores with
  | nil => exact apart
  | cons patch rest ih => exact ih (nodup_writeInventory apart roomType patch rooms now)

theorem nodup_writeInventories (apart : (stores.inventory.map (·.key)).Nodup) (roomType : Id)
    (patches : List InventoryPatch) (rooms : Int) (now : Instant) :
    ((stores.writeInventories roomType patches rooms now).2.inventory.map (·.key)).Nodup := by
  rw [writeInventories_snd]
  exact nodup_mergeInventories apart

/-- A write leaves its own row and all rows of other room types and dates. -/
theorem inventory?_writeInventory (stores : Stores) (roomType : Id) (patch : InventoryPatch)
    (rooms : Int) (now : Instant) (key : Id × Date) :
    (stores.writeInventory roomType patch rooms now).2.inventory? key.1 key.2 =
      if (roomType, patch.date) = key then
        some (stores.writtenRow roomType rooms now patch)
      else stores.inventory? key.1 key.2 := by
  have kept (row : InventoryRow) : (patch.apply row now).key = row.key := rfl
  have new : (patch.apply (.blank stores.supply.next roomType patch.date rooms now) now).key =
      (roomType, patch.date) := rfl
  refine (find?_upsert_of_key isRowOf_iff kept new key).trans ?_
  split
  · rename_i own
    subst own
    rfl
  · rfl

/-- A row of the ledger is the one that is found for its room type and date. -/
theorem inventory?_eq_some (apart : (stores.inventory.map (·.key)).Nodup) {row : InventoryRow}
    (member : row ∈ stores.inventory) : stores.inventory? row.roomType row.date = some row :=
  find?_eq_some_of_key apart member (isRowOf_iff row.key)

/-- The row is the one of the plan and the date. -/
theorem isOverrideOf_iff (sought : Id × Date) (row : RateOverride) :
    (row.plan == sought.1 && row.date == sought.2) = true ↔ row.key = sought :=
  isOwned_iff sought row

/-- A write keeps one row for each plan and date. -/
theorem nodup_writeOverride (apart : (stores.overrides.map (·.key)).Nodup) (plan : Id)
    (patch : OverridePatch) (now : Instant) :
    ((stores.writeOverride plan patch now).2.overrides.map (·.key)).Nodup :=
  nodup_keys_upsert (k := (plan, patch.date)) (isOverrideOf_iff (plan, patch.date))
    (fun _ => rfl) rfl apart

theorem nodup_writeOverrides (apart : (stores.overrides.map (·.key)).Nodup) (plan : Id)
    (patches : List OverridePatch) (now : Instant) :
    ((stores.writeOverrides plan patches now).overrides.map (·.key)).Nodup := by
  induction patches generalizing stores with
  | nil => exact apart
  | cons patch rest ih => exact ih (nodup_writeOverride apart plan patch now)

/-- A write leaves the override that it gives, and all of other plans and dates. -/
theorem override?_writeOverride (stores : Stores) (plan : Id) (patch : OverridePatch)
    (now : Instant) (key : Id × Date) :
    (stores.writeOverride plan patch now).2.override? key.1 key.2 =
      if (plan, patch.date) = key then some (stores.writeOverride plan patch now).1
      else stores.override? key.1 key.2 := by
  have kept (row : RateOverride) : (patch.apply row now).key = row.key := rfl
  have new : (patch.apply (.blank stores.supply.next plan patch.date now) now).key =
      (plan, patch.date) := rfl
  refine (find?_upsert_of_key isOverrideOf_iff kept new key).trans ?_
  split
  · rename_i own
    subst own
    rfl
  · rfl

/-! ## Drawing ids -/

/-- The next id is not one of those that have been drawn. -/
theorem not_hasDrawn_next (stores : Stores) : ¬ stores.HasDrawn stores.supply.next :=
  Nat.lt_irrefl _

namespace Orderly

/-- Ids may be drawn at any time. -/
theorem drawing (orderly : stores.Orderly) {supply : Id.Supply}
    (more : stores.supply.drawn ≤ supply.drawn) : { stores with supply }.Orderly := by
  have drawn {id : Id} (before : stores.HasDrawn id) : { stores with supply }.HasDrawn id :=
    Nat.lt_of_lt_of_le before (Nat.add_le_add_left more _)
  exact {
    plans := fun plan member => ⟨drawn (orderly.plans plan member).1, (orderly.plans plan member).2⟩
    homes := fun home member => drawn (orderly.homes home member)
    homesApart := orderly.homesApart
    overrides := fun row member =>
      ⟨drawn (orderly.overrides row member).1, drawn (orderly.overrides row member).2⟩
    overridesApart := orderly.overridesApart
    inventory := fun row member => drawn (orderly.inventory row member)
    inventoryApart := orderly.inventoryApart
    reservations := fun entry member => ⟨drawn (orderly.reservations entry member).1,
      fun plan named => drawn ((orderly.reservations entry member).2 plan named)⟩
    reservationsApart := orderly.reservationsApart }

/-- Drawing an id that nothing uses yet leaves the stores in order. -/
theorem drawOne (orderly : stores.Orderly) : { stores with supply := stores.supply.rest }.Orderly :=
  orderly.drawing (Nat.le_succ _)

/-- An id counts as drawn as soon as it is taken from the supply. -/
theorem hasDrawn_rest (stores : Stores) :
    { stores with supply := stores.supply.rest }.HasDrawn stores.supply.next :=
  Nat.lt_succ_self _

/-! ## Replacing what is in one store -/

/-- Plans may be replaced by others with ids that were drawn, in hotels of their room types. -/
theorem withPlans (orderly : stores.Orderly) {plans : List RatePlan}
    (each : ∀ plan ∈ plans, stores.HasDrawn plan.id ∧
      (plan.roomType, plan.hotel) ∈ stores.directory.homes) :
    { stores with plans }.Orderly :=
  { orderly with plans := each }

/-- Overrides may be replaced by others that are apart and belong to plans that were made. -/
theorem withOverrides (orderly : stores.Orderly) {overrides : List RateOverride}
    (each : ∀ row ∈ overrides, stores.HasDrawn row.id ∧ stores.HasDrawn row.plan)
    (apart : (overrides.map (·.key)).Nodup) : { stores with overrides }.Orderly :=
  { orderly with overrides := each, overridesApart := apart }

/-- The ledger may be replaced by rows that are apart. -/
theorem withInventory (orderly : stores.Orderly) {inventory : List InventoryRow}
    (each : ∀ row ∈ inventory, stores.HasDrawn row.id)
    (apart : (inventory.map (·.key)).Nodup) : { stores with inventory }.Orderly :=
  { orderly with inventory := each, inventoryApart := apart }

/-- Reservations may be replaced by others that are apart and refer to plans that were made. -/
theorem withReservations (orderly : stores.Orderly) {reservations : List Reservation}
    (each : ∀ entry ∈ reservations, stores.HasDrawn entry.id ∧
      ∀ plan ∈ entry.plan, stores.HasDrawn plan)
    (apart : (reservations.map (·.id)).Nodup) : { stores with reservations }.Orderly :=
  { orderly with reservations := each, reservationsApart := apart }

/-- The directory may only grow, as plans rely on the homes of room types. -/
theorem withDirectory (orderly : stores.Orderly) {directory : Directory}
    (each : ∀ home ∈ directory.homes, stores.HasDrawn home.1)
    (apart : (directory.homes.map (·.1)).Nodup)
    (kept : ∀ home ∈ stores.directory.homes, home ∈ directory.homes) :
    { stores with directory }.Orderly :=
  { orderly with
    plans := fun plan member =>
      ⟨(orderly.plans plan member).1, kept _ (orderly.plans plan member).2⟩
    homes := each
    homesApart := apart }

/-! ## What calls do -/

/-- A plan may be added in the hotel of its room type. -/
theorem addPlan (orderly : stores.Orderly) {hotel : Id} {request : NewPlan}
    (housed : (request.roomType, hotel) ∈ stores.directory.homes) (now : Instant) :
    (stores.addPlan hotel request now).2.Orderly := by
  refine orderly.drawOne.withPlans fun plan member => ?_
  rcases List.mem_append.mp member with old | new
  · exact orderly.drawOne.plans plan old
  · obtain rfl := List.mem_singleton.mp new
    exact ⟨hasDrawn_rest stores, housed⟩

theorem changePlan (orderly : stores.Orderly) (hotel id : Id) (change : RatePlan → RatePlan)
    (each : ∀ plan ∈ stores.plans, stores.HasDrawn (change plan).id ∧
      ((change plan).roomType, (change plan).hotel) ∈ stores.directory.homes) :
    (stores.changePlan hotel id change).Orderly := by
  refine orderly.withPlans fun entry member => ?_
  obtain ⟨plan, present, rfl⟩ := List.mem_map.mp member
  split
  · exact each plan present
  · exact orderly.plans plan present

theorem writeOverride (orderly : stores.Orderly) {plan : Id} (known : stores.HasDrawn plan)
    (patch : OverridePatch) (now : Instant) :
    (stores.writeOverride plan patch now).2.Orderly := by
  have more := Unmoved.drawn_le stores.supply (stores.override? plan patch.date).isSome
  have drawn := orderly.drawing more
  refine drawn.withOverrides (fun row member => ?_) ?_
  · rcases mem_upsert member with old | ⟨missing, rfl⟩ | ⟨old, present, _, rfl⟩
    · exact drawn.overrides row old
    · -- The row is new, so an id has been drawn for it.
      have new : stores.override? plan patch.date = none := missing
      refine ⟨?_, Nat.lt_of_lt_of_le known (Nat.add_le_add_left more _)⟩
      rw [new]
      exact hasDrawn_rest stores
    · exact drawn.overrides old present
  · exact nodup_writeOverride orderly.overridesApart plan patch now

theorem writeInventory (orderly : stores.Orderly) (roomType : Id) (patch : InventoryPatch)
    (rooms : Int) (now : Instant) :
    (stores.writeInventory roomType patch rooms now).2.Orderly := by
  have more := Unmoved.drawn_le stores.supply (stores.inventory? roomType patch.date).isSome
  have drawn := orderly.drawing more
  refine drawn.withInventory (fun row member => ?_) ?_
  · rcases mem_upsert member with old | ⟨missing, rfl⟩ | ⟨old, present, _, rfl⟩
    · exact drawn.inventory row old
    · have new : stores.inventory? roomType patch.date = none := missing
      rw [new]
      exact hasDrawn_rest stores
    · exact drawn.inventory old present
  · exact nodup_writeInventory orderly.inventoryApart roomType patch rooms now

theorem writeOverrides (orderly : stores.Orderly) {plan : Id} (known : stores.HasDrawn plan)
    (patches : List OverridePatch) (now : Instant) :
    (stores.writeOverrides plan patches now).Orderly := by
  induction patches generalizing stores with
  | nil => exact orderly
  | cons patch rest ih =>
      have more := (Unmoved.writeOverride stores plan patch now).drawn
      exact ih (orderly.writeOverride known patch now)
        (Nat.lt_of_lt_of_le known (Nat.add_le_add_left more _))

theorem writeInventories (orderly : stores.Orderly) (roomType : Id)
    (patches : List InventoryPatch) (rooms : Int) (now : Instant) :
    (stores.writeInventories roomType patches rooms now).2.Orderly :=
  writeInventories_induction Stores.Orderly
    (fun patch _ _ orderly => orderly.writeInventory roomType patch rooms now) orderly

theorem deleteOverride (orderly : stores.Orderly) (plan : Id) (date : Date) :
    (stores.deleteOverride plan date).Orderly :=
  orderly.withOverrides
    (fun row member => orderly.overrides row (List.mem_of_mem_filter member))
    (orderly.overridesApart.sublist (List.filter_sublist.map _))

/-- Reservations may change in all but what they are known by. -/
theorem changeReservation (orderly : stores.Orderly) {hotel id : Id}
    {change : Reservation → Reservation}
    (each : ∀ entry, entry.id = id → (change entry).id = id)
    (known : ∀ entry, ∀ plan ∈ (change entry).plan, stores.HasDrawn plan) :
    (stores.changeReservation hotel id change).Orderly := by
  have ids : (stores.changeReservation hotel id change).reservations.map (·.id) =
      stores.reservations.map (·.id) := by
    rw [Stores.changeReservation, List.map_map]
    refine List.map_congr_left fun entry _ => ?_
    dsimp only [Function.comp_apply]
    split
    · rename_i matched
      rw [Bool.and_eq_true, beq_iff_eq] at matched
      rw [each entry matched.1, matched.1]
    · rfl
  refine orderly.withReservations (fun entry member => ?_) (ids ▸ orderly.reservationsApart)
  obtain ⟨old, present, rfl⟩ := List.mem_map.mp member
  split
  · rename_i matched
    rw [Bool.and_eq_true, beq_iff_eq] at matched
    refine ⟨?_, known old⟩
    rw [each old matched.1, ← matched.1]
    exact (orderly.reservations old present).1
  · exact orderly.reservations old present

/-- What changes nothing but plans keeps order if the plans are in order. -/
theorem replan {after : Stores} (orderly : stores.Orderly)
    (elsewhere : after.OnlyPlansDiffer stores) (more : stores.supply.drawn ≤ after.supply.drawn)
    (each : ∀ plan ∈ after.plans, after.HasDrawn plan.id ∧
      (plan.roomType, plan.hotel) ∈ stores.directory.homes) : after.Orderly := by
  rw [OnlyPlansDiffer] at elsewhere
  rw [elsewhere]
  exact (orderly.drawing more).withPlans each

/-- A room type that is found is at home in the hotel. -/
theorem home_of_roomType? {directory : Directory} {hotel id : Id}
    (found : (directory.roomType? hotel id).isSome) : (id, hotel) ∈ directory.homes := by
  obtain ⟨roomType, found⟩ := Option.isSome_iff_exists.mp found
  obtain ⟨member, rfl, rfl⟩ := Directory.of_roomType? found
  exact List.mem_map_of_mem member

/-- Every step keeps stores in order. -/
theorem step {after : Stores} {event : Event} (orderly : stores.Orderly)
    (step : Step stores event after) : after.Orderly := by
  have known {hotel id : Id} (found : (stores.plan? hotel id).isSome) : stores.HasDrawn id := by
    obtain ⟨plan, found⟩ := Option.isSome_iff_exists.mp found
    obtain ⟨member, _, rfl⟩ := of_plan? found
    exact (orderly.plans plan member).1
  cases step with
  | idle => exact orderly
  | planned step elsewhere =>
      cases step with
      | unmoved same =>
          refine orderly.replan elsewhere same.drawn fun plan member => ?_
          rw [same.plans] at member
          exact (orderly.drawing same.drawn).plans plan member
      | made circumstance hotel request _ _ housed =>
          exact orderly.addPlan (home_of_roomType? housed) circumstance.now
      | revised circumstance hotel id patch plan _ found =>
          exact orderly.changePlan hotel id _ fun _ _ => orderly.plans plan (of_plan? found).1
      | deleted circumstance hotel id =>
          exact orderly.changePlan hotel id _ fun plan member => orderly.plans plan member
  | overrideWritten circumstance hotel plan patch found =>
      exact orderly.writeOverride (known found) patch circumstance.now
  | overridesWritten circumstance hotel plan patches found =>
      exact orderly.writeOverrides (known found) patches circumstance.now
  | overrideRemoved circumstance hotel plan date => exact orderly.deleteOverride plan date
  | inventoryWritten circumstance hotel roomType rooms patch =>
      exact orderly.writeInventory roomType patch rooms circumstance.now
  | inventoriesWritten circumstance hotel roomType rooms patches =>
      exact orderly.writeInventories roomType patches rooms circumstance.now
  | statusSet circumstance hotel id status reservation found =>
      obtain ⟨member, same, _⟩ := of_reservation? found
      exact orderly.changeReservation (fun _ _ => same) fun _ =>
        (orderly.reservations reservation member).2

end Orderly

/-! ## What happens elsewhere -/

/-- The id drawn next is apart from all that have been drawn. -/
theorem nodup_append_next {ids : List Id} (nodup : ids.Nodup)
    (drawn : ∀ id ∈ ids, stores.HasDrawn id) : (ids ++ [stores.supply.next]).Nodup := by
  refine List.nodup_append.mpr ⟨nodup, List.nodup_singleton _, ?_⟩
  intro one left other right same
  rw [List.mem_singleton.mp right] at same
  exact stores.not_hasDrawn_next (same ▸ drawn one left)

/-- A new room type gets an id of its own. -/
theorem Orderly.addRoomType (orderly : stores.Orderly) (hotel : Id) (name : String)
    (rooms : Int) : (stores.addRoomType hotel name rooms).2.Orderly := by
  refine orderly.drawOne.withDirectory (fun home member => ?_) ?_ fun home member => ?_
  · rw [Directory.homes_addRoomType] at member
    rcases List.mem_append.mp member with old | new
    · exact orderly.drawOne.homes home old
    · obtain rfl := List.mem_singleton.mp new
      exact hasDrawn_rest stores
  · rw [Directory.homes_addRoomType, List.map_append]
    refine nodup_append_next orderly.homesApart fun id member => ?_
    obtain ⟨home, present, rfl⟩ := List.mem_map.mp member
    exact orderly.homes home present
  · rw [Directory.homes_addRoomType]
    exact List.mem_append_left _ member

/-- A new reservation may refer to any plan that was made. -/
theorem Orderly.addReservation (orderly : stores.Orderly) (hotel roomType : Id)
    {plan : Option Id} (known : ∀ id ∈ plan, stores.HasDrawn id) (status : ReservationStatus)
    (stay : Stay) (now : Instant) :
    (stores.addReservation hotel roomType plan status stay now).2.Orderly := by
  have drawn := orderly.drawOne
  refine { drawn with reservations := fun entry member => ?_, reservationsApart := ?_ }
  · rcases List.mem_append.mp member with old | new
    · exact drawn.reservations entry old
    · obtain rfl := List.mem_singleton.mp new
      exact ⟨hasDrawn_rest stores, fun id named => Nat.lt_succ_of_lt (known id named)⟩
  · rw [Stores.addReservation, List.map_append]
    refine nodup_append_next orderly.reservationsApart fun id member => ?_
    obtain ⟨entry, present, rfl⟩ := List.mem_map.mp member
    exact (orderly.reservations entry present).1

/-- **Order.** Ids and keys are in order in all stores that can be reached. -/
theorem Reachable.orderly (reached : stores.Reachable) : stores.Orderly := by
  induction reached with
  | empty =>
      exact {
        plans := fun _ member => nomatch member
        homes := fun _ member => nomatch member
        homesApart := List.nodup_nil
        overrides := fun _ member => nomatch member
        overridesApart := List.nodup_nil
        inventory := fun _ member => nomatch member
        inventoryApart := List.nodup_nil
        reservations := fun _ member => nomatch member
        reservationsApart := List.nodup_nil }
  | organization _ orderly => exact orderly.drawOne
  | hotel _ organization orderly => exact { orderly.drawOne with }
  | roomType _ hotel name rooms orderly => exact orderly.addRoomType hotel name rooms
  | revised _ directory same orderly =>
      refine orderly.withDirectory ?_ ?_ ?_
      · rw [same]
        exact orderly.homes
      · rw [same]
        exact orderly.homesApart
      · rw [same]
        exact fun _ member => member
  | reservation _ hotel roomType plan status stay now known orderly =>
      exact orderly.addReservation hotel roomType known status stay now
  | called _ event orderly => exact orderly.step (event.step _)

end Stores

end Lodging
