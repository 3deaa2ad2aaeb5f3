import Lodging.Proofs.Service.Course
import Lodging.Proofs.Tenancy.Reach

/-! # Calls that write to the ledger

A call for writes to the ledger is refused and makes none of them, or it has passed all of
its checks and makes the first of them, up to one after which what is available cannot be
computed (`Lodging.Event.inventoryMade?`). It breaks off exactly if there is such a one
(`Lodging.Event.breaksOff_eq_false_iff`). Whatever a ledger holds that was empty is as its
last write has left it (`Lodging.Course.mem_writtenRows`).
-/

namespace Lodging

/-- A step leaves the ledger, or the call has asked for what it writes there. -/
theorem Step.inventory_cases {before after : Stores} {event : Event}
    (step : Step before event after) :
    after.inventory = before.inventory ∨
      ∃ roomType patches rooms, event.call.inventoryWrites? = some (roomType, patches) ∧
        after = (before.writeInventories roomType patches rooms event.circumstance.now).2 := by
  cases step with
  | idle => exact .inl rfl
  | planned _ elsewhere =>
      rw [elsewhere]
      exact .inl rfl
  | overrideWritten => exact .inl rfl
  | overridesWritten circumstance hotel plan patches =>
      rw [Stores.onlyOverridesDiffer_writeOverrides before plan patches circumstance.now]
      exact .inl rfl
  | overrideRemoved => exact .inl rfl
  | inventoryWritten circumstance hotel roomType rooms patch =>
      exact .inr ⟨roomType, [patch], rooms, rfl, (Stores.writeInventories_singleton patch).symm⟩
  | inventoriesWritten circumstance hotel roomType rooms patches =>
      exact .inr ⟨roomType, patches, rooms, rfl, rfl⟩
  | statusSet => exact .inl rfl

/-- Calls for other things leave the ledger. -/
theorem Step.inventory_eq {before after : Stores} {event : Event}
    (step : Step before event after) (unwritten : event.call.inventoryWrites? = none) :
    after.inventory = before.inventory := by
  rcases step.inventory_cases with same | ⟨_, _, _, asked, _⟩
  · exact same
  · rw [unwritten] at asked
    exact nomatch asked

namespace Event

/-! ## The writes that a call makes -/

/-- The writes to the ledger that a call makes, and the room type that they are for; a call
that is refused makes none. -/
def inventoryMade? (event : Event) (backend : Backend) : Option (Id × List InventoryPatch) :=
  if event.isRefused backend then none
  else event.call.inventoryWrites?.map fun (roomType, patches) =>
    (roomType, backend.stores.madeOf roomType (backend.stores.directory.sellableRooms roomType)
      event.circumstance.now patches)

/-- The rows that a call writes; what is available is computed anew in each of them. -/
def writtenRows (event : Event) (backend : Backend) : List InventoryRow :=
  match event.inventoryMade? backend with
  | some (roomType, made) =>
      backend.stores.writtenRows roomType (backend.stores.directory.sellableRooms roomType)
        event.circumstance.now made
  | none => []

variable {event : Event} {backend : Backend} {roomType : Id} {patches : List InventoryPatch}

/-- A call that is not refused has been admitted with all its writes, and breaks off unless
every one of them is made. -/
theorem after_of_inventoryWrites (asked : event.call.inventoryWrites? = some (roomType, patches))
    (proceeding : event.isRefused backend = false) :
    backend.stores.AdmitsInventory event.call.hotel roomType
        (backend.stores.directory.sellableRooms roomType) patches ∧
      (event.after backend).stores = (backend.stores.writeInventories roomType patches
        (backend.stores.directory.sellableRooms roomType) event.circumstance.now).2 ∧
      (event.breaksOff backend = false ↔ (backend.stores.writeInventories roomType patches
        (backend.stores.directory.sellableRooms roomType) event.circumstance.now).1 =
          some ()) := by
  have proceeds := proceeds_of_not_refused proceeding
  rw [breaksOff, after]
  obtain ⟨call, circumstance⟩ := event
  rcases outcome : call.perform.run circumstance backend with ⟨ended, after⟩
  rw [outcome] at proceeds
  cases call with
  | putInventory hotel own patch =>
      obtain ⟨rfl, rfl⟩ := Prod.mk.inj (Option.some.inj asked)
      obtain ⟨rooms, admitted, written⟩ := Inventory.put_written proceeds outcome
      obtain rfl := admitted.counted
      refine ⟨admitted, ?_⟩
      rw [Service.run_computed] at written
      obtain ⟨rfl, rfl⟩ := Prod.mk.inj written
      rw [Stores.writeInventories]
      rcases backend.stores.writeInventory own patch _ circumstance.now with ⟨_ | row, after⟩
      · exact ⟨rfl, iff_of_false Bool.false_ne_true.symm (Option.some_ne_none ()).symm⟩
      · exact ⟨rfl, iff_of_true rfl rfl⟩
  | putInventories hotel own patches =>
      obtain ⟨rfl, rfl⟩ := Prod.mk.inj (Option.some.inj asked)
      obtain ⟨_, rooms, admitted, written⟩ := Inventory.putAll_written proceeds outcome
      obtain rfl := admitted.counted
      refine ⟨admitted, ?_⟩
      rw [Service.run_bind, Service.run_computed] at written
      rcases made : backend.stores.writeInventories own patches _ circumstance.now with
        ⟨_ | _, after⟩
      · rw [made] at written
        obtain ⟨rfl, rfl⟩ := Prod.mk.inj written
        exact ⟨rfl, iff_of_false Bool.false_ne_true.symm (Option.some_ne_none ()).symm⟩
      · rw [made] at written
        obtain ⟨rfl, rfl⟩ := Prod.mk.inj written
        exact ⟨rfl, iff_of_true rfl rfl⟩
  | _ => cases asked

/-- What is made is the first of what a call asks for that is not refused. -/
theorem of_inventoryMade? {made : List InventoryPatch}
    (writes : event.inventoryMade? backend = some (roomType, made)) :
    ∃ patches, event.call.inventoryWrites? = some (roomType, patches) ∧
      event.isRefused backend = false ∧
      made = backend.stores.madeOf roomType (backend.stores.directory.sellableRooms roomType)
        event.circumstance.now patches := by
  rw [inventoryMade?] at writes
  split at writes
  · exact nomatch writes
  · obtain ⟨⟨own, patches⟩, asked, same⟩ := Option.map_eq_some_iff.mp writes
    obtain ⟨rfl, rfl⟩ := Prod.mk.inj same
    exact ⟨patches, asked, Bool.eq_false_iff.mpr ‹_›, rfl⟩

/-- A call that is accepted makes all writes that it asks for. -/
theorem inventoryMade?_of_isAccepted (asked : event.call.inventoryWrites? = some (roomType, patches))
    (accepted : event.isAccepted backend = true) :
    event.inventoryMade? backend = some (roomType, patches) := by
  have proceeding := not_refused_of_isAccepted accepted
  have made := (after_of_inventoryWrites asked proceeding).2.2.mp
    (not_breaksOff_of_isAccepted accepted)
  rw [inventoryMade?, proceeding, if_neg Bool.false_ne_true, asked, Option.map_some]
  exact congrArg (fun made => some (roomType, made)) (Stores.madeOf_eq_self made)

/-- A call leaves what the writes leave that it makes. -/
theorem stores_of_inventoryMade? {made : List InventoryPatch}
    (writes : event.inventoryMade? backend = some (roomType, made)) :
    (event.after backend).stores = backend.stores.mergeInventories roomType
      (backend.stores.directory.sellableRooms roomType) event.circumstance.now made := by
  obtain ⟨patches, asked, proceeding, rfl⟩ := of_inventoryMade? writes
  exact (after_of_inventoryWrites asked proceeding).2.1.trans Stores.writeInventories_snd

/-- A call that makes no writes to the ledger leaves it. -/
theorem inventory_of_unmade (unmade : event.inventoryMade? backend = none) :
    (event.after backend).stores.inventory = backend.stores.inventory := by
  cases refused : event.isRefused backend with
  | true => rw [stores_of_refused refused]
  | false =>
      rw [inventoryMade?, refused, if_neg Bool.false_ne_true, Option.map_eq_none_iff] at unmade
      exact (event.step backend).inventory_eq unmade

/-- A call breaks off unless what is available can be computed in each row that it writes. -/
theorem breaksOff_eq_false_iff :
    event.breaksOff backend = false ↔
      ∀ row ∈ event.writtenRows backend, row.available?.isSome := by
  rw [writtenRows]
  cases writes : event.inventoryMade? backend with
  | some writes? =>
      obtain ⟨roomType, made⟩ := writes?
      obtain ⟨patches, asked, proceeding, rfl⟩ := of_inventoryMade? writes
      exact (after_of_inventoryWrites asked proceeding).2.2.trans Stores.writeInventories_fst
  | none =>
      refine iff_of_true ?_ fun _ member => nomatch member
      cases refused : event.isRefused backend with
      | true => exact not_breaksOff_of_refused refused
      | false =>
          rw [inventoryMade?, refused, if_neg Bool.false_ne_true, Option.map_eq_none_iff] at writes
          exact not_breaksOff_of_unwritten writes

end Event

/-! ## What a ledger holds -/

/-- A row of the ledger was there before several writes, or one of them has left it. -/
theorem Stores.mem_mergeInventories {stores : Stores} {roomType : Id} {rooms : Int}
    {now : Instant} {patches : List InventoryPatch} {row : InventoryRow}
    (member : row ∈ (stores.mergeInventories roomType rooms now patches).inventory) :
    row ∈ stores.inventory ∨ row ∈ stores.writtenRows roomType rooms now patches := by
  induction patches generalizing stores with
  | nil => exact .inl member
  | cons patch rest ih =>
      rcases ih member with earlier | later
      · rcases mem_upsert_getD earlier with old | written
        · exact .inl old
        · exact .inr (List.mem_cons.mpr (.inl written))
      · exact .inr (List.mem_cons_of_mem _ later)

/-- A row of the ledger was there before a call, or the call has written it. -/
theorem Event.mem_writtenRows {event : Event} {backend : Backend} {row : InventoryRow}
    (member : row ∈ (event.after backend).stores.inventory) :
    row ∈ backend.stores.inventory ∨ row ∈ event.writtenRows backend := by
  rw [writtenRows]
  cases writes : event.inventoryMade? backend with
  | none =>
      rw [inventory_of_unmade writes] at member
      exact .inl member
  | some made =>
      rw [stores_of_inventoryMade? writes] at member
      exact Stores.mem_mergeInventories member

namespace Course

variable {course : Course} {start : Backend}

/-- Each row of a ledger that was empty is as its last write has left it. -/
theorem mem_writtenRows (unwritten : start.stores.inventory = []) {row : InventoryRow}
    (member : row ∈ (course.after start).stores.inventory) :
    row ∈ course.notes Event.writtenRows start := by
  suffices kept : row ∈ start.stores.inventory ∨ row ∈ course.notes Event.writtenRows start by
    rw [unwritten] at kept
    exact kept.resolve_left (List.not_mem_nil)
  clear unwritten
  induction course generalizing start with
  | nil => exact .inl member
  | cons occurrence rest ih =>
      cases occurrence with
      | called event =>
          rcases ih member with earlier | later
          · exact (Event.mem_writtenRows earlier).imp_right (List.mem_append_left _)
          · exact .inr (List.mem_append_right _ later)
      | revised directory => exact ih member

/-- A course is unbroken exactly if what is available can be computed in each row that it
writes. -/
theorem isUnbroken_iff :
    course.IsUnbroken start ↔
      ∀ row ∈ course.notes Event.writtenRows start, row.available?.isSome := by
  refine forall_notes_iff (fun event backend => ?_) course start
  rw [List.forall_mem_singleton, Event.breaksOff_eq_false_iff]

end Course

end Lodging
