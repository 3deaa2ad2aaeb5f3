import Lodging.Proofs.Registry.Step

/-! # What calls do to the stores

`Lodging.Step` says for every call what it can do to the stores and what has been
checked before, and `Lodging.Event.step` that no call does anything else. It is
derived from two things: a call that is refused leaves the stores as they were, and one
that gives an answer or breaks off has passed each of its checks. What it does to the
plans alone is `Lodging.Event.registryStep`.
-/

namespace Lodging

/-- Writes to the ledger have been checked: each by itself, and merged into the row
that was there before the first of them. -/
structure Stores.AdmitsInventory (stores : Stores) (hotel roomType : Id) (rooms : Int)
    (patches : List InventoryPatch) : Prop where
  housed : (stores.directory.roomType? hotel roomType).isSome
  counted : stores.directory.sellableRooms roomType = rooms
  inRange : Inventory.Fits rooms
  faultless : ∀ patch ∈ patches, patch.faults = []
  bounded : ∀ patch ∈ patches, patch.reversedBounds? = none
  merged : ∀ patch ∈ patches,
    patch.reversedMerged? (stores.inventory? roomType patch.date) = none

/-- What is admitted as a whole is admitted in part. -/
theorem Stores.AdmitsInventory.of_subset {stores : Stores} {hotel roomType : Id} {rooms : Int}
    {patches part : List InventoryPatch}
    (admitted : stores.AdmitsInventory hotel roomType rooms patches) (subset : part ⊆ patches) :
    stores.AdmitsInventory hotel roomType rooms part where
  housed := admitted.housed
  counted := admitted.counted
  inRange := admitted.inRange
  faultless patch member := admitted.faultless patch (subset member)
  bounded patch member := admitted.bounded patch (subset member)
  merged patch member := admitted.merged patch (subset member)

/-- What a call can do to the stores, with all that it has checked before. -/
inductive Step (before : Stores) : Event → Stores → Prop where
  /-- The call is refused, or there is nothing for it to change. -/
  | idle (event : Event) : Step before event before
  /-- A plan is made, revised or deleted. -/
  | planned {event : Event} {after : Stores} (step : RegistryStep before event after)
      (elsewhere : after.OnlyPlansDiffer before) :
      Step before event after
  /-- An override is written. -/
  | overrideWritten (circumstance : Circumstance) (hotel plan : Id) (patch : OverridePatch)
      (found : (before.plan? hotel plan).isSome) (faultless : patch.faults = []) :
      Step before ⟨.putOverride hotel plan patch, circumstance⟩
        (before.writeOverride plan patch circumstance.now).2
  /-- Several overrides are written. -/
  | overridesWritten (circumstance : Circumstance) (hotel plan : Id)
      (patches : List OverridePatch) (found : (before.plan? hotel plan).isSome)
      (listed : OverridePatch.listFaults patches = [])
      (faultless : ∀ patch ∈ patches, patch.faults = []) :
      Step before ⟨.putOverrides hotel plan patches, circumstance⟩
        (before.writeOverrides plan patches circumstance.now)
  /-- An override is removed. -/
  | overrideRemoved (circumstance : Circumstance) (hotel plan : Id) (date : Date)
      (found : (before.plan? hotel plan).isSome)
      (stored : (before.override? plan date).isSome) :
      Step before ⟨.deleteOverride hotel plan date, circumstance⟩
        (before.deleteOverride plan date)
  /-- A row of the ledger is written, even if the call then breaks off. -/
  | inventoryWritten (circumstance : Circumstance) (hotel roomType : Id) (rooms : Int)
      (patch : InventoryPatch) (admitted : before.AdmitsInventory hotel roomType rooms [patch]) :
      Step before ⟨.putInventory hotel roomType patch, circumstance⟩
        (before.writeInventory roomType patch rooms circumstance.now).2
  /-- Several rows of the ledger are written, all or those up to the one at which the call
  breaks off. -/
  | inventoriesWritten (circumstance : Circumstance) (hotel roomType : Id) (rooms : Int)
      (patches : List InventoryPatch) (listed : InventoryPatch.listFaults patches = [])
      (admitted : before.AdmitsInventory hotel roomType rooms patches) :
      Step before ⟨.putInventories hotel roomType patches, circumstance⟩
        (before.writeInventories roomType patches rooms circumstance.now).2
  /-- A reservation moves on to a status that follows the one it has. -/
  | statusSet (circumstance : Circumstance) (hotel id : Id) (status : ReservationStatus)
      (reservation : Reservation) (found : before.reservation? hotel id = some reservation)
      (leads : reservation.status.leadsTo status = true) :
      Step before ⟨.setStatus hotel id status, circumstance⟩
        (before.changeReservation hotel id fun _ =>
          { reservation with status, updatedAt := circumstance.now })

/-! ## What writes leave alone -/

namespace Stores

/-- Stores differ in nothing but the overrides and the ids that have been drawn. -/
def OnlyOverridesDiffer (after before : Stores) : Prop :=
  after = { before with overrides := after.overrides, supply := after.supply }

/-- Stores differ in nothing but the ledger and the ids that have been drawn. -/
def OnlyInventoryDiffers (after before : Stores) : Prop :=
  after = { before with inventory := after.inventory, supply := after.supply }

theorem onlyOverridesDiffer_writeOverrides (stores : Stores) (plan : Id)
    (patches : List OverridePatch) (now : Instant) :
    (stores.writeOverrides plan patches now).OnlyOverridesDiffer stores := by
  induction patches generalizing stores with
  | nil => rfl
  | cons patch rest ih => exact ih (stores.writeOverride plan patch now).2

theorem onlyInventoryDiffers_writeInventories (stores : Stores) (roomType : Id)
    (patches : List InventoryPatch) (totalRooms : Int) (now : Instant) :
    (stores.writeInventories roomType patches totalRooms now).2.OnlyInventoryDiffers stores := by
  refine writeInventories_induction (·.OnlyInventoryDiffers stores) ?_ rfl
  intro patch _ between differs
  rw [OnlyInventoryDiffers] at differs
  rw [differs]
  rfl

end Stores

namespace Service

variable {circumstance : Circumstance} {backend after : Backend}

theorem run_roomType_ok {hotel id : Id} {answer : RoomType} :
    run (roomType hotel id) circumstance backend = (.ok answer, after) ↔
      circumstance.reachable .directory = true ∧
        backend.stores.directory.roomType? hotel id = some answer ∧ after = backend := by
  simp only [roomType, run_bind_ok, run_consult_ok, run_require_ok]
  constructor
  · rintro ⟨_, _, ⟨answered, rfl, rfl⟩, found, rfl⟩
    exact ⟨answered, found, rfl⟩
  · rintro ⟨answered, found, rfl⟩
    exact ⟨_, _, ⟨answered, rfl, rfl⟩, found, rfl⟩

/-- A check of every value gives an answer when each of them passes. -/
theorem run_forM_ok {α : Type} {part : α → Service PUnit} (passes : α → Prop)
    (own : ∀ value after, run (part value) circumstance backend = (.ok ⟨⟩, after) →
      passes value ∧ after = backend)
    {values : List α} (success : run (values.forM part) circumstance backend = (.ok ⟨⟩, after)) :
    (∀ value ∈ values, passes value) ∧ after = backend := by
  induction values with
  | nil => exact ⟨fun _ member => (nomatch member), (run_pure_ok.mp success).2⟩
  | cons value rest ih =>
      obtain ⟨_, between, first, others⟩ := run_bind_ok.mp success
      obtain ⟨passed, rfl⟩ := own value between first
      obtain ⟨passes, rfl⟩ := ih others
      exact ⟨List.forall_mem_cons.mpr ⟨passed, passes⟩, rfl⟩

/-- A sequence goes on after a part that gives an answer. -/
theorem run_bind_of_ok {α β : Type} {first : Service α} {next : α → Service β} {value : α}
    {between : Backend} (done : run first circumstance backend = (.ok value, between)) :
    run (first >>= next) circumstance backend = run (next value) circumstance between := by
  rw [run_bind, done]

theorem run_forM_of_ok {α : Type} {part : α → Service PUnit} {values : List α}
    (done : ∀ value ∈ values, run (part value) circumstance backend = (.ok ⟨⟩, backend)) :
    run (values.forM part) circumstance backend = (.ok ⟨⟩, backend) := by
  induction values with
  | nil => rfl
  | cons value rest ih =>
      obtain ⟨own, others⟩ := List.forall_mem_cons.mp done
      exact (run_bind_of_ok own).trans (ih others)

end Service

/-! ## Overrides -/

namespace Overrides

open Service

variable {circumstance : Circumstance} {backend after : Backend} {hotel plan : Id}

/-- Overrides of the plan can be written: the stores that are needed answer, and it is a
live plan of the hotel. -/
def CanWrite (circumstance : Circumstance) (backend : Backend) (hotel plan : Id) : Prop :=
  circumstance.reachable .ratePlans = true ∧ (backend.stores.plan? hotel plan).isSome = true ∧
    circumstance.reachable .overrides = true

/-- A write is accepted exactly when it has no fault and overrides of the plan can be
written. -/
theorem run_put_ok {patch : OverridePatch} {row : RateOverride} :
    run (put hotel plan patch) circumstance backend = (.ok row, after) ↔
      (patch.faults = [] ∧ CanWrite circumstance backend hotel plan) ∧
        row = (backend.stores.writeOverride plan patch circumstance.now).1 ∧
        after = { backend with
          stores := (backend.stores.writeOverride plan patch circumstance.now).2 } := by
  simp only [put, run_bind_ok, run_refuseFaults_ok, RatePlans.run_get_ok, run_now_ok,
    run_write_ok]
  constructor
  · rintro ⟨_, _, ⟨faultless, rfl⟩, _, _, ⟨reached, found, rfl⟩, _, _, ⟨rfl, rfl⟩, writable,
      rfl, rfl⟩
    exact ⟨⟨faultless, reached, Option.isSome_of_eq_some found, writable⟩, rfl, rfl⟩
  · rintro ⟨⟨faultless, reached, found, writable⟩, rfl, rfl⟩
    obtain ⟨_, found⟩ := Option.isSome_iff_exists.mp found
    exact ⟨(), _, ⟨faultless, rfl⟩, _, _, ⟨reached, found, rfl⟩, _, _, ⟨rfl, rfl⟩, writable, rfl,
      rfl⟩

theorem put_ok {patch : OverridePatch} {row : RateOverride}
    (success : run (put hotel plan patch) circumstance backend = (.ok row, after)) :
    Step backend.stores ⟨.putOverride hotel plan patch, circumstance⟩ after.stores := by
  obtain ⟨⟨faultless, _, found, _⟩, _, rfl⟩ := run_put_ok.mp success
  exact .overrideWritten circumstance hotel plan patch found faultless

/-- Several writes are accepted exactly when there are some, none has a fault and
overrides of the plan can be written. -/
theorem run_putAll_ok {patches : List OverridePatch} {count : Nat} :
    run (putAll hotel plan patches) circumstance backend = (.ok count, after) ↔
      (OverridePatch.listFaults patches = [] ∧ (∀ patch ∈ patches, patch.faults = []) ∧
        CanWrite circumstance backend hotel plan) ∧
        count = patches.length ∧
        after = { backend with
          stores := backend.stores.writeOverrides plan patches circumstance.now } := by
  simp only [putAll, run_bind_ok, run_refuseFaults_ok, RatePlans.run_get_ok, run_now_ok,
    run_write_ok]
  constructor
  · rintro ⟨_, _, ⟨listed, rfl⟩, _, _, checked, _, _, ⟨reached, found, rfl⟩, _, _, ⟨rfl, rfl⟩,
      writable, rfl, rfl⟩
    obtain ⟨faultless, rfl⟩ := run_forM_ok (fun patch : OverridePatch => patch.faults = [])
      (fun _ _ passed => run_refuseFaults_ok.mp passed) checked
    exact ⟨⟨listed, faultless, reached, Option.isSome_of_eq_some found, writable⟩, rfl, rfl⟩
  · rintro ⟨⟨listed, faultless, reached, found, writable⟩, rfl, rfl⟩
    obtain ⟨_, found⟩ := Option.isSome_iff_exists.mp found
    have checked : run (patches.forM fun patch => refuseFaults patch.faults) circumstance
        backend = (.ok ⟨⟩, backend) :=
      run_forM_of_ok fun patch member => run_refuseFaults_ok.mpr ⟨faultless patch member, rfl⟩
    exact ⟨(), _, ⟨listed, rfl⟩, _, _, checked, _, _, ⟨reached, found, rfl⟩, _, _, ⟨rfl, rfl⟩,
      writable, rfl, rfl⟩

theorem putAll_ok {patches : List OverridePatch} {count : Nat}
    (success : run (putAll hotel plan patches) circumstance backend = (.ok count, after)) :
    Step backend.stores ⟨.putOverrides hotel plan patches, circumstance⟩ after.stores := by
  obtain ⟨⟨listed, faultless, _, found, _⟩, _, rfl⟩ := run_putAll_ok.mp success
  exact .overridesWritten circumstance hotel plan patches found listed faultless

/-- A removal that is accepted has found the override. -/
theorem delete_written {date : Date} {answer : Unit}
    (success : run (delete hotel plan date) circumstance backend = (.ok answer, after)) :
    ((backend.stores.plan? hotel plan).isSome ∧ (backend.stores.override? plan date).isSome) ∧
      after = { backend with stores := backend.stores.deleteOverride plan date } := by
  simp only [delete, run_bind_ok, RatePlans.run_get_ok, run_write_ok, run_ite_ok, run_fail_ok,
    and_false, false_or, run_pure_ok] at success
  obtain ⟨_, _, ⟨_, found, rfl⟩, _, _, ⟨_, rfl, rfl⟩, stored, _, rfl⟩ := success
  rw [Option.isNone_iff_eq_none, ← ne_eq, ← Option.isSome_iff_ne_none] at stored
  exact ⟨⟨Option.isSome_of_eq_some found, stored⟩, rfl⟩

theorem delete_ok {date : Date} {answer : Unit}
    (success : run (delete hotel plan date) circumstance backend = (.ok answer, after)) :
    Step backend.stores ⟨.deleteOverride hotel plan date, circumstance⟩ after.stores := by
  obtain ⟨⟨found, stored⟩, rfl⟩ := delete_written success
  exact .overrideRemoved circumstance hotel plan date found stored

end Overrides

/-! ## The ledger -/

namespace Inventory

open Service

variable {circumstance : Circumstance} {backend after : Backend} {hotel roomType : Id}

theorem checkPatch_ok {patch : InventoryPatch} {answer : Unit}
    (success : run (checkPatch patch) circumstance backend = (.ok answer, after)) :
    (patch.faults = [] ∧ patch.reversedBounds? = none) ∧ after = backend := by
  simp only [checkPatch, run_bind_ok, run_refuseFaults_ok, run_refuse_ok,
    Option.map_eq_none_iff] at success
  obtain ⟨_, _, ⟨faultless, rfl⟩, bounded, rfl⟩ := success
  exact ⟨⟨faultless, bounded⟩, rfl⟩

theorem sellableRooms_ok {rooms : Int}
    (success : run (sellableRooms roomType) circumstance backend = (.ok rooms, after)) :
    backend.stores.directory.sellableRooms roomType = rooms ∧
      Fits rooms ∧ after = backend := by
  simp only [sellableRooms, run_bind_ok, run_consult_ok, run_ite_ok, run_pure_ok, run_fail_ok,
    and_false, or_false] at success
  obtain ⟨_, _, ⟨_, rfl, rfl⟩, inRange, rfl, rfl⟩ := success
  exact ⟨rfl, inRange, rfl⟩

/-- After the checks of the writes alone, one write and several go on alike: a call that is
not refused has found the room type, has found no flaw in what it compares, has counted the
rooms and has written. -/
theorem written_of_proceeds {α β γ : Type} {ask : Stores → α} {flaw : α → Option Problem}
    {change : Int → Instant → Stores → β × Stores} {next : β → Service γ}
    {outcome : Except Stop γ} (proceeds : Proceeds outcome)
    (ran : run (do
        let _ ← Service.roomType hotel roomType
        let stored ← consult .inventory ask
        refuse (flaw stored)
        let rooms ← sellableRooms roomType
        let now ← now
        let answer ← write .inventory (change rooms now)
        next answer) circumstance backend = (outcome, after)) :
    ∃ rooms, (backend.stores.directory.roomType? hotel roomType).isSome = true ∧
      backend.stores.directory.sellableRooms roomType = rooms ∧ Fits rooms ∧
      flaw (ask backend.stores) = none ∧
      run (next (change rooms circumstance.now backend.stores).1) circumstance
        { backend with stores := (change rooms circumstance.now backend.stores).2 } =
          (outcome, after) := by
  replace ran := (isQuery_roomType _ _).of_run_bind proceeds ran
  obtain ⟨_, _, found, ran⟩ := ran
  obtain ⟨_, housed, rfl⟩ := run_roomType_ok.mp found
  replace ran := (isQuery_consult _ _).of_run_bind proceeds ran
  obtain ⟨_, _, asked, ran⟩ := ran
  obtain ⟨_, rfl, rfl⟩ := run_consult_ok.mp asked
  replace ran := (isQuery_refuse _).of_run_bind proceeds ran
  obtain ⟨_, _, compared, ran⟩ := ran
  obtain ⟨flawless, rfl⟩ := run_refuse_ok.mp compared
  replace ran := (isQuery_sellableRooms _).of_run_bind proceeds ran
  obtain ⟨rooms, _, counted, ran⟩ := ran
  obtain ⟨counted, inRange, rfl⟩ := sellableRooms_ok counted
  replace ran := isQuery_now.of_run_bind proceeds ran
  obtain ⟨_, _, timed, ran⟩ := ran
  obtain ⟨rfl, rfl⟩ := run_now_ok.mp timed
  exact ⟨rooms, Option.isSome_of_eq_some housed, counted, inRange, flawless,
    of_run_write_bind proceeds ran⟩

/-- A single write that is not refused has been admitted, and is made. -/
theorem put_written {patch : InventoryPatch} {outcome : Except Stop InventoryRow}
    (proceeds : Proceeds outcome)
    (ran : run (put hotel roomType patch) circumstance backend = (outcome, after)) :
    ∃ rooms, backend.stores.AdmitsInventory hotel roomType rooms [patch] ∧
      (outcome, after) = run
        (computed (backend.stores.writeInventory roomType patch rooms circumstance.now).1)
        circumstance { backend with
          stores := (backend.stores.writeInventory roomType patch rooms circumstance.now).2 } := by
  replace ran := (isQuery_checkPatch _).of_run_bind proceeds ran
  obtain ⟨_, _, checked, ran⟩ := ran
  obtain ⟨⟨faultless, bounded⟩, rfl⟩ := checkPatch_ok checked
  obtain ⟨rooms, housed, counted, inRange, merged, ran⟩ := written_of_proceeds proceeds ran
  refine ⟨rooms, ?_, ran.symm⟩
  exact {
    housed
    counted
    inRange
    faultless := List.forall_mem_singleton.mpr faultless
    bounded := List.forall_mem_singleton.mpr bounded
    merged := List.forall_mem_singleton.mpr (Option.map_eq_none_iff.mp merged) }

/-- A single write that is not refused is a step. -/
theorem put_step {patch : InventoryPatch} {outcome : Except Stop InventoryRow}
    (proceeds : Proceeds outcome)
    (ran : run (put hotel roomType patch) circumstance backend = (outcome, after)) :
    Step backend.stores ⟨.putInventory hotel roomType patch, circumstance⟩ after.stores := by
  obtain ⟨rooms, admitted, written⟩ := put_written proceeds ran
  rw [run_computed] at written
  obtain ⟨_, rfl⟩ := Prod.mk.inj written
  exact .inventoryWritten circumstance hotel roomType rooms patch admitted

/-- Several writes that are not refused have been admitted as a whole, and are made as far as
what is available can be computed. -/
theorem putAll_written {patches : List InventoryPatch} {outcome : Except Stop Nat}
    (proceeds : Proceeds outcome)
    (ran : run (putAll hotel roomType patches) circumstance backend = (outcome, after)) :
    InventoryPatch.listFaults patches = [] ∧
      ∃ rooms, backend.stores.AdmitsInventory hotel roomType rooms patches ∧
        (outcome, after) = run
          (do
            computed
              (backend.stores.writeInventories roomType patches rooms circumstance.now).1
            pure patches.length)
          circumstance { backend with
            stores :=
              (backend.stores.writeInventories roomType patches rooms circumstance.now).2 } := by
  replace ran := (isQuery_refuseFaults _).of_run_bind proceeds ran
  obtain ⟨_, _, faultless, ran⟩ := ran
  obtain ⟨listed, rfl⟩ := run_refuseFaults_ok.mp faultless
  replace ran := (isQuery_forM isQuery_checkPatch patches).of_run_bind proceeds ran
  obtain ⟨_, _, checked, ran⟩ := ran
  obtain ⟨passed, rfl⟩ := run_forM_ok
    (fun patch : InventoryPatch => patch.faults = [] ∧ patch.reversedBounds? = none)
    (fun _ _ passed => checkPatch_ok passed) checked
  obtain ⟨rooms, housed, counted, inRange, merged, ran⟩ := written_of_proceeds proceeds ran
  refine ⟨listed, rooms, ?_, ran.symm⟩
  exact {
    housed
    counted
    inRange
    faultless := fun patch member => (passed patch member).1
    bounded := fun patch member => (passed patch member).2
    merged := List.findSome?_eq_none_iff.mp (Option.map_eq_none_iff.mp merged) }

/-- Several writes that are not refused are a step. -/
theorem putAll_step {patches : List InventoryPatch} {outcome : Except Stop Nat}
    (proceeds : Proceeds outcome)
    (ran : run (putAll hotel roomType patches) circumstance backend = (outcome, after)) :
    Step backend.stores ⟨.putInventories hotel roomType patches, circumstance⟩ after.stores := by
  obtain ⟨listed, rooms, admitted, written⟩ := putAll_written proceeds ran
  rw [run_bind, run_computed] at written
  have same : after.stores =
      (backend.stores.writeInventories roomType patches rooms circumstance.now).2 := by
    have left := congrArg (·.2.stores) written
    cases made : (backend.stores.writeInventories roomType patches rooms circumstance.now).1 <;>
      rwa [made] at left
  rw [same]
  exact .inventoriesWritten circumstance hotel roomType rooms patches listed admitted

end Inventory

/-! ## Reservations -/

namespace Reservations

open Service

variable {circumstance : Circumstance} {backend after : Backend} {hotel id : Id}

theorem run_get_ok {reservation : Reservation} :
    run (get hotel id) circumstance backend = (.ok reservation, after) ↔
      circumstance.reachable .reservations = true ∧
        backend.stores.reservation? hotel id = some reservation ∧ after = backend := by
  simp only [get, run_bind_ok, run_consult_ok, run_require_ok]
  constructor
  · rintro ⟨_, _, ⟨answered, rfl, rfl⟩, found, rfl⟩
    exact ⟨answered, found, rfl⟩
  · rintro ⟨answered, found, rfl⟩
    exact ⟨_, _, ⟨answered, rfl, rfl⟩, found, rfl⟩

/-- A status is set exactly if the reservation is found and may have it; then the reservation
has it, and is written unless it had it before. -/
theorem run_setStatus_ok {status : ReservationStatus} {reservation : Reservation} :
    run (setStatus hotel id status) circumstance backend = (.ok reservation, after) ↔
      circumstance.reachable .reservations = true ∧
        ∃ stored, backend.stores.reservation? hotel id = some stored ∧
          stored.status.allows status = true ∧
          if status = stored.status then reservation = stored ∧ after = backend
          else reservation = { stored with status, updatedAt := circumstance.now } ∧
            after = { backend with
              stores := backend.stores.changeReservation hotel id fun _ => reservation } := by
  simp only [setStatus, run_bind_ok, run_get_ok, run_accept_ok, run_ite_ok, run_pure_ok,
    run_now_ok, run_write_ok, ReservationStatus.change]
  constructor
  · rintro ⟨stored, _, ⟨answered, found, rfl⟩, _, _, ⟨changed, rfl⟩, rest⟩
    split at changed
    · rename_i allowed
      obtain rfl := Except.ok.inj changed
      refine ⟨answered, stored, found, allowed, ?_⟩
      rcases rest with ⟨same, rfl, rfl⟩ | ⟨different, _, _, ⟨rfl, rfl⟩, _, rfl, rfl⟩
      · exact if_pos same ▸ ⟨rfl, rfl⟩
      · exact if_neg different ▸ ⟨rfl, rfl⟩
    · exact nomatch changed
  · rintro ⟨answered, stored, found, allowed, rest⟩
    refine ⟨stored, _, ⟨answered, found, rfl⟩, status, _, ⟨if_pos allowed, rfl⟩, ?_⟩
    split at rest
    next same =>
      obtain ⟨rfl, rfl⟩ := rest
      exact .inl ⟨same, rfl, rfl⟩
    next different =>
      obtain ⟨rfl, rfl⟩ := rest
      exact .inr ⟨different, _, _, ⟨rfl, rfl⟩, answered, rfl, rfl⟩

theorem setStatus_ok {status : ReservationStatus} {reservation : Reservation}
    (success : run (setStatus hotel id status) circumstance backend = (.ok reservation, after)) :
    Step backend.stores ⟨.setStatus hotel id status, circumstance⟩ after.stores := by
  obtain ⟨_, stored, found, allowed, rest⟩ := run_setStatus_ok.mp success
  split at rest
  next same =>
    obtain ⟨_, rfl⟩ := rest
    exact .idle _
  next different =>
    obtain ⟨rfl, rfl⟩ := rest
    rw [ReservationStatus.allows, Bool.or_eq_true, beq_iff_eq] at allowed
    exact .statusSet circumstance hotel id status stored found
      (allowed.resolve_left fun same => different same.symm)

end Reservations

/-! ## All calls -/

open Service in
/-- **Steps.** Whatever a call does to the stores is one of the steps. -/
theorem Event.step (event : Event) (backend : Backend) :
    Step backend.stores event (event.after backend).stores := by
  obtain ⟨call, circumstance⟩ := event
  have refused := call.isTraceless circumstance backend
  unfold Event.after
  dsimp only
  rcases outcome : run call.perform circumstance backend with ⟨ended, after⟩
  by_cases proceeds : Proceeds ended
  · cases asked : call.inventoryWrites? with
    | some writes =>
        cases call with
        | putInventory hotel roomType patch => exact Inventory.put_step proceeds outcome
        | putInventories hotel roomType patches => exact Inventory.putAll_step proceeds outcome
        | _ => exact nomatch asked
    | none =>
        have settled := (call.isAtomic asked).settles circumstance backend
        rw [outcome] at settled
        obtain ⟨answer, rfl⟩ := ok_of_proceeds proceeds settled
        cases call with
        | createPlan hotel request =>
            obtain ⟨made, elsewhere⟩ := RatePlans.create_ok outcome
            exact .planned made elsewhere
        | updatePlan hotel plan patch =>
            obtain ⟨revised, elsewhere⟩ := RatePlans.update_ok outcome
            exact .planned revised elsewhere
        | deletePlan hotel plan =>
            obtain ⟨deleted, elsewhere⟩ := RatePlans.delete_ok outcome
            exact .planned deleted elsewhere
        | putOverride hotel plan patch => exact Overrides.put_ok outcome
        | putOverrides hotel plan patches => exact Overrides.putAll_ok outcome
        | deleteOverride hotel plan date => exact Overrides.delete_ok outcome
        | setStatus hotel reservation status => exact Reservations.setStatus_ok outcome
        | putInventory => exact nomatch asked
        | putInventories => exact nomatch asked
        | getPlan | listPlans | applicablePlans | getOverrides | getInventory | checkAvailability
        | calculate | getReservation =>
            have same := congrArg (·.2.stores) outcome
            rw [(Call.isQuery _ rfl).stores] at same
            exact same ▸ .idle _
  · obtain ⟨problem, rfl⟩ := refused_of_not_proceeds proceeds
    rw [outcome] at refused
    rw [refused problem rfl]
    exact .idle _

/-- A call leaves the reservations as they are, or sets the status of the one it has found. -/
theorem Step.reservations_eq {before after : Stores} {event : Event}
    (step : Step before event after) :
    after.reservations = before.reservations ∨
      ∃ circumstance hotel id status reservation,
        event = ⟨.setStatus hotel id status, circumstance⟩ ∧
          before.reservation? hotel id = some reservation ∧
          reservation.status.leadsTo status = true ∧
          after = before.changeReservation hotel id fun _ =>
            { reservation with status, updatedAt := circumstance.now } := by
  cases step with
  | planned _ elsewhere => exact .inl (elsewhere ▸ rfl)
  | overridesWritten circumstance hotel plan patches =>
      rw [Stores.onlyOverridesDiffer_writeOverrides before plan patches circumstance.now]
      exact .inl rfl
  | inventoriesWritten circumstance hotel roomType rooms patches =>
      rw [Stores.onlyInventoryDiffers_writeInventories before roomType patches rooms
        circumstance.now]
      exact .inl rfl
  | statusSet circumstance hotel id status reservation found leads =>
      exact .inr ⟨circumstance, hotel, id, status, reservation, rfl, found, leads, rfl⟩
  | _ => exact .inl rfl

theorem Step.registryStep {before after : Stores} {event : Event}
    (step : Step before event after) : RegistryStep before event after := by
  cases step with
  | idle => exact .unmoved (.refl before)
  | planned step => exact step
  | overrideWritten circumstance hotel plan patch =>
      exact .unmoved (.writeOverride before plan patch circumstance.now)
  | overridesWritten circumstance hotel plan patches =>
      exact .unmoved (.writeOverrides before plan patches circumstance.now)
  | overrideRemoved => exact .unmoved ⟨rfl, rfl, Nat.le_refl _⟩
  | inventoryWritten circumstance hotel roomType rooms patch =>
      exact .unmoved (.writeInventory before roomType patch rooms circumstance.now)
  | inventoriesWritten circumstance hotel roomType rooms patches =>
      exact .unmoved (.writeInventories before roomType patches rooms circumstance.now)
  | statusSet => exact .unmoved ⟨rfl, rfl, Nat.le_refl _⟩

/-- **Steps of the registry.** Whatever a call does to the registry is one of the
steps. -/
theorem Event.registryStep (event : Event) (backend : Backend) :
    RegistryStep backend.stores event (event.after backend).stores :=
  (event.step backend).registryStep

end Lodging
