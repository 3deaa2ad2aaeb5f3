import Lodging.Proofs.Inventory.Counts

/-! # The ledger replays its writes

The writes to the row of a room type on a date are all that the row depends on: each field
has the value that the last of them has carried, and else what it starts with, which is the
number of rooms in the directory at the first of them for the rooms of the row
(`Lodging.InventoryRow.IsReplayOf`). What is available always follows from the counts as they
are, whichever of them the last write has carried, as long as the sum of the counts does not
overflow. Both hold after every course of calls, while rooms may be added and closed in
between (`Lodging.Course.inventory_replayed`). A call that breaks off has made its first
writes, and they count like all others.
-/

namespace Lodging

open Journal

/-! ## What is noted of a write -/

/-- A write to the row of a room type on a date. -/
structure InventoryWrite where
  patch : InventoryPatch
  /-- The rooms of the type that the directory counts at the time. -/
  rooms : Int
  /-- The time of the write. -/
  now : Instant
  /-- The id of the row, if there was none and the write makes it. -/
  id : Id

/-- How writes make a row. -/
def InventoryWrite.merging : Merging (Id × Date) InventoryWrite InventoryRow where
  fresh key write := .blank write.id key.1 key.2 write.rooms write.now
  change write row := write.patch.apply row write.now

/-- Several writes of one request, each with the id that it draws if it has to. -/
def Stores.inventoryJournal (stores : Stores) (roomType : Id) (rooms : Int) (now : Instant) :
    List InventoryPatch → Journal (Id × Date) InventoryWrite
  | [] => []
  | patch :: rest =>
      .written (roomType, patch.date) { patch, rooms, now, id := stores.supply.next } ::
        (stores.writeInventory roomType patch rooms now).2.inventoryJournal roomType rooms now rest

/-- What a call writes to the ledger; nothing if it is refused. -/
def Event.inventoryJournal (event : Event) (backend : Backend) :
    Journal (Id × Date) InventoryWrite :=
  match event.inventoryMade? backend with
  | some (roomType, made) =>
      backend.stores.inventoryJournal roomType
        (backend.stores.directory.sellableRooms roomType) event.circumstance.now made
  | none => []

/-! ## The row after a call -/

/-- The row of a room type on a date follows the writes one after another. -/
theorem Stores.inventory?_mergeInventories (stores : Stores) (roomType : Id)
    (patches : List InventoryPatch) (rooms : Int) (now : Instant) (key : Id × Date) :
    (stores.mergeInventories roomType rooms now patches).inventory? key.1 key.2 =
      (stores.inventoryJournal roomType rooms now patches).foldl
        (InventoryWrite.merging.enter key) (stores.inventory? key.1 key.2) := by
  induction patches generalizing stores with
  | nil => rfl
  | cons patch rest ih =>
      have entered : (stores.writeInventory roomType patch rooms now).2.inventory? key.1 key.2 =
          InventoryWrite.merging.enter key (stores.inventory? key.1 key.2)
            (.written (roomType, patch.date)
              { patch, rooms, now, id := stores.supply.next }) := by
        rw [inventory?_writeInventory, Merging.enter]
        split
        · rename_i own
          subst own
          rfl
        · rfl
      rw [inventoryJournal, List.foldl_cons, ← entered]
      exact ih (stores.writeInventory roomType patch rooms now).2

/-- The row of a room type on a date follows what is noted of the calls. -/
theorem Event.inventory?_after (event : Event) (backend : Backend) (key : Id × Date) :
    (event.after backend).stores.inventory? key.1 key.2 =
      (event.inventoryJournal backend).foldl (InventoryWrite.merging.enter key)
        (backend.stores.inventory? key.1 key.2) := by
  rw [inventoryJournal]
  cases writes : event.inventoryMade? backend with
  | none =>
      rw [Stores.inventory?, inventory_of_unmade writes]
      rfl
  | some made =>
      rw [stores_of_inventoryMade? writes]
      exact Stores.inventory?_mergeInventories _ _ _ _ _ key

/-! ## The fields of a row -/

/-- The row is what the writes to it have made. -/
structure InventoryRow.IsReplayOf (row : InventoryRow) (writes : List InventoryWrite) : Prop where
  /-- The first of them has made it, with all rooms that there were. -/
  made : ∃ first, writes.head? = some first ∧ row.id = first.id ∧ row.createdAt = first.now ∧
    row.totalRooms = (lastCarried? (·.patch.totalRooms) writes).getD first.rooms
  outOfOrder : row.outOfOrder = (lastCarried? (·.patch.outOfOrder) writes).getD 0
  blocked : row.blocked = (lastCarried? (·.patch.blocked) writes).getD 0
  sold : row.sold = (lastCarried? (·.patch.sold) writes).getD 0
  overbookingLimit :
    row.overbookingLimit = (lastCarried? (·.patch.overbookingLimit) writes).getD 0
  stopSell : row.stopSell = (lastCarried? (·.patch.stopSell) writes).getD false
  closedToArrival :
    row.closedToArrival = (lastCarried? (·.patch.closedToArrival) writes).getD false
  closedToDeparture :
    row.closedToDeparture = (lastCarried? (·.patch.closedToDeparture) writes).getD false
  minStay : row.minStay = lastCarried? (·.patch.minStay) writes
  maxStay : row.maxStay = lastCarried? (·.patch.maxStay) writes
  rateOverride : row.rateOverride = lastCarried? (·.patch.rateOverride) writes
  reason : row.reason = lastCarried? (·.patch.reason) writes

theorem InventoryRow.isReplayOf (key : Id × Date) (writes : List InventoryWrite)
    (row : InventoryRow)
    (made : writes.foldl (InventoryWrite.merging.write key) none = some row) :
    row.IsReplayOf writes := by
  obtain ⟨first, head, _⟩ := Merging.of_foldl_write made
  have shown {β : Type} (field : InventoryWrite → Option β) (shown : InventoryRow → β) :=
    Merging.shown_of_made made head field shown
  have shownOr {β : Type} (field : InventoryWrite → Option β) (shown : InventoryRow → Option β) :=
    Merging.shown_of_made_or made head field shown
  constructor
  case made =>
    exact ⟨first, head, Merging.kept_of_made made head (·.id) fun _ _ => rfl,
      Merging.kept_of_made made head (·.createdAt) fun _ _ => rfl,
      shown (·.patch.totalRooms) (·.totalRooms) fun _ _ => rfl⟩
  case outOfOrder => exact shown (·.patch.outOfOrder) (·.outOfOrder) fun _ _ => rfl
  case blocked => exact shown (·.patch.blocked) (·.blocked) fun _ _ => rfl
  case sold => exact shown (·.patch.sold) (·.sold) fun _ _ => rfl
  case overbookingLimit =>
    exact shown (·.patch.overbookingLimit) (·.overbookingLimit) fun _ _ => rfl
  case stopSell => exact shown (·.patch.stopSell) (·.stopSell) fun _ _ => rfl
  case closedToArrival =>
    exact shown (·.patch.closedToArrival) (·.closedToArrival) fun _ _ => rfl
  case closedToDeparture =>
    exact shown (·.patch.closedToDeparture) (·.closedToDeparture) fun _ _ => rfl
  case minStay => exact shownOr (·.patch.minStay) (·.minStay) (fun _ _ => rfl) rfl
  case maxStay => exact shownOr (·.patch.maxStay) (·.maxStay) (fun _ _ => rfl) rfl
  case rateOverride =>
    exact shownOr (·.patch.rateOverride) (·.rateOverride) (fun _ _ => rfl) rfl
  case reason => exact shownOr (·.patch.reason) (·.reason) (fun _ _ => rfl) rfl

/-- What is available follows from the counts. -/
def InventoryRow.IsBalanced (row : InventoryRow) : Prop :=
  row.available =
    row.totalRooms - row.outOfOrder - row.blocked - row.sold + row.overbookingLimit

/-- A row is balanced right after a write if what is available in it can be computed. -/
theorem InventoryPatch.isBalanced_apply (patch : InventoryPatch) (row : InventoryRow)
    (now : Instant) (computed : (patch.apply row now).available?.isSome) :
    (patch.apply row now).IsBalanced := by
  obtain ⟨available, sum⟩ := Option.isSome_iff_exists.mp computed
  have exact := (RoomCounts.available?_eq_some_iff.mp sum).2
  have stored : (patch.apply row now).available = available :=
    congrArg (·.getD row.available) sum
  exact stored.trans exact

/-! ## Courses -/

/-- The ledger is what a journal leads to. -/
def Stores.ReplaysInventory (stores : Stores) (journal : Journal (Id × Date) InventoryWrite) :
    Prop :=
  journal.IsShownBy (·.roomType) (·.date) InventoryRow.IsReplayOf stores.inventoryIn

/-- A step keeps one row for a room type and a date. -/
theorem Step.inventoryApart {before after : Stores} {event : Event}
    (step : Step before event after) (apart : (before.inventory.map (·.key)).Nodup) :
    (after.inventory.map (·.key)).Nodup := by
  rcases step.inventory_cases with same | ⟨roomType, patches, rooms, _, rfl⟩
  · rw [same]
    exact apart
  · exact Stores.nodup_writeInventories apart roomType patches rooms event.circumstance.now

/-- **The ledger is a replay of its writes.** After every course of calls on a ledger that
was empty there is one row for a room type and a date, the rows are those that the writes
lead to, and what is available in a row follows from its counts, unless their sum overflows;
it does in no row as long as no call breaks off. No count is negative as long as the
directory counts no rooms below zero. -/
theorem Course.inventory_replayed (course : Course) {start : Backend}
    (unwritten : start.stores.inventory = []) :
    ((course.after start).stores.inventory.map (·.key)).Nodup ∧
    (course.after start).stores.ReplaysInventory (course.notes Event.inventoryJournal start) ∧
    (∀ row ∈ (course.after start).stores.inventory, row.available?.isSome → row.IsBalanced) ∧
    (course.IsUnbroken start →
      ∀ row ∈ (course.after start).stores.inventory, row.IsBalanced) ∧
    (course.EachDirectory (0 ≤ ·) start →
      ∀ row ∈ (course.after start).stores.inventory, row.Each (0 ≤ ·)) := by
  have apart : ((course.after start).stores.inventory.map (·.key)).Nodup := by
    apply course.invariant fun stores => (stores.inventory.map (·.key)).Nodup
    · exact fun event _ backend apart => (event.step backend).inventoryApart apart
    · exact fun _ _ _ apart => apart
    · rw [unwritten]
      exact List.nodup_nil
  have balanced : ∀ row ∈ course.notes Event.writtenRows start,
      row.available?.isSome → row.IsBalanced := by
    have anywhere : course.EachDirectory (fun _ => True) start :=
      ⟨fun _ => trivial, fun _ _ _ => trivial⟩
    -- A write computes anew what is available, whatever it was.
    refine forall_writtenRows unwritten anywhere (fun _ _ => trivial)
      (fun _ _ _ _ _ _ _ => trivial) ?_
    exact fun _ _ _ _ _ patch _ _ row now _ => patch.isBalanced_apply row now
  refine ⟨apart, ?_, fun row member => ?_, fun unbroken row member => ?_, ?_⟩
  · apply InventoryWrite.merging.isShownBy InventoryRow.isReplayOf apart
    intro key
    have followed := view_after (fun stores => stores.inventory? key.1 key.2)
      (fun event backend => event.inventory?_after backend key) (fun _ _ => rfl) course start
    have missing : start.stores.inventory? key.1 key.2 = none := by
      rw [Stores.inventory?, unwritten, List.find?_nil]
    rw [missing] at followed
    exact followed
  · exact balanced row (mem_writtenRows unwritten member)
  · have written := mem_writtenRows unwritten member
    exact balanced row written (isUnbroken_iff.mp unbroken row written)
  · intro directories row member
    exact forall_counts unwritten directories (Int.le_refl 0) (fun _ counted _ => counted)
      (fun _ _ _ _ _ _ _ faultless => InventoryPatch.nonneg_of_faults faultless) row
      (mem_writtenRows unwritten member)

namespace Sample

/-- A room is added to the house. -/
def extended : Directory :=
  { backend.stores.directory with roomTypes := [{ king with rooms := 4 }] }

/-- A night is sold in part; there is one more room when the next night is written, and a
room of the first one is blocked. -/
def extending : Course :=
  [.called
      { call := .putInventory ⟨1⟩ ⟨2⟩ { InventoryPatch.forDate ⟨10⟩ with sold := some 1 }
        circumstance },
    .revised extended,
    .called
      { call := .putInventories ⟨1⟩ ⟨2⟩
          [{ InventoryPatch.forDate ⟨11⟩ with minStay := some 2 },
            { InventoryPatch.forDate ⟨10⟩ with blocked := some 1 }]
        circumstance }]

end Sample

open Sample in
/-- The first night still counts the rooms that there were when its row was made. -/
theorem Course.inventory_replayed_with_more_rooms :
    backend.stores.inventory = [] ∧ extending.EachDirectory (0 ≤ ·) backend ∧
    extending.IsUnbroken backend ∧
    (extending.after backend).stores.inventory.map
        (fun row => (row.date.number, row.toRoomCounts, row.available)) =
      [(10, ⟨3, 0, 1, 1, 0⟩, 1), (11, ⟨4, 0, 0, 0, 0⟩, 4)] ∧
    (extending.after backend).stores.ReplaysInventory
      (extending.notes Event.inventoryJournal backend) ∧
    (∀ row ∈ (extending.after backend).stores.inventory, row.IsBalanced) ∧
    ∀ row ∈ (extending.after backend).stores.inventory, row.Each (0 ≤ ·) := by
  have unwritten : backend.stores.inventory = [] := rfl
  have directories : extending.EachDirectory (0 ≤ ·) backend := by
    refine ⟨Directory.eachCount (by decide) (by decide), fun directory member => ?_⟩
    simp only [extending, List.mem_cons, reduceCtorEq, Occurrence.revised.injEq,
      List.not_mem_nil, or_false, false_or] at member
    subst member
    exact Directory.eachCount (by decide) (by decide)
  have unbroken : extending.IsUnbroken backend := by decide +kernel
  obtain ⟨_, replayed, _, balanced, counted⟩ := inventory_replayed extending unwritten
  exact ⟨unwritten, directories, unbroken, by decide +kernel, replayed, balanced unbroken,
    counted directories⟩

end Lodging
