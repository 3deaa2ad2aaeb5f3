import Lodging.Inventory.Document
import Lodging.Proofs.Inventory.Calls
import Lodging.Proofs.RatePlan.WellFormed

/-! # Counts of the ledger

A write is checked count by count, and what is available is the sum of five counts that
different writes may have left. What holds of each count that is written, and of the counts
of rooms in the directory, holds of every count of the ledger
(`Lodging.Course.forall_counts`). So counts are not negative and, as they are read from
requests (`Lodging.InventoryPatch.decode_gives`), numbers of 32 bits, but the steps of the
sum need not be: they are as long as no more rooms are taken out of a row than it has and 32
bits can hold, and a course is unbroken exactly if no write takes out more
(`Lodging.Course.recounts_fit`). One write that passes every check is enough to do so
(`Lodging.Course.recount_exceeds`).
-/

namespace Lodging

/-! ## Counts one by one -/

/-- Each of the counts has a property. -/
structure RoomCounts.Each (property : Int → Prop) (counts : RoomCounts) : Prop where
  totalRooms : property counts.totalRooms
  outOfOrder : property counts.outOfOrder
  blocked : property counts.blocked
  sold : property counts.sold
  overbookingLimit : property counts.overbookingLimit

/-- Each count that a write carries has a property. -/
structure InventoryPatch.EachCount (property : Int → Prop) (patch : InventoryPatch) : Prop where
  totalRooms : ∀ count ∈ patch.totalRooms, property count
  outOfOrder : ∀ count ∈ patch.outOfOrder, property count
  blocked : ∀ count ∈ patch.blocked, property count
  sold : ∀ count ∈ patch.sold, property count
  overbookingLimit : ∀ count ∈ patch.overbookingLimit, property count

/-- The number of rooms of each room type has a property. -/
def Directory.EachCount (property : Int → Prop) (directory : Directory) : Prop :=
  ∀ roomType, property (directory.sellableRooms roomType)

/-- What holds of zero and of the rooms of each entry holds of the count of each type. -/
theorem Directory.eachCount {property : Int → Prop} {directory : Directory} (zero : property 0)
    (each : ∀ entry ∈ directory.roomTypes, property entry.rooms) :
    directory.EachCount property := by
  intro roomType
  rw [sellableRooms]
  cases found : directory.roomTypes.find? fun entry => entry.id == roomType with
  | none => exact zero
  | some entry => exact each entry (List.mem_of_find?_eq_some found)

namespace InventoryPatch

variable {property other : Int → Prop} {patch : InventoryPatch} {counts : RoomCounts}

theorem EachCount.and (one : patch.EachCount property) (another : patch.EachCount other) :
    patch.EachCount fun count => property count ∧ other count where
  totalRooms count carried := ⟨one.totalRooms count carried, another.totalRooms count carried⟩
  outOfOrder count carried := ⟨one.outOfOrder count carried, another.outOfOrder count carried⟩
  blocked count carried := ⟨one.blocked count carried, another.blocked count carried⟩
  sold count carried := ⟨one.sold count carried, another.sold count carried⟩
  overbookingLimit count carried :=
    ⟨one.overbookingLimit count carried, another.overbookingLimit count carried⟩

/-- What holds of the counts of a write and of those of a row holds of the merged ones. -/
theorem EachCount.applyCounts (written : patch.EachCount property)
    (stored : counts.Each property) : (patch.applyCounts counts).Each property := by
  have merged {carried : Option Int} {before : Int} (new : ∀ count ∈ carried, property count)
      (old : property before) : property (carried.getD before) := by
    cases carried with
    | none => exact old
    | some count => exact new count rfl
  constructor
  case totalRooms => exact merged written.totalRooms stored.totalRooms
  case outOfOrder => exact merged written.outOfOrder stored.outOfOrder
  case blocked => exact merged written.blocked stored.blocked
  case sold => exact merged written.sold stored.sold
  case overbookingLimit => exact merged written.overbookingLimit stored.overbookingLimit

/-- No count of a write without faults is negative. -/
theorem nonneg_of_faults (faultless : patch.faults = []) : patch.EachCount (0 ≤ ·) := by
  simp only [faults, List.append_eq_nil_iff, FieldFaults.atLeast_eq_nil] at faultless
  obtain ⟨⟨⟨⟨⟨⟨⟨totalRooms, outOfOrder⟩, blocked⟩, sold⟩, overbookingLimit⟩, _⟩, _⟩, _⟩ :=
    faultless
  exact ⟨totalRooms, outOfOrder, blocked, sold, overbookingLimit⟩

end InventoryPatch

/-- The counts of a row without any write. -/
theorem RoomCounts.each_blank {property : Int → Prop} {rooms : Int} (counted : property rooms)
    (zero : property 0) (id roomType : Id) (date : Date) (now : Instant) :
    (InventoryRow.blank id roomType date rooms now).toRoomCounts.Each property :=
  ⟨counted, zero, zero, zero, zero⟩

/-! ## Rows that are written -/

section Written

variable {base property : InventoryRow → Prop}

/-- What writes make of the rows that there may be before them holds of each row that they
leave. -/
theorem Stores.forall_writtenRows {stores : Stores} {roomType : Id} {rooms : Int} {now : Instant}
    {patches : List InventoryPatch} (weaker : ∀ row, property row → base row)
    (kept : ∀ patch ∈ patches, ∀ row, base row → property (patch.apply row now))
    (new : ∀ id date, base (.blank id roomType date rooms now))
    (each : ∀ row ∈ stores.inventory, property row) :
    ∀ row ∈ stores.writtenRows roomType rooms now patches, property row := by
  induction patches generalizing stores with
  | nil => exact fun _ member => nomatch member
  | cons patch rest ih =>
      obtain ⟨keptFirst, keptRest⟩ := List.forall_mem_cons.mp kept
      have written : property (stores.writtenRow roomType rooms now patch) := by
        refine keptFirst _ ?_
        cases found : stores.inventory? roomType patch.date with
        | none => exact new _ _
        | some row => exact weaker row (each row (List.mem_of_find?_eq_some found))
      refine List.forall_mem_cons.mpr ⟨written, ih keptRest fun row member => ?_⟩
      rcases mem_upsert_getD member with old | rfl
      · exact each row old
      · exact written

/-- What writes without faults make of the rows that there may be before them holds of each
row that a call leaves. -/
theorem Event.forall_writtenRows {event : Event} {backend : Backend}
    (weaker : ∀ row, property row → base row)
    (kept : ∀ roomType patches, event.call.inventoryWrites? = some (roomType, patches) →
      ∀ patch ∈ patches, patch.faults = [] → ∀ row now, base row →
        property (patch.apply row now))
    (new : ∀ id roomType date now,
      backend.stores.directory.sellableRooms roomType < Inventory.countLimit →
        base (.blank id roomType date (backend.stores.directory.sellableRooms roomType) now))
    (each : ∀ row ∈ backend.stores.inventory, property row) :
    ∀ row ∈ event.writtenRows backend, property row := by
  rw [writtenRows]
  cases writes : event.inventoryMade? backend with
  | none => exact fun _ member => absurd member List.not_mem_nil
  | some made =>
      obtain ⟨roomType, made⟩ := made
      obtain ⟨patches, asked, proceeding, rfl⟩ := of_inventoryMade? writes
      obtain ⟨admitted, _⟩ := after_of_inventoryWrites asked proceeding
      refine Stores.forall_writtenRows weaker (fun patch member row held => ?_)
        (fun id date => new id roomType date _ admitted.inRange.2) each
      have present := Stores.madeOf_prefix.subset member
      exact kept roomType patches asked patch present (admitted.faultless patch present) row _ held

end Written

/-! ## Courses -/

/-- Each write to the ledger in a course has a property. -/
def Course.EachWrite (property : InventoryPatch → Prop) (course : Course) : Prop :=
  ∀ event, .called event ∈ course → ∀ roomType patches,
    event.call.inventoryWrites? = some (roomType, patches) → ∀ patch ∈ patches, property patch

/-- The directory counts rooms with a property, and goes on to when it is revised. -/
def Course.EachDirectory (property : Int → Prop) (course : Course) (start : Backend) : Prop :=
  start.stores.directory.EachCount property ∧
    ∀ directory, .revised directory ∈ course → directory.EachCount property

namespace Course

variable {course : Course} {start : Backend}

theorem EachDirectory.and {property other : Int → Prop} (one : course.EachDirectory property start)
    (another : course.EachDirectory other start) :
    course.EachDirectory (fun rooms => property rooms ∧ other rooms) start where
  left roomType := ⟨one.1 roomType, another.1 roomType⟩
  right directory member roomType :=
    ⟨one.2 directory member roomType, another.2 directory member roomType⟩

/-- What the writes of a course make of the rows that there may be before them holds of each
row that is written. -/
theorem forall_writtenRows {base property : InventoryRow → Prop} {counted : Int → Prop}
    (unwritten : start.stores.inventory = []) (directories : course.EachDirectory counted start)
    (weaker : ∀ row, property row → base row)
    (new : ∀ id roomType date rooms now, counted rooms → rooms < Inventory.countLimit →
      base (.blank id roomType date rooms now))
    (kept : course.EachWrite fun patch => patch.faults = [] → ∀ row now, base row →
      property (patch.apply row now)) :
    ∀ row ∈ course.notes Event.writtenRows start, property row := by
  refine course.forall_notes (fun stores => stores.directory.EachCount counted ∧
      ∀ row ∈ stores.inventory, property row) ?_ ?_ start ⟨directories.1, ?_⟩
  · intro event member backend held
    have written := Event.forall_writtenRows weaker (kept event member)
      (fun id roomType date now => new id roomType date _ now (held.1 roomType)) held.2
    rw [(event.registryStep backend).directory_eq]
    refine ⟨⟨held.1, fun row present => ?_⟩, written⟩
    exact (Event.mem_writtenRows present).elim (held.2 row) (written row)
  · exact fun directory member stores held => ⟨directories.2 directory member, held.2⟩
  · rw [unwritten]
    exact fun _ member => nomatch member

/-- What holds of zero, of the counts of rooms and of each count that is written holds of
each count of a row that is written. -/
theorem forall_counts {property counted : Int → Prop} (unwritten : start.stores.inventory = [])
    (directories : course.EachDirectory counted start) (zero : property 0)
    (new : ∀ rooms, counted rooms → rooms < Inventory.countLimit → property rooms)
    (writes : course.EachWrite fun patch => patch.faults = [] → patch.EachCount property) :
    ∀ row ∈ course.notes Event.writtenRows start, row.toRoomCounts.Each property := by
  refine forall_writtenRows unwritten directories (fun _ each => each) ?_ ?_
  · exact fun id roomType date rooms now known bounded =>
      RoomCounts.each_blank (new rooms known bounded) zero id roomType date now
  · intro event member roomType patches asked patch present faultless row now held
    exact (writes event member roomType patches asked patch present faultless).applyCounts held

/-- Counts of rows that are written are not negative, and have what those that are written
have. -/
theorem written_nonneg_and {property counted : Int → Prop}
    (unwritten : start.stores.inventory = []) (directories : course.EachDirectory counted start)
    (zero : property 0)
    (new : ∀ rooms, counted rooms → rooms < Inventory.countLimit → 0 ≤ rooms ∧ property rooms)
    (writes : course.EachWrite (·.EachCount property)) :
    ∀ row ∈ course.notes Event.writtenRows start,
      row.toRoomCounts.Each fun count => 0 ≤ count ∧ property count := by
  refine forall_counts unwritten directories ⟨Int.le_refl 0, zero⟩ new ?_
  intro event member roomType patches asked patch present faultless
  exact (InventoryPatch.nonneg_of_faults faultless).and
    (writes event member roomType patches asked patch present)

end Course

/-! ## The sum of the counts -/

theorem Decoder.int32_gives : int32.Gives Inventory.Fits :=
  fun draft value accepted =>
    have within := bounded_gives _ _ draft value accepted
    ⟨within.1, Int.lt_of_le_sub_one within.2⟩

/-- The counts of a write that was decoded are numbers of 32 bits. -/
theorem InventoryPatch.decode_gives : InventoryPatch.decode.Gives (·.EachCount Inventory.Fits) := by
  have count (name : String) : (Fields.optional name Decoder.int32).Gives
      fun count => ∀ present ∈ count, Inventory.Fits present := .optional Decoder.int32_gives
  refine Fields.Gives.decode ?_
  unfold fields
  -- Nothing has to be known of the fields that are no numbers.
  repeat' with_reducible first
    | exact count _
    | exact .any
    | apply Fields.Gives.map
    | apply Fields.Gives.seq
  intros
  constructor <;> assumption

/-- A step of the sum has the exact result if that fits, and else none. -/
theorem Inventory.step?_eq_some_iff {value result : Int} :
    step? value = some result ↔ Fits value ∧ result = value := by
  rw [step?, Option.ite_none_right_eq_some, Option.some.injEq, eq_comm (a := value)]

namespace RoomCounts

variable {counts : RoomCounts}

/-- What the sum of the counts comes to count by count; the last number is what is
available. -/
def partials (counts : RoomCounts) : List Int :=
  [counts.totalRooms - counts.outOfOrder,
    counts.totalRooms - counts.outOfOrder - counts.blocked,
    counts.totalRooms - counts.outOfOrder - counts.blocked - counts.sold,
    counts.totalRooms - counts.outOfOrder - counts.blocked - counts.sold +
      counts.overbookingLimit]

/-- What is available can be computed exactly if all steps of the sum fit, and then it is the
sum. -/
theorem available?_eq_some_iff {available : Int} :
    counts.available? = some available ↔
      (∀ value ∈ counts.partials, Inventory.Fits value) ∧
        available = counts.totalRooms - counts.outOfOrder - counts.blocked - counts.sold +
          counts.overbookingLimit := by
  simp only [available?, partials, Option.bind_eq_bind, Option.bind_eq_some_iff,
    Inventory.step?_eq_some_iff, List.forall_mem_cons]
  constructor
  · rintro ⟨_, ⟨first, rfl⟩, _, ⟨second, rfl⟩, _, ⟨third, rfl⟩, fourth, rfl⟩
    exact ⟨⟨first, second, third, fourth, fun _ member => nomatch member⟩, rfl⟩
  · rintro ⟨⟨first, second, third, fourth, _⟩, rfl⟩
    exact ⟨_, ⟨first, rfl⟩, _, ⟨second, rfl⟩, _, ⟨third, rfl⟩, fourth, rfl⟩

/-- What is available can be computed exactly if all steps of the sum fit. -/
theorem isSome_available?_iff :
    counts.available?.isSome ↔ ∀ value ∈ counts.partials, Inventory.Fits value := by
  rw [Option.isSome_iff_exists]
  constructor
  · rintro ⟨available, computed⟩
    exact (available?_eq_some_iff.mp computed).1
  · intro fitting
    exact ⟨_, available?_eq_some_iff.mpr ⟨fitting, rfl⟩⟩

/-- Neither are more rooms taken out than there are and 32 bits can hold, nor may more be
sold than that. -/
structure Moderate (counts : RoomCounts) : Prop where
  least : counts.outOfOrder + counts.blocked + counts.sold ≤
    counts.totalRooms + Inventory.countLimit
  most : counts.totalRooms + counts.overbookingLimit <
    counts.outOfOrder + counts.blocked + counts.sold + Inventory.countLimit

/-- All steps of the sum fit exactly if the lowest one does, which is the last but one, and
the last one does, where rooms are added again. -/
theorem partials_fit_iff (each : counts.Each fun count => 0 ≤ count ∧ Inventory.Fits count) :
    (∀ value ∈ counts.partials, Inventory.Fits value) ↔ counts.Moderate := by
  obtain ⟨totalRooms, outOfOrder, blocked, sold, overbookingLimit⟩ := each
  simp only [partials, List.forall_mem_cons, Inventory.Fits, List.not_mem_nil,
    false_implies, implies_true, and_true] at *
  constructor
  · rintro ⟨_, _, low, high⟩
    constructor <;> omega
  · rintro ⟨least, most⟩
    omega

/-- All steps of the sum fit if three of the greatest count do. -/
theorem partials_fit_of_le {most : Int} (each : counts.Each fun count => 0 ≤ count ∧ count ≤ most)
    (third : 3 * most ≤ Inventory.countLimit) :
    ∀ value ∈ counts.partials, Inventory.Fits value := by
  obtain ⟨totalRooms, outOfOrder, blocked, sold, overbookingLimit⟩ := each
  have positive : 0 < Inventory.countLimit := by decide
  simp only [partials, List.forall_mem_cons, Inventory.Fits, List.not_mem_nil,
    false_implies, implies_true, and_true]
  omega

end RoomCounts

/-- **Counts that fit.** Over a ledger that was empty, all steps of a sum stay within 32 bits,
and what is available can be computed, exactly where the counts of the row that is written are
moderate; no call breaks off exactly if they are in every row. They are as long as three of
the counts that are written, or taken from the directory, fit together. -/
theorem Course.recounts_fit (course : Course) {start : Backend}
    (unwritten : start.stores.inventory = []) (directories : course.EachDirectory (0 ≤ ·) start)
    (writes : course.EachWrite (·.EachCount Inventory.Fits)) :
    (∀ row ∈ course.notes Event.writtenRows start,
      ((∀ value ∈ row.partials, Inventory.Fits value) ↔ row.Moderate) ∧
        (row.available?.isSome ↔ row.Moderate)) ∧
    (course.IsUnbroken start ↔ ∀ row ∈ course.notes Event.writtenRows start, row.Moderate) ∧
    ∀ most, 3 * most ≤ Inventory.countLimit → course.EachDirectory (· ≤ most) start →
      course.EachWrite (·.EachCount (· ≤ most)) →
        course.IsUnbroken start ∧
          ∀ row ∈ course.notes Event.writtenRows start, ∀ value ∈ row.partials,
            Inventory.Fits value := by
  have fitting : ∀ row ∈ course.notes Event.writtenRows start,
      (∀ value ∈ row.partials, Inventory.Fits value) ↔ row.Moderate := by
    intro row member
    refine RoomCounts.partials_fit_iff ?_
    refine written_nonneg_and unwritten directories (by decide) (fun rooms counted bounded => ?_)
      writes row member
    exact ⟨counted, Int.le_trans (by decide) counted, bounded⟩
  refine ⟨fun row member => ?_, ?_, fun most third known small => ?_⟩
  · exact ⟨fitting row member, RoomCounts.isSome_available?_iff.trans (fitting row member)⟩
  · rw [isUnbroken_iff]
    exact forall₂_congr fun row member =>
      RoomCounts.isSome_available?_iff.trans (fitting row member)
  · have positive : 0 ≤ most := Int.le_trans (directories.1 ⟨0⟩) (known.1 ⟨0⟩)
    have each := written_nonneg_and unwritten (directories.and known) positive
      (fun _ both _ => both) small
    have within (row : InventoryRow) (member : row ∈ course.notes Event.writtenRows start) :=
      RoomCounts.partials_fit_of_le (each row member) third
    exact ⟨isUnbroken_iff.mpr fun row member =>
      RoomCounts.isSome_available?_iff.mpr (within row member), within⟩

namespace Sample

/-- A night is sold in part, and a room of it is blocked afterwards. -/
def selling : Event where
  call := .putInventories ⟨1⟩ ⟨2⟩
    [{ InventoryPatch.forDate ⟨10⟩ with totalRooms := some 5, sold := some 2 },
      { InventoryPatch.forDate ⟨10⟩ with blocked := some 1 }]
  circumstance := circumstance

/-- More rooms of a night are taken out than 32 bits hold, no count for itself. -/
def emptying : Event where
  call := .putInventory ⟨1⟩ ⟨2⟩
    { InventoryPatch.forDate ⟨10⟩ with
      totalRooms := some 0
      outOfOrder := some 2147483647
      blocked := some 2
      overbookingLimit := some 1 }
  circumstance := circumstance

theorem eachDirectory_backend {property : Int → Prop} (zero : property 0) (three : property 3)
    (event : Event) : Course.EachDirectory property [.called event] backend where
  left := Directory.eachCount zero (List.forall_mem_singleton.mpr three)
  right _ member := nomatch List.mem_singleton.mp member

theorem eachWrite_selling {property : Int → Prop} (five : property 5) (two : property 2)
    (one : property 1) : Course.EachWrite (·.EachCount property) [.called selling] := by
  intro event member roomType patches asked patch present
  obtain rfl := Occurrence.called.inj (List.mem_singleton.mp member)
  obtain ⟨rfl, rfl⟩ := Prod.mk.inj (Option.some.inj asked)
  have absent : ∀ count ∈ (none : Option Int), property count := fun _ carried => nomatch carried
  rcases List.mem_cons.mp present with rfl | later
  · exact ⟨fun _ carried => Option.some.inj carried ▸ five, absent, absent,
      fun _ carried => Option.some.inj carried ▸ two, absent⟩
  · obtain rfl := List.mem_singleton.mp later
    exact ⟨absent, absent, fun _ carried => Option.some.inj carried ▸ one, absent, absent⟩

end Sample

open Sample in
/-- The row is computed anew by each of the two writes, and all steps of both sums fit. -/
theorem Course.recounts_fit_for_two_writes :
    let course : Course := [.called selling]
    let rows := course.notes Event.writtenRows backend
    rows.map (·.partials) = [[5, 5, 3, 3], [5, 4, 2, 2]] ∧
      (∀ row ∈ rows, ((∀ value ∈ row.partials, Inventory.Fits value) ↔ row.Moderate) ∧
        (row.available?.isSome ↔ row.Moderate)) ∧
      (course.IsUnbroken backend ↔ ∀ row ∈ rows, row.Moderate) ∧
      course.IsUnbroken backend ∧
      ∀ row ∈ rows, ∀ value ∈ row.partials, Inventory.Fits value := by
  intro course rows
  have unwritten : backend.stores.inventory = [] := rfl
  obtain ⟨exactly, broken, fitting⟩ := recounts_fit course unwritten
    (eachDirectory_backend (by decide) (by decide) selling)
    (eachWrite_selling (by decide) (by decide) (by decide))
  refine ⟨by decide +kernel, exactly, broken, ?_⟩
  exact fitting 5 (by decide) (eachDirectory_backend (by decide) (by decide) selling)
    (eachWrite_selling (by decide) (by decide) (by decide))

open Sample in
/-- A write of counts that fit passes every check. The second step of their sum does not fit,
and the call breaks off. -/
theorem Course.recount_exceeds :
    let course : Course := [.called emptying]
    backend.stores.inventory = [] ∧ course.EachDirectory (0 ≤ ·) backend ∧
      course.EachWrite (·.EachCount Inventory.Fits) ∧
      (∃ patch, emptying.call = .putInventory ⟨1⟩ ⟨2⟩ patch ∧
        backend.stores.AdmitsInventory ⟨1⟩ ⟨2⟩ 3 [patch]) ∧
      emptying.breaksOff backend = true ∧
      ∃ row ∈ course.notes Event.writtenRows backend,
        row.partials = [-2147483647, -2147483649, -2147483649, -2147483648] ∧
          ¬ ∀ value ∈ row.partials, Inventory.Fits value := by
  have proceeding : emptying.isRefused backend = false := by decide +kernel
  have admitted := (Event.after_of_inventoryWrites rfl proceeding).1
  refine ⟨rfl, eachDirectory_backend (by decide) (by decide) emptying, ?_,
    ⟨_, rfl, admitted⟩, by decide +kernel, by decide +kernel⟩
  intro event member roomType patches asked patch present
  obtain rfl := Occurrence.called.inj (List.mem_singleton.mp member)
  obtain ⟨rfl, rfl⟩ := Prod.mk.inj (Option.some.inj asked)
  obtain rfl := List.mem_singleton.mp present
  exact ⟨by decide, by decide, by decide, by decide, by decide⟩

end Lodging
