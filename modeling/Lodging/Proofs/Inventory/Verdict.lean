import Lodging.Proofs.Inventory.Counts
import Lodging.Proofs.Reservation.Occupancy

/-! # Verdicts on stays

A check takes a range of rows that includes both of its ends, while a stay has no night on the
day of check-out. What it reports still follows from the rows on the nights of the stay, and
without such a row from the reservations (`Lodging.Availability.Follows`). A row anywhere else
does not count, so calls that write there change no verdict, whatever becomes of them
(`Lodging.Availability.check_verdict`).
-/

namespace Lodging

/-! ## Rows on the nights of a stay -/

/-- The ledger has the row for the room type, and it is on a night of the stay. -/
structure Stores.HasNightRow (stores : Stores) (roomType : Id) (stay : Stay) (row : InventoryRow) :
    Prop where
  present : row ∈ stores.inventory
  own : row.roomType = roomType
  night : stay.HasNight row.date

/-- Calls that write to the ledger for other room types, or on days that are no nights of the
stay. -/
def Call.WritesElsewhere (call : Call) (roomType : Id) (stay : Stay) : Prop :=
  ∃ other patches, call.inventoryWrites? = some (other, patches) ∧
    ∀ patch ∈ patches, other ≠ roomType ∨ ¬ stay.HasNight patch.date

namespace Stores

variable {stores : Stores} {roomType other : Id} {stay : Stay}

theorem hasNightRow_iff {row : InventoryRow} : stores.HasNightRow roomType stay row ↔
    row ∈ stores.inventoryIn roomType stay.checkIn stay.lastNight := by
  rw [mem_nightRows]
  exact ⟨fun counts => ⟨counts.present, counts.own, counts.night⟩,
    fun ⟨present, own, night⟩ => ⟨present, own, night⟩⟩

/-- A write elsewhere leaves the rows on the nights of the stay. -/
theorem nightRows_writeInventory {patch : InventoryPatch}
    (elsewhere : other ≠ roomType ∨ ¬ stay.HasNight patch.date) (rooms : Int) (now : Instant) :
    (stores.writeInventory other patch rooms now).2.inventoryIn roomType stay.checkIn
        stay.lastNight =
      stores.inventoryIn roomType stay.checkIn stay.lastNight := by
  have outside {row : InventoryRow} (written : row.key = (other, patch.date)) :
      ((stay.checkIn ≤ row.date && row.date ≤ stay.lastNight) && row.roomType == roomType) =
        false := by
    obtain ⟨type, date⟩ := Prod.mk.inj written
    refine Bool.eq_false_iff.mpr fun within => ?_
    rw [Bool.and_eq_true, Bool.and_eq_true, decide_eq_true_eq, decide_eq_true_eq, beq_iff_eq,
      Stay.le_lastNight, type, date] at within
    exact elsewhere.elim (fun apart => apart within.2) fun free => free within.1
  have matched := isRowOf_iff (other, patch.date)
  rw [inventoryIn, inventoryIn, inRange, inRange, List.filter_filter, List.filter_filter]
  congr 1
  refine filter_upsert_of_neg (fun row own => ?_) (fun row own => ?_) (outside rfl)
  · exact outside ((matched row).mp own)
  · exact outside ((matched row).mp own)

/-- So do several writes, be all of them made or not. -/
theorem nightRows_writeInventories {patches : List InventoryPatch}
    (elsewhere : ∀ patch ∈ patches, other ≠ roomType ∨ ¬ stay.HasNight patch.date) (rooms : Int)
    (now : Instant) :
    (stores.writeInventories other patches rooms now).2.inventoryIn roomType stay.checkIn
        stay.lastNight =
      stores.inventoryIn roomType stay.checkIn stay.lastNight := by
  refine writeInventories_induction
    (fun after => after.inventoryIn roomType stay.checkIn stay.lastNight =
      stores.inventoryIn roomType stay.checkIn stay.lastNight) ?_ rfl
  intro patch member between same
  exact (nightRows_writeInventory (elsewhere patch member) rooms now).trans same

end Stores

/-- Calls that write elsewhere leave all but the ledger, and its rows on the nights of the
stay. -/
theorem Event.after_of_writesElsewhere (event : Event) (backend : Backend) {roomType : Id}
    {stay : Stay} (elsewhere : event.call.WritesElsewhere roomType stay) :
    (event.after backend).stores.OnlyInventoryDiffers backend.stores ∧
      (event.after backend).stores.inventoryIn roomType stay.checkIn stay.lastNight =
        backend.stores.inventoryIn roomType stay.checkIn stay.lastNight := by
  obtain ⟨other, patches, asked, elsewhere⟩ := elsewhere
  cases refused : event.isRefused backend with
  | true =>
      rw [stores_of_refused refused]
      exact ⟨rfl, rfl⟩
  | false =>
      rw [(after_of_inventoryWrites asked refused).2.1]
      exact ⟨Stores.onlyInventoryDiffers_writeInventories _ _ _ _ _,
        Stores.nightRows_writeInventories elsewhere _ _⟩

/-! ## Verdicts -/

namespace Availability

/-- What the rows on the nights of a stay say about it, and the reservations if there is no
such row. -/
structure Follows (verdict : Availability) (stores : Stores) (roomType : Id) (stay : Stay) :
    Prop where
  stopSell : verdict.stopSell = true ↔
    ∃ row, stores.HasNightRow roomType stay row ∧ row.stopSell = true
  stopped : verdict.stopSell = true → verdict.roomsAvailable = 0
  /-- The least of the rows decides, but no less than zero. -/
  least : verdict.stopSell = false → stores.HasRowIn roomType stay →
    ∃ row, stores.HasNightRow roomType stay row ∧
      (∀ other, stores.HasNightRow roomType stay other → row.available ≤ other.available) ∧
      verdict.roomsAvailable = max row.available 0
  rowless : ¬ stores.HasRowIn roomType stay →
    verdict.roomsAvailable = max (verdict.totalRooms - verdict.occupied) 0
  available : verdict.available = true ↔ 0 < verdict.roomsAvailable
  source : verdict.source = .inventory ↔ stores.HasRowIn roomType stay
  totalRooms : verdict.totalRooms = stores.directory.sellableRooms roomType
  occupied : verdict.occupied = stores.roomsHeld roomType stay

open Service

variable {circumstance : Circumstance} {backend : Backend} {hotel roomType : Id} {stay : Stay}

/-- Some row has no more available than any other, and that is the least of all. -/
theorem exists_least {rows : List InventoryRow} (stocked : rows ≠ []) :
    ∃ row ∈ rows, (∀ other ∈ rows, row.available ≤ other.available) ∧
      (rows.map (·.available)).min? = some row.available := by
  obtain ⟨first, member⟩ := List.exists_mem_of_ne_nil rows stocked
  obtain ⟨least, found⟩ := Option.isSome_iff_exists.mp
    (List.isSome_min?_of_mem (List.mem_map_of_mem (f := (·.available)) member))
  obtain ⟨counted, lowest⟩ := List.min?_eq_some_iff.mp found
  obtain ⟨row, present, rfl⟩ := List.mem_map.mp counted
  exact ⟨row, present, fun other there => lowest _ (List.mem_map_of_mem there), found⟩

theorem source_iff {totalRooms occupied : Int} {nights : List NightSupply} :
    (resolve totalRooms occupied nights).source = .inventory ↔ nights ≠ [] := by
  rw [resolve]
  cases nights with
  | nil => exact iff_of_false AvailabilitySource.noConfusion (not_not_intro rfl)
  | cons night rest => exact iff_of_true rfl (List.cons_ne_nil _ _)

theorem ofStay_follows (stores : Stores) (roomType : Id) (stay : Stay) :
    (ofStay stores roomType stay).Follows stores roomType stay := by
  have stocked : stores.HasRowIn roomType stay ↔
      stores.inventoryIn roomType stay.checkIn stay.lastNight ≠ [] :=
    Stores.not_hasRowIn_iff.not_right
  constructor
  case stopSell =>
    simp only [ofStay, resolve, Stores.hasNightRow_iff, List.any_map, List.any_eq_true]
    rfl
  case stopped => exact roomsAvailable_of_stopSell
  case least =>
    intro opened present
    obtain ⟨row, member, lowest, least⟩ := exists_least (stocked.mp present)
    refine ⟨row, Stores.hasNightRow_iff.mpr member, fun other there => ?_, ?_⟩
    · exact lowest other (Stores.hasNightRow_iff.mp there)
    · rw [ofStay, roomsAvailable_of_open opened, List.map_map]
      exact congrArg (fun least : Option Int => max (least.getD _) 0) least
  case rowless => exact fun rowless => (ofStay_of_rowless rowless).2
  case available => exact available_iff
  case source => rw [stocked, ofStay, source_iff, ne_eq, List.map_eq_nil_iff]
  case totalRooms => rfl
  case occupied => rfl

/-- The verdict that a check gives it gives again after a call that writes elsewhere. -/
theorem run_check_after {event : Event} {verdict : Availability}
    (elsewhere : event.call.WritesElsewhere roomType stay)
    (checked : run (check hotel roomType stay) circumstance backend =
      (.ok verdict, counted backend)) :
    run (check hotel roomType stay) circumstance (event.after backend) =
      (.ok verdict, counted (event.after backend)) := by
  obtain ⟨asked, accepted, rfl, _⟩ := run_check_ok.mp checked
  obtain ⟨others, rows⟩ := event.after_of_writesElsewhere backend elsewhere
  have same : ofStay (event.after backend).stores roomType stay =
      ofStay backend.stores roomType stay := by
    rw [ofStay, rows, others]
    rfl
  refine run_check_ok.mpr ⟨⟨asked.directory, asked.reservations, asked.inventory, ?_⟩, accepted,
    same.symm, rfl⟩
  rw [others]
  exact asked.housed

/-- It gives it after all calls of a history that write elsewhere. -/
theorem run_check_history {history : History} {verdict : Availability}
    (elsewhere : ∀ event ∈ history, event.call.WritesElsewhere roomType stay)
    (checked : run (check hotel roomType stay) circumstance backend =
      (.ok verdict, counted backend)) :
    run (check hotel roomType stay) circumstance (history.after backend) =
      (.ok verdict, counted (history.after backend)) := by
  induction history generalizing backend with
  | nil => exact checked
  | cons event rest ih =>
      obtain ⟨first, later⟩ := List.forall_mem_cons.mp elsewhere
      exact ih later (run_check_after first checked)

/-- **Verdicts.** A stay that is accepted gets a verdict that follows from the rows on its
nights, and else from the reservations. It stays the same through all calls that write to the
ledger for another room type or on other days, such as the day of check-out. -/
theorem check_verdict (asked : CanCheck circumstance backend hotel roomType)
    (accepted : ∃ nights, stay.nights circumstance.maxStayNights = .ok nights) :
    ∃ verdict : Availability,
      run (check hotel roomType stay) circumstance backend = (.ok verdict, counted backend) ∧
      verdict.Follows backend.stores roomType stay ∧
      ∀ history : History, (∀ event ∈ history, event.call.WritesElsewhere roomType stay) →
        run (check hotel roomType stay) circumstance (history.after backend) =
          (.ok verdict, counted (history.after backend)) := by
  have checked := run_check_ok.mpr ⟨asked, accepted, rfl, rfl⟩
  exact ⟨_, checked, ofStay_follows _ _ _, fun _ elsewhere => run_check_history elsewhere checked⟩

end Availability

namespace Sample

/-- The ledger stops the night before a stay and the one after it. -/
def surrounding : Event where
  call := .putInventories inn chamber
    [{ InventoryPatch.forDate ⟨9⟩ with stopSell := some true },
      { InventoryPatch.forDate ⟨12⟩ with stopSell := some true }]
  circumstance := circumstance

end Sample

open Sample Service in
/-- Three rooms are available for two nights before and after the nights around them are
stopped, though not for a night more. -/
theorem Availability.check_verdict_between_stops :
    surrounding.isAccepted overstated = true ∧
    ∃ verdict longer : Availability,
      run (check inn chamber ⟨⟨10⟩, ⟨12⟩⟩) circumstance overstated =
        (.ok verdict, counted overstated) ∧
      run (check inn chamber ⟨⟨10⟩, ⟨12⟩⟩) circumstance (surrounding.after overstated) =
        (.ok verdict, counted (surrounding.after overstated)) ∧
      run (check inn chamber ⟨⟨10⟩, ⟨13⟩⟩) circumstance (surrounding.after overstated) =
        (.ok longer, counted (surrounding.after overstated)) ∧
      verdict.source = .inventory ∧ verdict.roomsAvailable = 3 ∧
      longer.stopSell = true ∧ longer.roomsAvailable = 0 := by
  have asked : CanCheck circumstance overstated inn chamber :=
    ⟨rfl, rfl, rfl, by decide +kernel⟩
  have askedLater : CanCheck circumstance (surrounding.after overstated) inn chamber :=
    ⟨rfl, rfl, rfl, by decide +kernel⟩
  have elsewhere : surrounding.call.WritesElsewhere chamber ⟨⟨10⟩, ⟨12⟩⟩ := by
    refine ⟨chamber, _, rfl, List.forall_mem_cons.mpr ⟨.inr ?_, ?_⟩⟩
    · decide
    · exact List.forall_mem_singleton.mpr (.inr (by decide))
  have two : Stay.nights ⟨⟨10⟩, ⟨12⟩⟩ circumstance.maxStayNights = .ok 2 := rfl
  have three : Stay.nights ⟨⟨10⟩, ⟨13⟩⟩ circumstance.maxStayNights = .ok 3 := rfl
  obtain ⟨verdict, checked, follows, same⟩ := check_verdict asked ⟨2, two⟩
  obtain ⟨longer, checkedLater, stops, _⟩ := check_verdict askedLater ⟨3, three⟩
  have row : overstated.stores.HasRowIn chamber ⟨⟨10⟩, ⟨12⟩⟩ := by
    unfold Stores.HasRowIn
    decide +kernel
  have stop : ∃ row ∈ (surrounding.after overstated).stores.inventory, row.roomType = chamber ∧
      Stay.HasNight ⟨⟨10⟩, ⟨13⟩⟩ row.date ∧ row.stopSell = true := by
    decide +kernel
  obtain ⟨last, present, own, night, closed⟩ := stop
  have stopped := stops.stopSell.mpr ⟨last, ⟨present, own, night⟩, closed⟩
  refine ⟨by decide +kernel, verdict, longer, checked,
    same [surrounding] (List.forall_mem_singleton.mpr elsewhere), checkedLater,
    follows.source.mpr row, ?_, stopped, stops.stopped stopped⟩
  obtain rfl := (run_check_ok.mp checked).2.2.1
  decide +kernel

end Lodging
