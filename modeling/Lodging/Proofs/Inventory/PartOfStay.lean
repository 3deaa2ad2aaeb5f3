import Lodging.Proofs.Calendar.Nights
import Lodging.Proofs.Tenancy.Reach

/-! # Availability of a part of a stay

What can be sold for a stay is asked of the ledger if it has a row on one of the nights, and
else of the reservations. As long as a stay and a part of it are decided by the same signal,
no fewer rooms are available for the part: it has fewer nights to be sold out or stopped on,
and fewer reservations collide with it (`Lodging.Availability.check_part`). Where the ledger
has rows on the other nights only, the part goes by the reservations, which may hold rooms
that the ledger knows nothing of (`Lodging.Availability.check_two_nights`).
-/

namespace Lodging

/-! ## Parts of stays -/

/-- All nights of the part are nights of the stay. -/
structure Stay.Covers (stay part : Stay) : Prop where
  checkIn : stay.checkIn ≤ part.checkIn
  checkOut : part.checkOut ≤ stay.checkOut

/-- A stay collides with all that a part of it collides with. -/
theorem Stay.Covers.overlaps {stay part other : Stay} (covers : stay.Covers part)
    (collides : other.overlaps part = true) : other.overlaps stay = true := by
  rw [Stay.overlaps, Bool.and_eq_true, decide_eq_true_eq, decide_eq_true_eq] at collides ⊢
  exact ⟨Int.lt_of_lt_of_le collides.1 covers.checkOut,
    Int.lt_of_le_of_lt covers.checkIn collides.2⟩

namespace Stores

variable {stores : Stores} {roomType : Id} {stay part : Stay}

/-- The ledger has a row for the room type on one of the nights. -/
def HasRowIn (stores : Stores) (roomType : Id) (stay : Stay) : Prop :=
  ∃ row ∈ stores.inventory, row.roomType = roomType ∧
    stay.checkIn ≤ row.date ∧ row.date < stay.checkOut

theorem mem_nightRows {row : InventoryRow} :
    row ∈ stores.inventoryIn roomType stay.checkIn stay.lastNight ↔
      row ∈ stores.inventory ∧ row.roomType = roomType ∧
        stay.checkIn ≤ row.date ∧ row.date < stay.checkOut := by
  rw [inventoryIn, mem_inRange_of_owner, Stay.le_lastNight]

theorem not_hasRowIn_iff : ¬ stores.HasRowIn roomType stay ↔
    stores.inventoryIn roomType stay.checkIn stay.lastNight = [] := by
  rw [HasRowIn, List.eq_nil_iff_forall_not_mem]
  simp only [mem_nightRows, not_exists]

theorem mem_nightRows_of_covers (covers : stay.Covers part) {row : InventoryRow}
    (member : row ∈ stores.inventoryIn roomType part.checkIn part.lastNight) :
    row ∈ stores.inventoryIn roomType stay.checkIn stay.lastNight := by
  obtain ⟨present, own, least, most⟩ := mem_nightRows.mp member
  exact mem_nightRows.mpr ⟨present, own, Int.le_trans covers.checkIn least,
    Int.lt_of_lt_of_le most covers.checkOut⟩

/-- No more rooms are held at some time of a part than of the whole stay. -/
theorem roomsHeld_le_of_covers (covers : stay.Covers part) :
    stores.roomsHeld roomType part ≤ stores.roomsHeld roomType stay := by
  refine List.countP_mono_left fun room _ held => ?_
  rw [Bool.and_eq_true, Bool.and_eq_true] at held ⊢
  exact ⟨⟨held.1.1, covers.overlaps held.1.2⟩, held.2⟩

end Stores

/-! ## Verdicts -/

namespace Availability

section Resolve

variable {totalRooms occupied fewer : Int} {nights few all : List NightSupply}

/-- Neither signal lets rooms be sold on a stop. -/
theorem roomsAvailable_of_stopSell (stopped : nights.any (·.stopSell) = true) :
    (resolve totalRooms occupied nights).roomsAvailable = 0 :=
  if_pos stopped

theorem roomsAvailable_of_open (opened : nights.any (·.stopSell) = false) :
    (resolve totalRooms occupied nights).roomsAvailable =
      max ((nights.map (·.available)).min?.getD (totalRooms - occupied)) 0 :=
  if_neg (Bool.eq_false_iff.mp opened)

theorem roomsAvailable_nonneg : 0 ≤ (resolve totalRooms occupied nights).roomsAvailable := by
  cases stopped : nights.any (·.stopSell) with
  | true => rw [roomsAvailable_of_stopSell stopped]
  | false =>
      rw [roomsAvailable_of_open stopped]
      exact Int.le_max_right _ 0

/-- A stay can be sold exactly if there is a room for it. -/
theorem available_iff :
    (resolve totalRooms occupied nights).available = true ↔
      0 < (resolve totalRooms occupied nights).roomsAvailable := by
  cases stopped : nights.any (·.stopSell) with
  | true =>
      rw [roomsAvailable_of_stopSell stopped, resolve, stopped]
      exact ⟨fun sold => (nomatch sold), fun positive => absurd positive (Int.lt_irrefl 0)⟩
  | false =>
      rw [roomsAvailable_of_open stopped, resolve, stopped, Bool.not_false, Bool.true_and,
        decide_eq_true_eq]
      omega

/-- The least of all nights is no more than that of some, and no more rooms are left where
more are held. -/
theorem least_le (totalRooms : Int) (within : ∀ night ∈ few, night ∈ all) (held : fewer ≤ occupied)
    (same : few = [] → all = []) :
    (all.map (·.available)).min?.getD (totalRooms - occupied) ≤
      (few.map (·.available)).min?.getD (totalRooms - fewer) := by
  cases least : (few.map (·.available)).min? with
  | none =>
      rw [same (List.map_eq_nil_iff.mp (List.min?_eq_none_iff.mp least))]
      exact Int.sub_le_sub_left held totalRooms
  | some rooms =>
      obtain ⟨night, member, counts⟩ := List.mem_map.mp (List.min?_mem least)
      have counted : rooms ∈ all.map (·.available) :=
        List.mem_map.mpr ⟨night, within night member, counts⟩
      obtain ⟨lower, lowest⟩ := Option.isSome_iff_exists.mp (List.isSome_min?_of_mem counted)
      rw [lowest]
      exact (List.min?_eq_some_iff.mp lowest).2 rooms counted

/-- There are no fewer rooms for some of the nights while fewer are held. -/
theorem roomsAvailable_le (within : ∀ night ∈ few, night ∈ all) (held : fewer ≤ occupied)
    (same : few = [] → all = []) :
    (resolve totalRooms occupied all).roomsAvailable ≤
      (resolve totalRooms fewer few).roomsAvailable := by
  cases stopped : all.any (·.stopSell) with
  | true =>
      rw [roomsAvailable_of_stopSell stopped]
      exact roomsAvailable_nonneg
  | false =>
      have opened : few.any (·.stopSell) = false := by
        rw [List.any_eq_false] at stopped ⊢
        exact fun night member => stopped night (within night member)
      have least := least_le totalRooms within held same
      rw [roomsAvailable_of_open stopped, roomsAvailable_of_open opened]
      omega

end Resolve

/-! ## Checks -/

open Service

variable {circumstance : Circumstance} {backend after : Backend} {hotel roomType : Id}
  {stay part : Stay}

/-- The verdict on a stay. -/
def ofStay (stores : Stores) (roomType : Id) (stay : Stay) : Availability :=
  resolve (stores.directory.sellableRooms roomType) (stores.roomsHeld roomType stay)
    ((stores.inventoryIn roomType stay.checkIn stay.lastNight).map (·.supply))

/-- All stores that a check asks answer, and the room type is one of the hotel. -/
structure CanCheck (circumstance : Circumstance) (backend : Backend) (hotel roomType : Id) :
    Prop where
  directory : circumstance.reachable .directory = true
  reservations : circumstance.reachable .reservations = true
  inventory : circumstance.reachable .inventory = true
  housed : (backend.stores.directory.roomType? hotel roomType).isSome = true

/-- The backend once a check has been counted. -/
def counted (backend : Backend) : Backend :=
  { backend with metrics := backend.metrics.record .availabilityCheck 0 }

theorem run_check_ok {answer : Availability} :
    run (check hotel roomType stay) circumstance backend = (.ok answer, after) ↔
      CanCheck circumstance backend hotel roomType ∧
        (∃ nights, stay.nights circumstance.maxStayNights = .ok nights) ∧
        answer = ofStay backend.stores roomType stay ∧ after = counted backend := by
  simp only [check, nightsOf, run_bind_ok, run_count_ok, run_roomType_ok, run_read_ok,
    run_accept_ok, run_consult_ok, run_pure_ok]
  constructor
  · rintro ⟨_, _, rfl, _, _, ⟨known, housed, rfl⟩, nights, _, ⟨_, _, ⟨rfl, rfl⟩, accepted, rfl⟩,
      _, _, ⟨_, rfl, rfl⟩, _, _, ⟨reserved, rfl, rfl⟩, _, _, ⟨stocked, rfl, rfl⟩, rfl, rfl⟩
    exact ⟨⟨known, reserved, stocked, Option.isSome_of_eq_some housed⟩, ⟨nights, accepted⟩, rfl,
      rfl⟩
  · rintro ⟨⟨known, reserved, stocked, housed⟩, ⟨nights, accepted⟩, rfl, rfl⟩
    obtain ⟨_, housed⟩ := Option.isSome_iff_exists.mp housed
    exact ⟨(), _, rfl, _, _, ⟨known, housed, rfl⟩, nights, _, ⟨_, _, ⟨rfl, rfl⟩, accepted, rfl⟩,
      _, _, ⟨known, rfl, rfl⟩, _, _, ⟨reserved, rfl, rfl⟩, _, _, ⟨stocked, rfl, rfl⟩, rfl, rfl⟩

/-- The verdicts on a stay and on a part of it, where the same signal decides. -/
theorem ofStay_le {stores : Stores} (covers : stay.Covers part)
    (same : stores.HasRowIn roomType part ∨ ¬ stores.HasRowIn roomType stay) :
    ((ofStay stores roomType stay).available = true →
        (ofStay stores roomType part).available = true) ∧
      (ofStay stores roomType stay).roomsAvailable ≤
        (ofStay stores roomType part).roomsAvailable := by
  have within : ∀ night ∈ (stores.inventoryIn roomType part.checkIn part.lastNight).map (·.supply),
      night ∈ (stores.inventoryIn roomType stay.checkIn stay.lastNight).map (·.supply) := by
    intro night member
    obtain ⟨row, present, rfl⟩ := List.mem_map.mp member
    exact List.mem_map_of_mem (Stores.mem_nightRows_of_covers covers present)
  have fewer : (stores.roomsHeld roomType part : Int) ≤ stores.roomsHeld roomType stay :=
    Int.ofNat_le.mpr (Stores.roomsHeld_le_of_covers covers)
  have rooms : (ofStay stores roomType stay).roomsAvailable ≤
      (ofStay stores roomType part).roomsAvailable := by
    refine roomsAvailable_le within fewer fun empty => ?_
    have rowless := Stores.not_hasRowIn_iff.mpr (List.map_eq_nil_iff.mp empty)
    rw [Stores.not_hasRowIn_iff.mp (same.resolve_left rowless), List.map_nil]
  refine ⟨fun sold => ?_, rooms⟩
  exact available_iff.mpr (Int.lt_of_lt_of_le (available_iff.mp sold) rooms)

/-- Without rows the reservations decide. -/
theorem ofStay_of_rowless {stores : Stores} (rowless : ¬ stores.HasRowIn roomType stay) :
    (ofStay stores roomType stay).source = .reservations ∧
      (ofStay stores roomType stay).roomsAvailable =
        max (stores.directory.sellableRooms roomType - stores.roomsHeld roomType stay) 0 := by
  rw [ofStay, Stores.not_hasRowIn_iff.mp rowless]
  exact ⟨rfl, rfl⟩

/-- **A part of a stay.** A stay and a part of it that are both accepted get verdicts. If the
part has a night with a row, or the stay has none, then the part can be sold if the whole
stay can, with no fewer rooms. Otherwise the part goes by the reservations alone. -/
theorem check_part (asked : CanCheck circumstance backend hotel roomType)
    (accepted : ∃ nights, stay.nights circumstance.maxStayNights = .ok nights)
    (partAccepted : ∃ nights, part.nights circumstance.maxStayNights = .ok nights)
    (covers : stay.Covers part) :
    ∃ whole less : Availability,
      run (check hotel roomType stay) circumstance backend = (.ok whole, counted backend) ∧
      run (check hotel roomType part) circumstance backend = (.ok less, counted backend) ∧
      (backend.stores.HasRowIn roomType part ∨ ¬ backend.stores.HasRowIn roomType stay →
        (whole.available = true → less.available = true) ∧
          whole.roomsAvailable ≤ less.roomsAvailable) ∧
      (¬ backend.stores.HasRowIn roomType part → less.source = .reservations ∧
        less.roomsAvailable = max (backend.stores.directory.sellableRooms roomType -
          backend.stores.roomsHeld roomType part) 0) :=
  ⟨_, _, run_check_ok.mpr ⟨asked, accepted, rfl, rfl⟩,
    run_check_ok.mpr ⟨asked, partAccepted, rfl, rfl⟩, ofStay_le covers, ofStay_of_rowless⟩

end Availability

/-! ## A night that the ledger leaves out -/

namespace Sample

/-- The id of a house. -/
def inn : Id := Stores.empty.supply.next

/-- The id of its only room type. -/
def chamber : Id := Stores.empty.supply.rest.next

/-- The house has one room, which is held for a night. -/
def taken : Backend where
  stores :=
    (((Stores.empty.addHotel ⟨8⟩).2.addRoomType inn "King" 1).2.addReservation inn chamber none
      .confirmed ⟨⟨10⟩, ⟨11⟩⟩ default).2
  metrics := default

/-- The ledger counts three rooms on the night after. -/
def overstated : Backend :=
  Event.after
    { call := .putInventory inn chamber
        { InventoryPatch.forDate ⟨11⟩ with totalRooms := some 3 }
      circumstance }
    taken

theorem overstated_reachable : overstated.stores.Reachable :=
  .called (.reservation (.roomType (.hotel .empty _) _ _ _) inn chamber none .confirmed
    ⟨⟨10⟩, ⟨11⟩⟩ default fun _ absent => nomatch absent) _

end Sample

open Sample Service in
/-- Three rooms are available for two nights, but none for the first of them, which is
held. -/
theorem Availability.check_two_nights :
    overstated.stores.Reachable ∧ Stay.Covers ⟨⟨10⟩, ⟨12⟩⟩ ⟨⟨10⟩, ⟨11⟩⟩ ∧
    ∃ whole less : Availability,
      run (check inn chamber ⟨⟨10⟩, ⟨12⟩⟩) circumstance overstated =
        (.ok whole, counted overstated) ∧
      run (check inn chamber ⟨⟨10⟩, ⟨11⟩⟩) circumstance overstated =
        (.ok less, counted overstated) ∧
      whole.available = true ∧ whole.roomsAvailable = 3 ∧
      less.available = false ∧ less.roomsAvailable = 0 := by
  have asked : CanCheck circumstance overstated inn chamber :=
    ⟨rfl, rfl, rfl, by decide +kernel⟩
  refine ⟨overstated_reachable, ⟨by decide, by decide⟩,
    ofStay overstated.stores chamber ⟨⟨10⟩, ⟨12⟩⟩,
    ofStay overstated.stores chamber ⟨⟨10⟩, ⟨11⟩⟩,
    run_check_ok.mpr ⟨asked, ⟨2, rfl⟩, rfl, rfl⟩, run_check_ok.mpr ⟨asked, ⟨1, rfl⟩, rfl, rfl⟩,
    ?_⟩
  decide +kernel

open Sample Service in
/-- The row of the second night decides on it as on both nights; on the first night the
reservations decide. -/
theorem Availability.check_second_night :
    ∃ whole first second : Availability,
      run (check inn chamber ⟨⟨10⟩, ⟨12⟩⟩) circumstance overstated =
        (.ok whole, counted overstated) ∧
      run (check inn chamber ⟨⟨10⟩, ⟨11⟩⟩) circumstance overstated =
        (.ok first, counted overstated) ∧
      run (check inn chamber ⟨⟨11⟩, ⟨12⟩⟩) circumstance overstated =
        (.ok second, counted overstated) ∧
      first.source = .reservations ∧ first.roomsAvailable = 0 ∧
      (whole.available = true → second.available = true) ∧
      whole.roomsAvailable ≤ second.roomsAvailable := by
  have asked : CanCheck circumstance overstated inn chamber :=
    ⟨rfl, rfl, rfl, by decide +kernel⟩
  have row : overstated.stores.HasRowIn chamber ⟨⟨11⟩, ⟨12⟩⟩ := by
    unfold Stores.HasRowIn
    decide +kernel
  have rowless : ¬ overstated.stores.HasRowIn chamber ⟨⟨10⟩, ⟨11⟩⟩ := by
    unfold Stores.HasRowIn
    decide +kernel
  have coversFirst : Stay.Covers ⟨⟨10⟩, ⟨12⟩⟩ ⟨⟨10⟩, ⟨11⟩⟩ := ⟨by decide, by decide⟩
  have coversSecond : Stay.Covers ⟨⟨10⟩, ⟨12⟩⟩ ⟨⟨11⟩, ⟨12⟩⟩ := ⟨by decide, by decide⟩
  obtain ⟨_, first, _, one, _, reserved⟩ := check_part asked ⟨2, rfl⟩ ⟨1, rfl⟩ coversFirst
  obtain ⟨whole, second, both, other, same, _⟩ :=
    check_part asked ⟨2, rfl⟩ ⟨1, rfl⟩ coversSecond
  obtain ⟨source, rooms⟩ := reserved rowless
  refine ⟨whole, first, second, both, one, other, source, rooms.trans ?_, same (.inl row)⟩
  decide +kernel

end Lodging
