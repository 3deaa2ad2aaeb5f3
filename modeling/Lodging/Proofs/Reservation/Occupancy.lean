import Lodging.Proofs.Inventory.PartOfStay

/-! # Rooms that are held night by night

A check looks at the days on which stays begin and end, and never at a night. Still what it
counts are the rooms that are held on some night of the stay, each once, since stays that have
nights collide exactly if they share one (`Lodging.Stay.sharesNight_iff`). So no night has more
rooms held than the check reports, and where reservations decide a stay is not sold unless
every night has a room left (`Lodging.Availability.check_occupied`).

This needs that rooms are booked from a day to a later one. They are booked for the days of
their reservations in all stores that can be reached
(`Lodging.Stores.Reachable.roomsFollowReservations`).
-/

namespace Lodging

/-! ## Nights that are shared -/

namespace Stay

variable {one other : Stay} {night : Date}

/-- The day is one of the nights: that of check-in is, that of check-out is not. -/
def HasNight (stay : Stay) (night : Date) : Prop :=
  stay.checkIn ≤ night ∧ night < stay.checkOut

instance (stay : Stay) (night : Date) : Decidable (stay.HasNight night) :=
  inferInstanceAs (Decidable (_ ∧ _))

/-- Some night belongs to both stays. -/
def SharesNight (one other : Stay) : Prop :=
  ∃ night, one.HasNight night ∧ other.HasNight night

/-- Stays share a night if both have one and they collide. -/
theorem sharesNight_iff : one.SharesNight other ↔
    one.checkIn < one.checkOut ∧ other.checkIn < other.checkOut ∧
      one.overlaps other = true := by
  rw [overlaps, Bool.and_eq_true, decide_eq_true_eq, decide_eq_true_eq]
  constructor
  · rintro ⟨night, ⟨after, before⟩, otherAfter, otherBefore⟩
    exact ⟨Int.lt_of_le_of_lt after before, Int.lt_of_le_of_lt otherAfter otherBefore,
      Int.lt_of_le_of_lt after otherBefore, Int.lt_of_le_of_lt otherAfter before⟩
  · rintro ⟨proper, otherProper, begins, ends⟩
    -- The later of the two first nights is one of both.
    rcases Int.le_total one.checkIn.number other.checkIn.number with later | later
    · exact ⟨other.checkIn, ⟨later, ends⟩, Int.le_refl _, otherProper⟩
    · exact ⟨one.checkIn, ⟨Int.le_refl _, proper⟩, later, begins⟩

instance (one other : Stay) : Decidable (one.SharesNight other) :=
  decidable_of_iff _ sharesNight_iff.symm

/-- The only night of a stay is shared by all stays that share one. -/
theorem SharesNight.of_one {stay : Stay} {limit : Nat} (single : stay.nights limit = .ok 1)
    (inside : stay.HasNight night) (shares : one.SharesNight stay) : one.HasNight night := by
  obtain ⟨shared, own, within⟩ := shares
  have length : (1 : Int) = stay.checkOut.number - stay.checkIn.number := nights_ok single
  have same : shared = night := by
    obtain ⟨after, before⟩ := within
    obtain ⟨first, last⟩ := inside
    change stay.checkIn.number ≤ shared.number at after
    change shared.number < stay.checkOut.number at before
    change stay.checkIn.number ≤ night.number at first
    change night.number < stay.checkOut.number at last
    exact congrArg Date.mk (by omega)
  exact same ▸ own

end Stay

/-! ## Rooms that are held -/

theorem ReservationStatus.holdsInventory_iff {status : ReservationStatus} :
    status.holdsInventory = true ↔ status = .confirmed ∨ status = .checkedIn := by
  cases status <;> decide

namespace Stores

variable {stores : Stores} {roomType : Id} {room : BookedRoom} {stay : Stay} {night : Date}

/-- The room is of the type, and its reservation is confirmed or checked in. -/
def Holds (stores : Stores) (roomType : Id) (room : BookedRoom) : Prop :=
  room.roomType = roomType ∧ ∃ entry ∈ stores.reservations, entry.id = room.reservation ∧
    (entry.status = .confirmed ∨ entry.status = .checkedIn)

instance (stores : Stores) (roomType : Id) (room : BookedRoom) :
    Decidable (stores.Holds roomType room) :=
  inferInstanceAs (Decidable (_ ∧ ∃ entry ∈ stores.reservations, _ ∧ (_ ∨ _)))

/-- How many rooms of a type are held on a night. -/
def roomsHeldOn (stores : Stores) (roomType : Id) (night : Date) : Nat :=
  stores.bookedRooms.countP fun room => stores.Holds roomType room ∧ room.stay.HasNight night

/-- How many rooms of a type are held on some night of a stay. -/
def roomsSharing (stores : Stores) (roomType : Id) (stay : Stay) : Nat :=
  stores.bookedRooms.countP fun room => stores.Holds roomType room ∧ room.stay.SharesNight stay

/-- Every room is booked for the days of its reservation. -/
def RoomsFollowReservations (stores : Stores) : Prop :=
  ∀ room ∈ stores.bookedRooms, ∃ entry ∈ stores.reservations,
    entry.id = room.reservation ∧ entry.stay = room.stay

instance (stores : Stores) : Decidable stores.RoomsFollowReservations :=
  inferInstanceAs (Decidable (∀ room ∈ stores.bookedRooms, ∃ entry ∈ stores.reservations, _))

theorem holds_iff : stores.Holds roomType room ↔
    room.roomType = roomType ∧ stores.isHeld room.reservation = true := by
  simp only [Holds, isHeld, List.any_eq_true, Bool.and_eq_true, beq_iff_eq,
    ReservationStatus.holdsInventory_iff]

/-- The rooms that are counted for a stay are those that are held on one of its nights. -/
theorem roomsHeld_eq (follow : stores.RoomsFollowReservations)
    (ordered : ∀ entry ∈ stores.reservations, entry.stay.checkIn < entry.stay.checkOut)
    (proper : stay.checkIn < stay.checkOut) (roomType : Id) :
    stores.roomsHeld roomType stay = stores.roomsSharing roomType stay := by
  refine List.countP_congr fun room member => ?_
  obtain ⟨entry, present, _, same⟩ := follow room member
  have booked : room.stay.checkIn < room.stay.checkOut := same ▸ ordered entry present
  rw [decide_eq_true_eq, holds_iff, Stay.sharesNight_iff, Bool.and_eq_true, Bool.and_eq_true,
    beq_iff_eq]
  constructor
  · rintro ⟨⟨ofType, collides⟩, held⟩
    exact ⟨⟨ofType, held⟩, booked, proper, collides⟩
  · rintro ⟨⟨ofType, held⟩, _, _, collides⟩
    exact ⟨⟨ofType, collides⟩, held⟩

theorem roomsHeldOn_le (inside : stay.HasNight night) :
    stores.roomsHeldOn roomType night ≤ stores.roomsSharing roomType stay := by
  refine List.countP_mono_left fun room _ held => ?_
  rw [decide_eq_true_eq] at held ⊢
  exact ⟨held.1, night, held.2, inside⟩

theorem roomsHeldOn_eq {limit : Nat} (single : stay.nights limit = .ok 1)
    (inside : stay.HasNight night) :
    stores.roomsHeldOn roomType night = stores.roomsSharing roomType stay := by
  refine Nat.le_antisymm (roomsHeldOn_le inside) (List.countP_mono_left fun room _ held => ?_)
  rw [decide_eq_true_eq] at held ⊢
  exact ⟨held.1, held.2.of_one single inside⟩

/-! ## Rooms follow their reservations -/

/-- No call books a room. -/
theorem bookedRooms_of_step {before after : Stores} {event : Event}
    (step : Step before event after) : after.bookedRooms = before.bookedRooms := by
  cases step with
  | planned _ elsewhere => rw [elsewhere]
  | overridesWritten circumstance hotel plan patches =>
      rw [onlyOverridesDiffer_writeOverrides before plan patches circumstance.now]
  | inventoriesWritten circumstance hotel roomType rooms patches =>
      rw [onlyInventoryDiffers_writeInventories before roomType patches rooms circumstance.now]
  | _ => rfl

/-- A reservation keeps its id and its days, whatever is called. -/
theorem reservation_of_step {before after : Stores} {event : Event}
    (step : Step before event after) (apart : (before.reservations.map (·.id)).Nodup)
    {entry : Reservation} (present : entry ∈ before.reservations) :
    ∃ later ∈ after.reservations, later.id = entry.id ∧ later.stay = entry.stay := by
  rcases step.reservations_eq with same | ⟨circumstance, hotel, id, status, reservation, rfl, found,
    _, rfl⟩
  · exact ⟨entry, same ▸ present, rfl, rfl⟩
  · refine ⟨_, List.mem_map_of_mem present, ?_⟩
    split
    · rename_i matched
      rw [Bool.and_eq_true, beq_iff_eq] at matched
      -- Ids are apart, so what is written in its place is the reservation itself.
      obtain ⟨there, own, _⟩ := of_reservation? found
      obtain rfl : reservation = entry :=
        List.inj_on_of_nodup_map apart there present (own.trans matched.1.symm)
      exact ⟨rfl, rfl⟩
    · exact ⟨rfl, rfl⟩

/-- **Rooms and reservations.** In all stores that can be reached rooms are booked for the
days of their reservations. -/
theorem Reachable.roomsFollowReservations (reached : stores.Reachable) :
    stores.RoomsFollowReservations := by
  induction reached with
  | empty => exact fun _ member => nomatch member
  | organization _ follow => exact follow
  | hotel _ _ follow => exact follow
  | roomType _ _ _ _ follow => exact follow
  | revised _ _ _ follow => exact follow
  | reservation _ hotel roomType plan status stay now _ follow =>
      intro room member
      rcases List.mem_append.mp member with old | new
      · obtain ⟨entry, present, same⟩ := follow room old
        exact ⟨entry, List.mem_append_left _ present, same⟩
      · obtain rfl := List.mem_singleton.mp new
        exact ⟨_, List.mem_append_right _ (List.mem_singleton_self _), rfl, rfl⟩
  | called reached event follow =>
      intro room member
      rw [bookedRooms_of_step (event.step _)] at member
      obtain ⟨entry, present, own, same⟩ := follow room member
      obtain ⟨later, kept, sameId, sameStay⟩ :=
        reservation_of_step (event.step _) reached.orderly.reservationsApart present
      exact ⟨later, kept, sameId.trans own, sameStay.trans same⟩

end Stores

/-! ## What a check reports -/

namespace Availability

open Service

variable {circumstance : Circumstance} {backend : Backend} {hotel roomType : Id} {stay : Stay}
  {nights : Nat}

/-- Where reservations decide and a stay can be sold, there is a room that is not held. -/
theorem occupied_lt_of_available {stores : Stores} (rowless : ¬ stores.HasRowIn roomType stay)
    (sold : (ofStay stores roomType stay).available = true) :
    (ofStay stores roomType stay).occupied < (ofStay stores roomType stay).totalRooms := by
  have rooms : 0 < max (stores.directory.sellableRooms roomType -
      (stores.roomsHeld roomType stay : Int)) 0 :=
    (ofStay_of_rowless rowless).2 ▸ available_iff.mp sold
  change (stores.roomsHeld roomType stay : Int) < stores.directory.sellableRooms roomType
  omega

/-- **Occupied rooms.** A check of a stay that is accepted reports how many rooms are held on
some night of it, each counted once. No fewer are reported than are held on each of its
nights, and as many for a single night. If no row is on a night of the stay and it can be
sold, then fewer rooms are held on every night than there are. -/
theorem check_occupied (asked : CanCheck circumstance backend hotel roomType)
    (accepted : stay.nights circumstance.maxStayNights = .ok nights)
    (ordered : ∀ entry ∈ backend.stores.reservations, entry.stay.checkIn < entry.stay.checkOut)
    (follow : backend.stores.RoomsFollowReservations) :
    ∃ verdict : Availability,
      run (check hotel roomType stay) circumstance backend = (.ok verdict, counted backend) ∧
      verdict.totalRooms = backend.stores.directory.sellableRooms roomType ∧
      verdict.occupied = backend.stores.roomsSharing roomType stay ∧
      (∀ night ∈ Stay.nightsFrom stay.checkIn nights,
        (backend.stores.roomsHeldOn roomType night : Int) ≤ verdict.occupied ∧
        (nights = 1 → (backend.stores.roomsHeldOn roomType night : Int) = verdict.occupied)) ∧
      (¬ backend.stores.HasRowIn roomType stay → verdict.available = true →
        ∀ night ∈ Stay.nightsFrom stay.checkIn nights,
          (backend.stores.roomsHeldOn roomType night : Int) < verdict.totalRooms) := by
  have proper : stay.checkIn < stay.checkOut := Int.lt_of_sub_pos (Stay.span_pos accepted)
  have occupied : (ofStay backend.stores roomType stay).occupied =
      backend.stores.roomsSharing roomType stay :=
    congrArg Int.ofNat (Stores.roomsHeld_eq follow ordered proper roomType)
  have least : ∀ night ∈ Stay.nightsFrom stay.checkIn nights,
      (backend.stores.roomsHeldOn roomType night : Int) ≤
        (ofStay backend.stores roomType stay).occupied := by
    intro night member
    rw [occupied]
    exact Int.ofNat_le.mpr (Stores.roomsHeldOn_le ((Stay.mem_nights accepted).mp member))
  refine ⟨_, run_check_ok.mpr ⟨asked, ⟨nights, accepted⟩, rfl, rfl⟩, rfl, occupied,
    fun night member => ⟨least night member, ?_⟩, fun rowless sold night member => ?_⟩
  · rintro rfl
    rw [occupied]
    exact congrArg Int.ofNat
      (Stores.roomsHeldOn_eq accepted ((Stay.mem_nights accepted).mp member))
  · exact Int.lt_of_le_of_lt (least night member) (occupied_lt_of_available rowless sold)

end Availability

/-! ## A house with three reservations -/

namespace Sample

/-- The house has three rooms. -/
def spacious : Stores :=
  ((Stores.empty.addHotel ⟨8⟩).2.addRoomType inn "King" 3).2

/-- One room is held up to the day from which another one is, and a third is not held. -/
def adjoining : Backend where
  stores :=
    (((spacious.addReservation inn chamber none .confirmed ⟨⟨10⟩, ⟨12⟩⟩ default).2.addReservation
      inn chamber none .checkedIn ⟨⟨12⟩, ⟨14⟩⟩ default).2.addReservation
      inn chamber none .cancelled ⟨⟨10⟩, ⟨14⟩⟩ default).2
  metrics := default

theorem adjoining_reachable : adjoining.stores.Reachable :=
  .reservation (.reservation (.reservation (.roomType (.hotel .empty _) _ _ _)
    inn chamber none _ _ _ fun _ absent => nomatch absent)
    inn chamber none _ _ _ fun _ absent => nomatch absent)
    inn chamber none _ _ _ fun _ absent => nomatch absent

end Sample

open Sample Service in
/-- A stay over the day on which the guests change has both rooms counted, though on each of
its nights only one is held. It can be sold, and each night has a room left. -/
theorem Availability.check_occupied_adjoining :
    adjoining.stores.Reachable ∧
    ∃ verdict : Availability,
      run (check inn chamber ⟨⟨11⟩, ⟨13⟩⟩) circumstance adjoining =
        (.ok verdict, counted adjoining) ∧
      verdict.occupied = 2 ∧ verdict.available = true ∧ verdict.totalRooms = 3 ∧
      adjoining.stores.roomsHeldOn chamber ⟨11⟩ = 1 ∧
      (adjoining.stores.roomsHeldOn chamber ⟨11⟩ : Int) ≤ verdict.occupied ∧
      ∀ night ∈ Stay.nightsFrom ⟨11⟩ 2,
        (adjoining.stores.roomsHeldOn chamber night : Int) < verdict.totalRooms := by
  have asked : CanCheck circumstance adjoining inn chamber :=
    ⟨rfl, rfl, rfl, by decide +kernel⟩
  have ordered : ∀ entry ∈ adjoining.stores.reservations,
      entry.stay.checkIn < entry.stay.checkOut := by
    decide +kernel
  have rowless : ¬ adjoining.stores.HasRowIn chamber ⟨⟨11⟩, ⟨13⟩⟩ := by
    unfold Stores.HasRowIn
    decide +kernel
  have accepted : Stay.nights ⟨⟨11⟩, ⟨13⟩⟩ circumstance.maxStayNights = .ok 2 := rfl
  obtain ⟨verdict, reported, total, occupied, nightly, sold⟩ :=
    check_occupied asked accepted ordered adjoining_reachable.roomsFollowReservations
  have available : verdict.available = true := by
    obtain ⟨_, _, rfl, _⟩ := run_check_ok.mp reported
    decide +kernel
  have first : (⟨11⟩ : Date) ∈ Stay.nightsFrom ⟨11⟩ 2 := by decide
  refine ⟨adjoining_reachable, verdict, reported, occupied.trans ?_, available, total.trans ?_, ?_,
    (nightly ⟨11⟩ first).1, sold rowless available⟩
  · decide +kernel
  · decide +kernel
  · decide +kernel

end Lodging
