import Lodging.Proofs.Tenancy.Slice

/-! # Stores that are the same for a hotel

*Twins* hold the same of a hotel, whatever else they hold. Every search that a service
makes below the hotel finds the same in both, also those that are not limited to a
hotel: they are made only for plans and room types that were found to be of the hotel,
and what refers to these is part of its slice.
-/

namespace Lodging

/-- Two slices are the same: plans in their order, all else in whatever order. -/
structure Slice.Same (one other : Slice) : Prop where
  hotels : one.hotels.Perm other.hotels
  roomTypes : one.roomTypes.Perm other.roomTypes
  plans : one.plans = other.plans
  overrides : one.overrides.Perm other.overrides
  inventory : one.inventory.Perm other.inventory
  reservations : one.reservations.Perm other.reservations
  bookedRooms : one.bookedRooms.Perm other.bookedRooms

namespace Stores

/-- Stores in order that hold the same of a hotel. -/
structure Twins (hotel : Id) (one other : Stores) : Prop where
  left : one.Orderly
  right : other.Orderly
  same : (one.slice hotel).Same (other.slice hotel)

variable {stores one other : Stores} {hotel id : Id}

/-! ## Searches below a hotel find what is in its slice -/

/-- A plan is found in the slice of its hotel. -/
theorem plan?_slice (stores : Stores) (hotel id : Id) :
    (stores.slice hotel).plans.find? (fun plan => plan.id == id && plan.isLiveIn hotel) =
      stores.plan? hotel id := by
  refine find?_filter_of_imp fun plan _ matched => ?_
  rw [Bool.and_eq_true, isLiveIn_iff] at matched
  exact beq_iff_eq.mpr matched.2.1

/-- So is a plan that is sought by its code. -/
theorem planByCode?_slice (stores : Stores) (hotel : Id) (code : String) :
    (stores.slice hotel).plans.find? (fun plan => plan.code == code && plan.isLiveIn hotel) =
      stores.planByCode? hotel code := by
  refine find?_filter_of_imp fun plan _ matched => ?_
  rw [Bool.and_eq_true, isLiveIn_iff] at matched
  exact beq_iff_eq.mpr matched.2.1

namespace Twins

/-- Twins find the same plan by an id. -/
theorem plan? (twins : Twins hotel one other) (id : Id) :
    one.plan? hotel id = other.plan? hotel id := by
  rw [← plan?_slice, ← plan?_slice, twins.same.plans]

/-- Twins find the same plan by a code. -/
theorem planByCode? (twins : Twins hotel one other) (code : String) :
    one.planByCode? hotel code = other.planByCode? hotel code := by
  rw [← planByCode?_slice, ← planByCode?_slice, twins.same.plans]

/-- What is asked of the hotel's plans alone is answered the same. -/
theorem filter_plans (twins : Twins hotel one other) {asked : RatePlan → Bool}
    (ownOne : ∀ plan ∈ one.plans, asked plan = true → (plan.hotel == hotel) = true)
    (ownOther : ∀ plan ∈ other.plans, asked plan = true → (plan.hotel == hotel) = true) :
    one.plans.filter asked = other.plans.filter asked :=
  calc one.plans.filter asked
    _ = (one.slice hotel).plans.filter asked := (filter_filter_of_imp ownOne).symm
    _ = (other.slice hotel).plans.filter asked := by rw [twins.same.plans]
    _ = other.plans.filter asked := filter_filter_of_imp ownOther

/-- Twins list the same plans. -/
theorem plansOf (twins : Twins hotel one other) (roomType : Option Id) :
    one.plansOf hotel roomType = other.plansOf hotel roomType := by
  have own (plan : RatePlan)
      (matched : (plan.isLiveIn hotel && roomType.all (plan.roomType == ·)) = true) :
      (plan.hotel == hotel) = true := by
    rw [Bool.and_eq_true, isLiveIn_iff] at matched
    exact beq_iff_eq.mpr matched.1.1
  have same := twins.filter_plans (fun plan _ => own plan) fun plan _ => own plan
  rw [Stores.plansOf, Stores.plansOf, same]

/-- Twins offer the same plans for booking. -/
theorem applicablePlans (twins : Twins hotel one other) (roomType : Id) (checkIn : Date)
    (channel : Option String) (isPublic : Option Bool) :
    one.applicablePlans hotel roomType checkIn channel isPublic =
      other.applicablePlans hotel roomType checkIn channel isPublic := by
  have own (plan : RatePlan) (matched : (plan.hotel == hotel && plan.roomType == roomType &&
      plan.isApplicable checkIn channel isPublic) = true) : (plan.hotel == hotel) = true := by
    rw [Bool.and_eq_true, Bool.and_eq_true] at matched
    exact matched.1.1
  have same := twins.filter_plans (fun plan _ => own plan) fun plan _ => own plan
  rw [Stores.applicablePlans, Stores.applicablePlans, same]

/-! ## What is the hotel's -/

/-- Twins know whether the hotel is one of an organization. -/
theorem hotelIn (twins : Twins hotel one other) (organization : Id) :
    one.directory.hotelIn organization hotel = other.directory.hotelIn organization hotel := by
  have inSlice (stores : Stores) : ((stores.slice hotel).hotels.any fun entry =>
        entry.id == hotel && entry.organization == organization) =
      stores.directory.hotelIn organization hotel := by
    refine any_filter_of_imp fun entry _ matched => ?_
    rw [Bool.and_eq_true] at matched
    exact matched.1
  rw [← inSlice, ← inSlice]
  exact twins.same.hotels.any_eq

/-- Twins agree on which plans are of the hotel. -/
theorem ownsPlan (twins : Twins hotel one other) (id : Id) :
    one.ownsPlan hotel id = other.ownsPlan hotel id := by
  have inSlice (stores : Stores) :
      (stores.slice hotel).plans.any (·.id == id) = stores.ownsPlan hotel id := by
    rw [slice, List.any_filter, Stores.ownsPlan]
    exact List.any_congr rfl fun plan => Bool.and_comm _ _
  rw [← inSlice, ← inSlice, twins.same.plans]

/-- Twins agree on which room types are of the hotel. -/
theorem ownsRoomType (twins : Twins hotel one other) (id : Id) :
    one.ownsRoomType hotel id = other.ownsRoomType hotel id := by
  have inSlice (stores : Stores) :
      (stores.slice hotel).roomTypes.any (·.id == id) = stores.ownsRoomType hotel id := by
    rw [Bool.eq_iff_iff, ownsRoomType_iff, List.any_eq_true, Directory.homes, List.mem_map]
    simp only [slice, List.mem_filter, beq_iff_eq, Prod.mk.injEq, and_assoc, and_comm]
  rw [← inSlice, ← inSlice]
  exact twins.same.roomTypes.any_eq

/-- A plan of the hotel in the one is one in the other. -/
theorem ownsPlan_right (twins : Twins hotel one other) (owned : one.ownsPlan hotel id = true) :
    other.ownsPlan hotel id = true :=
  (twins.ownsPlan id).symm.trans owned

/-- A room type of the hotel in the one is one in the other. -/
theorem ownsRoomType_right (twins : Twins hotel one other)
    (owned : one.ownsRoomType hotel id = true) : other.ownsRoomType hotel id = true :=
  (twins.ownsRoomType id).symm.trans owned

end Twins

/-- A room type is at home in one hotel only. -/
theorem Orderly.eq_of_home (orderly : stores.Orderly) {owner : Id}
    (owned : stores.ownsRoomType hotel id = true)
    (home : (id, owner) ∈ stores.directory.homes) : owner = hotel := by
  have same := List.inj_on_of_nodup_map orderly.homesApart home (ownsRoomType_iff.mp owned) rfl
  exact congrArg Prod.snd same

/-- Twins have the same open plans for a room type of the hotel, since nobody else plans for it. -/
theorem Twins.publicPlans (twins : Twins hotel one other)
    (owned : one.ownsRoomType hotel id = true) : one.publicPlans id = other.publicPlans id := by
  have own {stores : Stores} (orderly : stores.Orderly)
      (owned : stores.ownsRoomType hotel id = true) (plan : RatePlan) (member : plan ∈ stores.plans)
      (matched : (plan.roomType == id && plan.isPublic && plan.isActive && plan.isLive) = true) :
      (plan.hotel == hotel) = true := by
    rw [Bool.and_eq_true, Bool.and_eq_true, Bool.and_eq_true, beq_iff_eq] at matched
    have home := (orderly.plans plan member).2
    rw [matched.1.1.1] at home
    exact beq_iff_eq.mpr (orderly.eq_of_home owned home)
  exact twins.filter_plans (own twins.left owned) (own twins.right (twins.ownsRoomType_right owned))

/-! ## The directory -/

/-- No two room types share an id. -/
theorem Orderly.roomTypesApart (orderly : stores.Orderly) :
    (stores.directory.roomTypes.map (·.id)).Nodup := by
  have apart := orderly.homesApart
  rwa [Directory.homes, List.map_map] at apart

namespace Twins

/-- Twins find the same room type of the hotel. -/
theorem roomType? (twins : Twins hotel one other) (id : Id) :
    one.directory.roomType? hotel id = other.directory.roomType? hotel id := by
  have own (roomType : RoomType) (matched : (roomType.id == id && roomType.hotel == hotel &&
      roomType.deletedAt.isNone) = true) : roomType.id = id ∧ (roomType.hotel == hotel) = true := by
    rw [Bool.and_eq_true, Bool.and_eq_true, beq_iff_eq] at matched
    exact matched.1
  calc one.directory.roomType? hotel id
    _ = (one.slice hotel).roomTypes.find? _ :=
      (find?_filter_of_imp fun roomType _ matched => (own roomType matched).2).symm
    _ = (other.slice hotel).roomTypes.find? _ :=
      find?_eq_of_perm twins.same.roomTypes <|
        eq_of_isMatch (twins.left.roomTypesApart.sublist (List.filter_sublist.map _))
          fun roomType matched => (own roomType matched).1
    _ = other.directory.roomType? hotel id :=
      find?_filter_of_imp fun roomType _ matched => (own roomType matched).2

/-- Twins count the same rooms of a room type of the hotel. -/
theorem sellableRooms (twins : Twins hotel one other) (owned : one.ownsRoomType hotel id = true) :
    one.directory.sellableRooms id = other.directory.sellableRooms id := by
  have ownedToo := twins.ownsRoomType_right owned
  have own {stores : Stores} (orderly : stores.Orderly)
      (owned : stores.ownsRoomType hotel id = true) (roomType : RoomType)
      (member : roomType ∈ stores.directory.roomTypes) (matched : (roomType.id == id) = true) :
      (roomType.hotel == hotel) = true := by
    have home : (roomType.id, roomType.hotel) ∈ stores.directory.homes := List.mem_map_of_mem member
    rw [beq_iff_eq.mp matched] at home
    exact beq_iff_eq.mpr (orderly.eq_of_home owned home)
  have found : one.directory.roomTypes.find? (·.id == id) =
      other.directory.roomTypes.find? (·.id == id) :=
    calc one.directory.roomTypes.find? (·.id == id)
      _ = (one.slice hotel).roomTypes.find? (·.id == id) :=
        (find?_filter_of_imp (own twins.left owned)).symm
      _ = (other.slice hotel).roomTypes.find? (·.id == id) :=
        find?_eq_of_perm twins.same.roomTypes <|
          eq_of_isMatch (twins.left.roomTypesApart.sublist (List.filter_sublist.map _))
            fun roomType matched => beq_iff_eq.mp matched
      _ = other.directory.roomTypes.find? (·.id == id) :=
        find?_filter_of_imp (own twins.right ownedToo)
  rw [Directory.sellableRooms, Directory.sellableRooms, found]

/-! ## Overrides and the ledger -/

/-- Twins have the same override of a plan of the hotel on a date. -/
theorem override? (twins : Twins hotel one other) (owned : one.ownsPlan hotel id = true)
    (date : Date) : one.override? id date = other.override? id date :=
  find?_eq_of_owner twins.same.overrides twins.left.overridesApart (fun _ own => own ▸ owned)
    (fun _ own => own ▸ twins.ownsPlan_right owned) date

/-- They read the same range of them. -/
theorem overridesIn (twins : Twins hotel one other) (owned : one.ownsPlan hotel id = true)
    (first last : Date) : one.overridesIn id first last = other.overridesIn id first last :=
  inRange_eq_of_owner twins.same.overrides twins.left.overridesApart (fun _ own => own ▸ owned)
    (fun _ own => own ▸ twins.ownsPlan_right owned) first last

/-- Twins have the same row for a room type of the hotel on a date. -/
theorem inventory? (twins : Twins hotel one other) (owned : one.ownsRoomType hotel id = true)
    (date : Date) : one.inventory? id date = other.inventory? id date :=
  find?_eq_of_owner twins.same.inventory twins.left.inventoryApart (fun _ own => own ▸ owned)
    (fun _ own => own ▸ twins.ownsRoomType_right owned) date

/-- They read the same range of the ledger. -/
theorem inventoryIn (twins : Twins hotel one other) (owned : one.ownsRoomType hotel id = true)
    (first last : Date) : one.inventoryIn id first last = other.inventoryIn id first last :=
  inRange_eq_of_owner twins.same.inventory twins.left.inventoryApart (fun _ own => own ▸ owned)
    (fun _ own => own ▸ twins.ownsRoomType_right owned) first last

/-! ## Reservations -/

/-- Twins find the same reservation of the hotel. -/
theorem reservation? (twins : Twins hotel one other) (id : Id) :
    one.reservation? hotel id = other.reservation? hotel id := by
  have own (entry : Reservation) (matched : (entry.id == id && entry.hotel == hotel) = true) :
      entry.id = id ∧ entry.hotel = hotel := by
    rw [Bool.and_eq_true, beq_iff_eq, beq_iff_eq] at matched
    exact matched
  calc one.reservation? hotel id
    _ = (one.slice hotel).reservations.find? _ :=
      (find?_filter_of_imp fun entry _ matched => concerns_of_hotel (own entry matched).2).symm
    _ = (other.slice hotel).reservations.find? _ :=
      find?_eq_of_perm twins.same.reservations <|
        eq_of_isMatch (twins.left.reservationsApart.sublist (List.filter_sublist.map _))
          fun entry matched => (own entry matched).1
    _ = other.reservation? hotel id :=
      find?_filter_of_imp fun entry _ matched => concerns_of_hotel (own entry matched).2

/-- Twins agree on whether a plan of the hotel is in use, by whichever hotel's reservation. -/
theorem planInUse (twins : Twins hotel one other) (owned : one.ownsPlan hotel id = true) :
    one.planInUse id = other.planInUse id := by
  have ownedToo := twins.ownsPlan_right owned
  have own {stores : Stores} (owned : stores.ownsPlan hotel id = true) (entry : Reservation)
      (_ : entry ∈ stores.reservations)
      (matched : (entry.plan == some id && entry.status.holdsInventory) = true) :
      stores.concerns hotel entry = true := by
    rw [Bool.and_eq_true, beq_iff_eq] at matched
    rw [concerns, matched.1, Option.any_some, owned, Bool.or_true, Bool.true_or]
  calc one.planInUse id
    _ = (one.slice hotel).reservations.any _ := (any_filter_of_imp (own owned)).symm
    _ = (other.slice hotel).reservations.any _ := twins.same.reservations.any_eq
    _ = other.planInUse id := any_filter_of_imp (own ownedToo)

/-- A reservation with a room of the hotel is held in both or in neither. -/
theorem isHeld (twins : Twins hotel one other) {room : BookedRoom}
    (member : room ∈ (one.slice hotel).bookedRooms) :
    one.isHeld room.reservation = other.isHeld room.reservation := by
  have memberToo := twins.same.bookedRooms.mem_iff.mp member
  have own {stores : Stores} (member : room ∈ (stores.slice hotel).bookedRooms)
      (entry : Reservation) (_ : entry ∈ stores.reservations)
      (matched : (entry.id == room.reservation && entry.status.holdsInventory) = true) :
      stores.concerns hotel entry = true := by
    -- Whoever has booked a room of the hotel concerns the hotel.
    obtain ⟨present, owned⟩ := List.mem_filter.mp member
    rw [Bool.and_eq_true, beq_iff_eq] at matched
    rw [concerns, Bool.or_eq_true]
    refine .inr (List.any_eq_true.mpr ⟨room, present, ?_⟩)
    rw [matched.1, beq_self_eq_true, Bool.true_and, owned]
  calc one.isHeld room.reservation
    _ = (one.slice hotel).reservations.any _ := (any_filter_of_imp (own member)).symm
    _ = (other.slice hotel).reservations.any _ := twins.same.reservations.any_eq
    _ = other.isHeld room.reservation := any_filter_of_imp (own memberToo)

/-- Twins hold as many rooms of a type of the hotel during a stay. -/
theorem roomsHeld (twins : Twins hotel one other) (owned : one.ownsRoomType hotel id = true)
    (stay : Stay) : one.roomsHeld id stay = other.roomsHeld id stay := by
  have ownedToo := twins.ownsRoomType_right owned
  have inSlice {stores : Stores} (owned : stores.ownsRoomType hotel id = true) :
      (stores.slice hotel).bookedRooms.countP (fun room => room.roomType == id &&
        room.stay.overlaps stay && stores.isHeld room.reservation) = stores.roomsHeld id stay := by
    rw [slice, List.countP_filter, Stores.roomsHeld]
    refine List.countP_congr fun room _ => ?_
    rw [Bool.and_eq_true, and_iff_left_iff_imp]
    intro matched
    rw [Bool.and_eq_true, Bool.and_eq_true, beq_iff_eq] at matched
    exact matched.1.1 ▸ owned
  calc one.roomsHeld id stay
    _ = (one.slice hotel).bookedRooms.countP _ := (inSlice owned).symm
    _ = (other.slice hotel).bookedRooms.countP _ :=
      twins.same.bookedRooms.countP_congr fun room member => by rw [twins.isHeld member]
    _ = other.roomsHeld id stay := inSlice ownedToo

end Twins

end Stores

end Lodging
