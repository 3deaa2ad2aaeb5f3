import Lodging.Proofs.Tenancy.Twins

/-! # The same up to names

Two stores draw ids of their own, so what is new in twins has different ids. *Paired*
stores hold the same of a hotel once ids that one store has drawn are named like those
that the other has drawn in their place (`Lodging.Stores.naming`). Twins are paired,
and so are paired stores after the same write to both.
-/

namespace Lodging

/-- The plan under another name. -/
def RatePlan.renamed (naming : Id → Id) (plan : RatePlan) : RatePlan :=
  { plan with id := naming plan.id }

/-- The override under another name. -/
def RateOverride.renamed (naming : Id → Id) (row : RateOverride) : RateOverride :=
  { row with id := naming row.id }

/-- The row under another name. -/
def InventoryRow.renamed (naming : Id → Id) (row : InventoryRow) : InventoryRow :=
  { row with id := naming row.id }

/-- The slice with other names for what calls make: plans, overrides and rows of the
ledger. -/
def Slice.renamed (naming : Id → Id) (slice : Slice) : Slice :=
  { slice with
    plans := slice.plans.map (·.renamed naming)
    overrides := slice.overrides.map (·.renamed naming)
    inventory := slice.inventory.map (·.renamed naming) }

namespace Stores

/-- The id that the other stores draw when these draw an id. What has been drawn before
keeps its name. -/
def naming (one other : Stores) (id : Id) : Id :=
  if one.supply.next.value ≤ id.value then
    ⟨other.supply.next.value + (id.value - one.supply.next.value)⟩
  else id

/-- Ids that are drawn one after another are named one after another. -/
theorem naming_next (one other : Stores) (count : Nat) :
    one.naming other ⟨one.supply.next.value + count⟩ = ⟨other.supply.next.value + count⟩ := by
  rw [naming, if_pos (Nat.le_add_right _ _), Nat.add_sub_cancel_left]

/-- Stores in order that hold the same of a hotel up to names, of which the next ids
drawn have each other's. -/
structure Paired (naming : Id → Id) (hotel : Id) (one other : Stores) : Prop where
  left : one.Orderly
  right : other.Orderly
  same : ((one.slice hotel).renamed naming).Same (other.slice hotel)
  next : ∀ count, naming ⟨one.supply.next.value + count⟩ = ⟨other.supply.next.value + count⟩

variable {stores one other : Stores} {hotel id : Id} {naming : Id → Id}

/-! ## Twins are paired -/

/-- Ids that have been drawn keep their names. -/
theorem naming_of_hasDrawn (drawn : one.HasDrawn id) : one.naming other id = id :=
  if_neg (Nat.not_le.mpr drawn)

/-- What has been drawn keeps its name. -/
theorem Orderly.renamed_slice (orderly : one.Orderly) (other : Stores) (hotel : Id) :
    (one.slice hotel).renamed (one.naming other) = one.slice hotel := by
  have plan (entry : RatePlan) (member : entry ∈ (one.slice hotel).plans) :
      entry.renamed (one.naming other) = entry := by
    have drawn := (orderly.plans entry (List.mem_of_mem_filter member)).1
    rw [RatePlan.renamed, naming_of_hasDrawn drawn]
  have override (row : RateOverride) (member : row ∈ (one.slice hotel).overrides) :
      row.renamed (one.naming other) = row := by
    have drawn := (orderly.overrides row (List.mem_of_mem_filter member)).1
    rw [RateOverride.renamed, naming_of_hasDrawn drawn]
  have ledger (row : InventoryRow) (member : row ∈ (one.slice hotel).inventory) :
      row.renamed (one.naming other) = row := by
    have drawn := orderly.inventory row (List.mem_of_mem_filter member)
    rw [InventoryRow.renamed, naming_of_hasDrawn drawn]
  exact Slice.ext rfl rfl (map_eq_self plan) (map_eq_self override) (map_eq_self ledger) rfl rfl

/-- Twins are paired by the names of the ids that they draw next. -/
theorem Twins.paired (twins : Twins hotel one other) :
    Paired (one.naming other) hotel one other where
  left := twins.left
  right := twins.right
  same := by
    rw [twins.left.renamed_slice]
    exact twins.same
  next := one.naming_next other

/-! ## Changes that draw no id -/

namespace Twins

theorem changePlan (twins : Twins hotel one other) {change : RatePlan → RatePlan}
    (keeps : KeepsIdentity change hotel id)
    (left : (one.changePlan hotel id change).Orderly)
    (right : (other.changePlan hotel id change).Orderly) :
    Twins hotel (one.changePlan hotel id change) (other.changePlan hotel id change) where
  left
  right
  same := by
    rw [slice_changePlan keeps, slice_changePlan keeps, twins.same.plans]
    exact { twins.same with plans := rfl }

/-- A plan that both have is revised alike, as what is revised is found in the slice. -/
theorem revisePlan (twins : Twins hotel one other) {plan : RatePlan}
    (found : one.plan? hotel id = some plan) (patch : PlanPatch) (now : Instant) :
    Twins hotel (one.changePlan hotel id fun _ => plan.revisedBy patch now)
      (other.changePlan hotel id fun _ => plan.revisedBy patch now) := by
  have member := (of_plan? found).1
  have memberToo := (of_plan? ((twins.plan? id).symm.trans found)).1
  exact twins.changePlan (keepsIdentity_revisedBy found)
    (twins.left.changePlan hotel id _ fun _ _ => twins.left.plans plan member)
    (twins.right.changePlan hotel id _ fun _ _ => twins.right.plans plan memberToo)

theorem deletePlan (twins : Twins hotel one other) (id : Id) (now : Instant) :
    Twins hotel (one.deletePlan hotel id now) (other.deletePlan hotel id now) :=
  twins.changePlan (fun _ same house => ⟨same, house⟩)
    (twins.left.changePlan hotel id _ fun plan member => twins.left.plans plan member)
    (twins.right.changePlan hotel id _ fun plan member => twins.right.plans plan member)

theorem deleteOverride (twins : Twins hotel one other) (plan : Id) (date : Date) :
    Twins hotel (one.deleteOverride plan date) (other.deleteOverride plan date) where
  left := twins.left.deleteOverride plan date
  right := twins.right.deleteOverride plan date
  same := by
    rw [slice_deleteOverride, slice_deleteOverride]
    exact { twins.same with overrides := twins.same.overrides.filter _ }

theorem changeReservation (twins : Twins hotel one other) {reservation : Reservation}
    (found : one.reservation? hotel id = some reservation) (changed : Reservation)
    (same : changed.id = reservation.id ∧ changed.hotel = reservation.hotel ∧
      changed.plan = reservation.plan) :
    Twins hotel (one.changeReservation hotel id fun _ => changed)
      (other.changeReservation hotel id fun _ => changed) := by
  obtain ⟨sameId, sameHotel, samePlan⟩ := same
  have orderly {stores : Stores} (orderly : stores.Orderly)
      (found : stores.reservation? hotel id = some reservation) :
      (stores.changeReservation hotel id fun _ => changed).Orderly := by
    obtain ⟨member, atId, _⟩ := of_reservation? found
    refine orderly.changeReservation (fun _ _ => sameId.trans atId) fun _ => ?_
    rw [samePlan]
    exact (orderly.reservations reservation member).2
  have keeps (entry : Reservation) : ((fun _ => changed) entry).hotel = hotel :=
    sameHotel.trans (of_reservation? found).2.2
  refine ⟨orderly twins.left found,
    orderly twins.right ((twins.reservation? id).symm.trans found), ?_⟩
  rw [slice_changeReservation keeps, slice_changeReservation keeps]
  exact { twins.same with reservations := twins.same.reservations.map _ }

end Twins

/-! ## Writes that may draw an id -/

/-- A plan that is owned has been made. -/
theorem Orderly.hasDrawn_of_ownsPlan (orderly : stores.Orderly)
    (owned : stores.ownsPlan hotel id = true) : stores.HasDrawn id := by
  obtain ⟨plan, member, rfl, _⟩ := ownsPlan_iff.mp owned
  exact (orderly.plans plan member).1

namespace Paired

/-- Both draw ids that name each other. -/
theorem next_id (paired : Paired naming hotel one other) :
    naming one.supply.next = other.supply.next :=
  paired.next 0

/-- After an id has been drawn from both, the next ones still have each other's names. -/
theorem next_rest (paired : Paired naming hotel one other) (count : Nat) :
    naming ⟨one.supply.rest.next.value + count⟩ = ⟨other.supply.rest.next.value + count⟩ := by
  have value (supply : Id.Supply) :
      supply.rest.next.value + count = supply.next.value + (1 + count) :=
    Nat.add_assoc _ 1 count
  rw [value, value]
  exact paired.next (1 + count)

/-- A plan that is added has the id that each of the two draws. -/
theorem addPlan (paired : Paired naming hotel one other) {request : NewPlan}
    (housed : (request.roomType, hotel) ∈ one.directory.homes)
    (housedToo : (request.roomType, hotel) ∈ other.directory.homes) (now : Instant) :
    (other.addPlan hotel request now).1 = (one.addPlan hotel request now).1.renamed naming ∧
      Paired naming hotel (one.addPlan hotel request now).2
        (other.addPlan hotel request now).2 := by
  have made : request.toPlan hotel other.supply.next now =
      (request.toPlan hotel one.supply.next now).renamed naming := by
    rw [← paired.next_id]
    rfl
  refine ⟨made, paired.left.addPlan housed now, paired.right.addPlan housedToo now, ?_,
    paired.next_rest⟩
  rw [paired.left.slice_addPlan, paired.right.slice_addPlan, ← paired.same.plans, made]
  exact { paired.same with plans := List.map_append }

/-- A write draws an id from both stores or from neither. -/
theorem next_write (paired : Paired naming hotel one other) {α : Type} {rename : α → α}
    {stored storedToo : Option α} (found : stored.map rename = storedToo) (count : Nat) :
    naming ⟨(if stored.isSome then one.supply else one.supply.rest).next.value + count⟩ =
      ⟨(if storedToo.isSome then other.supply else other.supply.rest).next.value + count⟩ := by
  subst found
  cases stored with
  | none => exact paired.next_rest count
  | some row => exact paired.next count

/-- A row is merged into the same row on both sides, or made with the id that each draws. -/
theorem writeOverride (paired : Paired naming hotel one other) {plan : Id}
    (owned : one.ownsPlan hotel plan = true) (ownedToo : other.ownsPlan hotel plan = true)
    (patch : OverridePatch) (now : Instant) :
    (other.writeOverride plan patch now).1 =
        (one.writeOverride plan patch now).1.renamed naming ∧
      Paired naming hotel (one.writeOverride plan patch now).2
        (other.writeOverride plan patch now).2 := by
  have found : (one.override? plan patch.date).map (·.renamed naming) =
      other.override? plan patch.date :=
    find?_map_of_owner paired.same.overrides (fun _ => rfl) (fun _ => rfl)
      paired.left.overridesApart (fun _ own => own ▸ owned) (fun _ own => own ▸ ownedToo)
      patch.date
  have fresh : (RateOverride.blank one.supply.next plan patch.date now).renamed naming =
      RateOverride.blank other.supply.next plan patch.date now := by
    rw [← paired.next_id]
    rfl
  have matched (row : RateOverride) (own : (row.plan == plan && row.date == patch.date) = true) :
      row.key = (plan, patch.date) := by
    rwa [Bool.and_eq_true, beq_iff_eq, beq_iff_eq, ← Prod.mk.injEq] at own
  refine ⟨?_, paired.left.writeOverride (paired.left.hasDrawn_of_ownsPlan owned) patch now,
    paired.right.writeOverride (paired.right.hasDrawn_of_ownsPlan ownedToo) patch now, ?_,
    paired.next_write found⟩
  · rw [Stores.writeOverride, ← found]
    exact change_getD (patch.apply · now) (·.renamed naming) (fun _ => rfl) fresh
  · rw [slice_writeOverride owned, slice_writeOverride ownedToo]
    exact { paired.same with
      overrides := upsert_map_perm paired.same.overrides (fun _ => rfl)
        paired.left.overridesApart matched (fun _ => rfl) (fun _ => rfl) fresh }

/-- What is available is the same on both sides, or can be computed on neither. -/
theorem writeInventory (paired : Paired naming hotel one other) {roomType : Id}
    (owned : one.ownsRoomType hotel roomType = true)
    (ownedToo : other.ownsRoomType hotel roomType = true) (patch : InventoryPatch) (rooms : Int)
    (now : Instant) :
    (other.writeInventory roomType patch rooms now).1 =
        (one.writeInventory roomType patch rooms now).1.map (·.renamed naming) ∧
      Paired naming hotel (one.writeInventory roomType patch rooms now).2
        (other.writeInventory roomType patch rooms now).2 := by
  have found : (one.inventory? roomType patch.date).map (·.renamed naming) =
      other.inventory? roomType patch.date :=
    find?_map_of_owner paired.same.inventory (fun _ => rfl) (fun _ => rfl)
      paired.left.inventoryApart (fun _ own => own ▸ owned) (fun _ own => own ▸ ownedToo)
      patch.date
  have fresh : (InventoryRow.blank one.supply.next roomType patch.date rooms now).renamed naming =
      InventoryRow.blank other.supply.next roomType patch.date rooms now := by
    rw [← paired.next_id]
    rfl
  have matched (row : InventoryRow)
      (own : (row.roomType == roomType && row.date == patch.date) = true) :
      row.key = (roomType, patch.date) := by
    rwa [Bool.and_eq_true, beq_iff_eq, beq_iff_eq, ← Prod.mk.injEq] at own
  refine ⟨?_, paired.left.writeInventory roomType patch rooms now,
    paired.right.writeInventory roomType patch rooms now, ?_, paired.next_write found⟩
  · have same : other.writtenRow roomType rooms now patch =
        (one.writtenRow roomType rooms now patch).renamed naming := by
      rw [writtenRow, ← found]
      exact change_getD (patch.apply · now) (·.renamed naming) (fun _ => rfl) fresh
    rw [writeInventory_fst, writeInventory_fst, same, Option.map_map]
    rfl
  · rw [slice_writeInventory owned, slice_writeInventory ownedToo]
    exact { paired.same with
      inventory := upsert_map_perm paired.same.inventory (fun _ => rfl)
        paired.left.inventoryApart matched (fun _ => rfl) (fun _ => rfl) fresh }

theorem writeOverrides (paired : Paired naming hotel one other) {plan : Id}
    (owned : one.ownsPlan hotel plan = true) (ownedToo : other.ownsPlan hotel plan = true)
    (patches : List OverridePatch) (now : Instant) :
    Paired naming hotel (one.writeOverrides plan patches now)
      (other.writeOverrides plan patches now) := by
  induction patches generalizing one other with
  | nil => exact paired
  | cons patch rest ih => exact ih (paired.writeOverride owned ownedToo patch now).2 owned ownedToo

/-- As each write comes to the same on both sides, both stop at the same one. -/
theorem writeInventories (paired : Paired naming hotel one other) {roomType : Id}
    (owned : one.ownsRoomType hotel roomType = true)
    (ownedToo : other.ownsRoomType hotel roomType = true) (patches : List InventoryPatch)
    (rooms : Int) (now : Instant) :
    (other.writeInventories roomType patches rooms now).1 =
        (one.writeInventories roomType patches rooms now).1 ∧
      Paired naming hotel (one.writeInventories roomType patches rooms now).2
        (other.writeInventories roomType patches rooms now).2 := by
  induction patches generalizing one other with
  | nil => exact ⟨rfl, paired⟩
  | cons patch rest ih =>
      obtain ⟨given, after⟩ := paired.writeInventory owned ownedToo patch rooms now
      have ownedAfter : (one.writeInventory roomType patch rooms now).2.ownsRoomType hotel
          roomType = true := owned
      have ownedAfterToo : (other.writeInventory roomType patch rooms now).2.ownsRoomType hotel
          roomType = true := ownedToo
      rw [Stores.writeInventories, Stores.writeInventories]
      rcases first : one.writeInventory roomType patch rooms now with ⟨_ | row, left⟩
      · rcases second : other.writeInventory roomType patch rooms now with ⟨_ | twin, right⟩
        · rw [first, second] at after
          exact ⟨rfl, after⟩
        · rw [first, second] at given
          cases given
      · rcases second : other.writeInventory roomType patch rooms now with ⟨_ | twin, right⟩
        · rw [first, second] at given
          cases given
        · rw [first] at ownedAfter after
          rw [second] at ownedAfterToo after
          exact ih after ownedAfter ownedAfterToo

end Paired

end Stores

end Lodging
