import Mathlib.Data.List.Induction
import Lodging.Proofs.Registry.Identity
import Lodging.Proofs.Tenancy.Reach

/-! # Reservations on deleted plans

A plan is not deleted while a reservation on it holds rooms. Statuses are set without a
look at plans, so a reservation that was pending when its plan was deleted can still be
confirmed (`Lodging.History.confirmed_after_deletion`). That is the only way: a
reservation that holds rooms on a deleted plan has been confirmed after the deletion
(`Lodging.History.active_on_deleted_plan`).
-/

namespace Lodging

variable {before after : Stores} {event : Event} {id : Id} {entry : Reservation}

/-- A plan of the id has been deleted. -/
def Stores.HasDeleted (stores : Stores) (id : Id) : Prop :=
  ∃ plan ∈ stores.plans, plan.id = id ∧ plan.isLive = false

instance (stores : Stores) (id : Id) : Decidable (stores.HasDeleted id) :=
  inferInstanceAs (Decidable (∃ plan ∈ stores.plans, _ ∧ _))

/-- A reservation that holds rooms is not on a plan that has been deleted. -/
def Stores.DeletedPlansUnused (stores : Stores) : Prop :=
  ∀ entry ∈ stores.reservations, entry.status.holdsInventory = true →
    ∀ id ∈ entry.plan, ¬ stores.HasDeleted id

instance (stores : Stores) : Decidable stores.DeletedPlansUnused :=
  inferInstanceAs (Decidable (∀ entry ∈ stores.reservations, _ → ∀ id ∈ entry.plan, ¬ _))

/-- The reservations are one, perhaps at different times. -/
structure Reservation.SameBooking (one other : Reservation) : Prop where
  id : one.id = other.id
  hotel : one.hotel = other.hotel
  plan : one.plan = other.plan

theorem Reservation.SameBooking.trans {one other third : Reservation}
    (first : one.SameBooking other) (second : other.SameBooking third) : one.SameBooking third :=
  ⟨first.id.trans second.id, first.hotel.trans second.hotel, first.plan.trans second.plan⟩

/-! ## One step -/

/-- Only a deletion makes a plan deleted, and none on which rooms are held. -/
theorem RegistryStep.hasDeleted (step : RegistryStep before event after)
    (deleted : after.HasDeleted id) :
    before.HasDeleted id ∨
      ((∃ hotel, event.call = .deletePlan hotel id) ∧ before.planInUse id = false) := by
  obtain ⟨plan, member, rfl, dead⟩ := deleted
  cases step with
  | unmoved same =>
      rw [same.plans] at member
      exact .inl ⟨plan, member, rfl, dead⟩
  | made circumstance hotel request =>
      rcases Stores.mem_addPlan.mp member with old | rfl
      · exact .inl ⟨plan, old, rfl, dead⟩
      · exact nomatch dead
  | revised circumstance hotel id patch found =>
      obtain ⟨old, present, same⟩ := List.mem_map.mp member
      split at same
      · -- What is revised is a live plan and stays one.
        subst same
        have live := (Stores.isLiveIn_iff.mp (Stores.of_plan? ‹_›).2.1).2
        exact absurd live (Bool.eq_false_iff.mp dead)
      · subst same
        exact .inl ⟨old, present, rfl, dead⟩
  | deleted circumstance hotel id found _ unused =>
      obtain ⟨old, present, same⟩ := List.mem_map.mp member
      split at same
      · rename_i matched
        rw [Bool.and_eq_true, beq_iff_eq] at matched
        subst same
        obtain ⟨rfl, _⟩ := matched
        exact .inr ⟨⟨hotel, rfl⟩, unused⟩
      · subst same
        exact .inl ⟨old, present, rfl, dead⟩

/-- A reservation is as it was, or its status has been set to one that follows. -/
theorem Step.mem_reservations (step : Step before event after)
    (member : entry ∈ after.reservations) :
    entry ∈ before.reservations ∨
      ∃ circumstance, event = ⟨.setStatus entry.hotel entry.id entry.status, circumstance⟩ ∧
        ∃ old ∈ before.reservations, old.SameBooking entry ∧
          old.status.leadsTo entry.status = true := by
  rcases step.reservations_eq with same | ⟨circumstance, hotel, id, status, reservation, rfl, found,
    leads, rfl⟩
  · exact .inl (same ▸ member)
  · obtain ⟨old, present, same⟩ := List.mem_map.mp member
    split at same
    · subst same
      obtain ⟨there, rfl, rfl⟩ := Stores.of_reservation? found
      exact .inr ⟨circumstance, rfl, reservation, there, ⟨rfl, rfl, rfl⟩, leads⟩
    · subst same
      exact .inl present

/-- A status that holds rooms follows another one, or the start of the workflow. -/
theorem ReservationStatus.of_leadsTo {source target : ReservationStatus}
    (leads : source.leadsTo target = true) (active : target.holdsInventory = true) :
    source.holdsInventory = true ∨ (source = .pending ∧ target = .confirmed) := by
  cases target with
  | confirmed => cases source <;> first | exact .inr ⟨rfl, rfl⟩ | exact absurd leads (by decide)
  | checkedIn => cases source <;> first | exact .inl rfl | exact absurd leads (by decide)
  | _ => exact absurd active (by decide)

/-- A reservation that holds rooms on a deleted plan has done so before the step, or is
confirmed by it. -/
theorem Step.active_on_deleted (step : Step before event after)
    (member : entry ∈ after.reservations) (active : entry.status.holdsInventory = true)
    (booked : entry.plan = some id) (deleted : after.HasDeleted id) :
    before.HasDeleted id ∧ ∃ old ∈ before.reservations, old.SameBooking entry ∧
      (old.status.holdsInventory = true ∨
        (old.status = .pending ∧ entry.status = .confirmed ∧
          ∃ circumstance, event = ⟨.setStatus entry.hotel entry.id .confirmed, circumstance⟩)) := by
  rcases step.registryStep.hasDeleted deleted with dead | ⟨⟨hotel, asked⟩, unused⟩
  · refine ⟨dead, ?_⟩
    rcases step.mem_reservations member with kept | ⟨circumstance, rfl, old, present, same, leads⟩
    · exact ⟨entry, kept, ⟨rfl, rfl, rfl⟩, .inl active⟩
    · refine ⟨old, present, same, ?_⟩
      rcases ReservationStatus.of_leadsTo leads active with held | ⟨pending, confirmed⟩
      · exact .inl held
      · exact .inr ⟨pending, confirmed, circumstance, by rw [confirmed]⟩
  · -- The plan is deleted by the step, so no reservation on it holds rooms.
    rcases step.mem_reservations member with kept | ⟨_, rfl, _⟩
    · rw [Stores.planInUse, List.any_eq_false] at unused
      refine absurd ?_ (unused entry kept)
      rw [booked, beq_self_eq_true, active]
      rfl
    · exact nomatch asked

/-! ## Histories -/

/-- The reservation has been confirmed by a call of the history when a plan of the id had
been deleted: it was pending before the call, and was confirmed after it. -/
def Reservation.ConfirmedAfterDeletion (entry : Reservation) (id : Id) (history : History)
    (start : Backend) : Prop :=
  ∃ (earlier later : History) (circumstance : Circumstance),
    let confirming : Event := ⟨.setStatus entry.hotel entry.id .confirmed, circumstance⟩
    history = earlier ++ confirming :: later ∧
      (earlier.after start).stores.HasDeleted id ∧
      (∃ pending ∈ (earlier.after start).stores.reservations,
        pending.SameBooking entry ∧ pending.status = .pending) ∧
      ∃ confirmed ∈ (confirming.after (earlier.after start)).stores.reservations,
        confirmed.SameBooking entry ∧ confirmed.status = .confirmed

namespace History

/-- **Reservations on deleted plans.** If no reservation holds rooms on a deleted plan at
first, then one that comes to do so has been confirmed when the plan had been deleted. -/
theorem active_on_deleted_plan (history : History) {start : Backend}
    (unused : start.stores.DeletedPlansUnused) :
    ∀ entry ∈ (history.after start).stores.reservations, entry.status.holdsInventory = true →
      ∀ id ∈ entry.plan, (history.after start).stores.HasDeleted id →
        entry.ConfirmedAfterDeletion id history start := by
  -- The last call is looked at first: what it did not do, those before it did.
  induction history using List.reverseRecOn with
  | nil => exact fun entry member active id booked deleted =>
      absurd deleted (unused entry member active id booked)
  | append_singleton earlier event ih =>
      intro entry member active id booked deleted
      rw [after_append] at member deleted
      have step := event.step (History.after earlier start)
      obtain ⟨dead, old, present, same, held | ⟨pending, confirmed, circumstance, rfl⟩⟩ :=
        step.active_on_deleted member active booked deleted
      · obtain ⟨first, rest, circumstance, rfl, before, ⟨one, there, sameOne, pending⟩, other,
            thereToo, sameOther, confirmed⟩ := ih old present held id (same.plan.trans booked) dead
        rw [same.hotel, same.id] at thereToo ⊢
        refine ⟨first, rest ++ [event], circumstance, ?_, before,
          ⟨one, there, sameOne.trans same, pending⟩, other, thereToo, sameOther.trans same,
          confirmed⟩
        rw [List.append_assoc, List.cons_append]
      · exact ⟨earlier, [], circumstance, rfl, dead, ⟨old, present, same, pending⟩, entry, member,
          ⟨rfl, rfl, rfl⟩, confirmed⟩

end History

/-! ## A reservation that is confirmed too late -/

namespace Sample

/-- The id of the first reservation in the house. -/
def guest : Id := housed.stores.supply.next

/-- It is pending, for the plan of the house. -/
def awaited : Backend :=
  { housed with
    stores := (housed.stores.addReservation ⟨1⟩ ⟨2⟩ (some bar) .pending
      { checkIn := ⟨10⟩, checkOut := ⟨12⟩ } default).2 }

/-- The plan is deleted and the reservation confirmed, in this order. -/
def late : History :=
  [⟨.deletePlan ⟨1⟩ bar, circumstance⟩, ⟨.setStatus ⟨1⟩ guest .confirmed, circumstance⟩]

end Sample

open Sample in
/-- A pending reservation does not keep its plan from being deleted, and can be confirmed
then. -/
theorem History.confirmed_after_deletion :
    awaited.stores.DeletedPlansUnused ∧ ¬ (late.after awaited).stores.DeletedPlansUnused := by
  decide +kernel

open Sample in
/-- The reservation holds rooms on the deleted plan, and has been confirmed late. -/
theorem History.active_on_deleted_plan_late :
    awaited.stores.DeletedPlansUnused ∧
    ∃ entry ∈ (late.after awaited).stores.reservations,
      entry.status = .confirmed ∧ entry.plan = some bar ∧
        (late.after awaited).stores.HasDeleted bar ∧
        entry.ConfirmedAfterDeletion bar late awaited := by
  have unused : awaited.stores.DeletedPlansUnused := by decide +kernel
  have dead : (late.after awaited).stores.HasDeleted bar := by decide +kernel
  have confirmed : ∃ entry ∈ (late.after awaited).stores.reservations,
      entry.status = .confirmed ∧ entry.plan = some bar := by
    decide +kernel
  obtain ⟨entry, member, status, booked⟩ := confirmed
  refine ⟨unused, entry, member, status, booked, dead, ?_⟩
  refine active_on_deleted_plan late unused entry member ?_ bar booked dead
  rw [status]
  rfl

end Lodging
