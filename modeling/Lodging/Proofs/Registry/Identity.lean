import Mathlib.Data.List.Nodup
import Lodging.Proofs.Service.Step

/-! # Every plan has an id of its own

Ids are drawn from the supply, so in a registry that was empty once no two plans
have the same id (`Lodging.History.identified`), and a search by id changes the
one plan it finds (`Lodging.Stores.Identified.mem_changePlan`). What relates any
two plans is kept by a step when it relates the plan that the step makes or
changes to all others (`Lodging.Stores.Apart.addPlan` and
`Lodging.Stores.Apart.changePlan`).
-/

namespace Lodging

namespace Stores

variable {stores : Stores} {hotel id : Id} {plan : RatePlan} {change : RatePlan → RatePlan}

/-- The ids of the plans differ, and none of them will be drawn again. -/
structure Identified (stores : Stores) : Prop where
  drawn : ∀ plan ∈ stores.plans, plan.id.value < stores.supply.next.value
  ids : (stores.plans.map (·.id)).Nodup

/-- Any two plans of different ids are related. -/
def Apart (relation : RatePlan → RatePlan → Prop) (stores : Stores) : Prop :=
  ∀ one ∈ stores.plans, ∀ other ∈ stores.plans, one.id ≠ other.id → relation one other

/-! ## The plan that a search finds -/

namespace Identified

/-- Plans with the same id are one plan. -/
theorem eq_of_id (identified : stores.Identified) {one other : RatePlan}
    (left : one ∈ stores.plans) (right : other ∈ stores.plans) (same : one.id = other.id) :
    one = other :=
  List.inj_on_of_nodup_map identified.ids left right same

/-- What holds of any two plans of different ids holds of the plans in pairs. -/
theorem pairwise (identified : stores.Identified) {relation : RatePlan → RatePlan → Prop}
    (apart : stores.Apart relation) : stores.plans.Pairwise relation := by
  have ids := List.pairwise_map.mp identified.ids
  exact ids.imp_of_mem fun left right different => apart _ left _ right different

/-- A plan that is not deleted is found by its id. -/
theorem plan?_eq_some (identified : stores.Identified) (member : plan ∈ stores.plans)
    (live : plan.isLiveIn hotel = true) : stores.plan? hotel plan.id = some plan := by
  cases found : stores.plan? hotel plan.id with
  | none =>
      have missed := List.find?_eq_none.mp found plan member
      rw [beq_self_eq_true, Bool.true_and] at missed
      exact absurd live missed
  | some other =>
      obtain ⟨present, _, same⟩ := of_plan? found
      rw [identified.eq_of_id present member same]

/-- After a change the registry holds the changed plan and all others. -/
theorem mem_changePlan (identified : stores.Identified)
    (found : stores.plan? hotel id = some plan) {entry : RatePlan} :
    entry ∈ (stores.changePlan hotel id change).plans ↔
      entry = change plan ∨ (entry ∈ stores.plans ∧ entry.id ≠ id) := by
  obtain ⟨present, live, rfl⟩ := of_plan? found
  have matches_iff (other : RatePlan) (member : other ∈ stores.plans) :
      (other.id == plan.id && other.isLiveIn hotel) = true ↔ other.id = plan.id := by
    rw [Bool.and_eq_true, beq_iff_eq]
    constructor
    · exact And.left
    · intro same
      rw [identified.eq_of_id member present same]
      exact ⟨rfl, live⟩
  simp only [changePlan, List.mem_map]
  constructor
  · rintro ⟨other, member, rfl⟩
    by_cases same : other.id = plan.id
    · rw [if_pos ((matches_iff other member).mpr same), identified.eq_of_id member present same]
      exact .inl rfl
    · rw [if_neg fun matched => same ((matches_iff other member).mp matched)]
      exact .inr ⟨member, same⟩
  · rintro (rfl | ⟨member, different⟩)
    · exact ⟨plan, present, if_pos ((matches_iff plan present).mpr rfl)⟩
    · exact ⟨entry, member, if_neg fun matched => different ((matches_iff entry member).mp matched)⟩

/-- A change that keeps the id of what it changes keeps ids apart. -/
theorem changePlan (identified : stores.Identified)
    (keepsId : ∀ plan : RatePlan, plan.id = id → (change plan).id = id) (hotel : Id) :
    (stores.changePlan hotel id change).Identified where
  drawn := by
    intro entry member
    obtain ⟨plan, present, rfl⟩ := List.mem_map.mp member
    have below := identified.drawn plan present
    split
    · rename_i matched
      rw [Bool.and_eq_true, beq_iff_eq] at matched
      rw [keepsId plan matched.1, ← matched.1]
      exact below
    · exact below
  ids := by
    have same : (stores.changePlan hotel id change).plans.map (·.id) =
        stores.plans.map (·.id) := by
      rw [Stores.changePlan, List.map_map]
      apply List.map_congr_left
      intro plan _
      dsimp only [Function.comp_apply]
      split
      · rename_i matched
        rw [Bool.and_eq_true, beq_iff_eq] at matched
        rw [keepsId plan matched.1, matched.1]
      · rfl
    rw [same]
    exact identified.ids

end Identified

theorem mem_addPlan {request : NewPlan} {now : Instant} {entry : RatePlan} :
    entry ∈ (stores.addPlan hotel request now).2.plans ↔
      entry ∈ stores.plans ∨ entry = request.toPlan hotel stores.supply.next now := by
  rw [addPlan, List.mem_append, List.mem_singleton]

/-- No plan has the id that is drawn next. -/
theorem Identified.next_ne (identified : stores.Identified) (member : plan ∈ stores.plans) :
    plan.id ≠ stores.supply.next := by
  intro same
  have below := identified.drawn plan member
  rw [same] at below
  exact Nat.lt_irrefl _ below

/-- A new plan has an id that no other has. -/
theorem Identified.addPlan (identified : stores.Identified) (hotel : Id) (request : NewPlan)
    (now : Instant) : (stores.addPlan hotel request now).2.Identified where
  drawn := by
    intro entry member
    have later : stores.supply.next.value < stores.supply.rest.next.value := Nat.lt_succ_self _
    rcases mem_addPlan.mp member with old | rfl
    · exact Nat.lt_trans (identified.drawn entry old) later
    · exact later
  ids := by
    rw [Stores.addPlan, List.map_append, List.nodup_append]
    refine ⟨identified.ids, List.nodup_singleton _, ?_⟩
    intro one left other right
    obtain ⟨plan, member, rfl⟩ := List.mem_map.mp left
    rw [List.mem_singleton.mp right]
    exact identified.next_ne member

/-! ## Relations between plans -/

namespace Apart

variable {relation : RatePlan → RatePlan → Prop}

/-- A new plan keeps plans related when it is related to all that are there. -/
theorem addPlan (apart : stores.Apart relation) {request : NewPlan} {now : Instant}
    (symmetric : ∀ {one other}, relation one other → relation other one)
    (fits : ∀ other ∈ stores.plans,
      relation (request.toPlan hotel stores.supply.next now) other) :
    (stores.addPlan hotel request now).2.Apart relation := by
  intro one left other right different
  rcases mem_addPlan.mp left with oldOne | rfl
  · rcases mem_addPlan.mp right with oldOther | rfl
    · exact apart one oldOne other oldOther different
    · exact symmetric (fits one oldOne)
  · rcases mem_addPlan.mp right with oldOther | rfl
    · exact fits other oldOther
    · exact absurd rfl different

/-- A changed plan keeps plans related when it is related to all others. -/
theorem changePlan (apart : stores.Apart relation) (identified : stores.Identified)
    (found : stores.plan? hotel id = some plan)
    (symmetric : ∀ {one other}, relation one other → relation other one)
    (fits : ∀ other ∈ stores.plans, other.id ≠ id → relation (change plan) other) :
    (stores.changePlan hotel id change).Apart relation := by
  intro one left other right different
  rcases (identified.mem_changePlan found).mp left with rfl | ⟨oldOne, differentOne⟩
  · rcases (identified.mem_changePlan found).mp right with rfl | ⟨oldOther, differentOther⟩
    · exact absurd rfl different
    · exact fits other oldOther differentOther
  · rcases (identified.mem_changePlan found).mp right with rfl | ⟨oldOther, differentOther⟩
    · exact symmetric (fits one oldOne differentOne)
    · exact apart one oldOne other oldOther different

theorem of_nil (unplanned : stores.plans = []) : stores.Apart relation := by
  rw [Apart, unplanned]
  exact fun _ member => nomatch member

/-- What holds between plans does not depend on the other stores. -/
theorem unmoved {before after : Stores} (apart : before.Apart relation)
    (same : before.Unmoved after) : after.Apart relation := by
  rw [Apart, same.plans]
  exact apart

end Apart

theorem Identified.unmoved {before after : Stores} (identified : before.Identified)
    (same : before.Unmoved after) : after.Identified where
  drawn := by
    intro plan member
    rw [same.plans] at member
    exact Nat.lt_of_lt_of_le (identified.drawn plan member)
      (Nat.add_le_add_left same.drawn _)
  ids := by
    rw [same.plans]
    exact identified.ids

theorem Identified.of_nil (unplanned : stores.plans = []) : stores.Identified where
  drawn := by
    rw [unplanned]
    exact fun _ member => nomatch member
  ids := by
    rw [unplanned]
    exact List.nodup_nil

/-- Every step of the registry keeps ids apart. -/
theorem Identified.step {before after : Stores} {event : Event}
    (identified : before.Identified) (step : RegistryStep before event after) :
    after.Identified := by
  cases step with
  | unmoved same => exact identified.unmoved same
  | made circumstance hotel request => exact identified.addPlan hotel request circumstance.now
  | revised circumstance hotel id patch plan _ found =>
      apply identified.changePlan
      intro _ _
      exact (of_plan? found).2.2
  | deleted circumstance hotel id =>
      apply identified.changePlan
      intro _ same
      exact same

end Stores

/-- **Ids stay apart.** In every history over a registry that was empty, plans have
different ids. -/
theorem History.identified (history : History) {start : Backend}
    (unplanned : start.stores.plans = []) : (history.after start).stores.Identified := by
  apply history.invariant Stores.Identified
  · intro event _ backend identified
    exact identified.step (event.registryStep backend)
  · exact .of_nil unplanned

/-- What every step keeps between plans of different ids holds in all histories. -/
theorem History.apart (history : History) {start : Backend}
    (unplanned : start.stores.plans = []) {relation : RatePlan → RatePlan → Prop}
    (keeps : ∀ {before after : Stores} {event : Event}, before.Identified →
      before.Apart relation → RegistryStep before event after → after.Apart relation) :
    (history.after start).stores.Apart relation := by
  have both : (history.after start).stores.Identified ∧
      (history.after start).stores.Apart relation := by
    apply history.invariant fun stores => stores.Identified ∧ stores.Apart relation
    · rintro event _ backend ⟨identified, apart⟩
      have step := event.registryStep backend
      exact ⟨identified.step step, keeps identified apart step⟩
    · exact ⟨.of_nil unplanned, .of_nil unplanned⟩
  exact both.2

end Lodging
