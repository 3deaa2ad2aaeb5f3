import Lodging.Proofs.Quote.Ranking
import Lodging.Proofs.Registry.Purged

/-! # Deletion is final

Plans are never removed, and what identifies one is never revised
(`Lodging.RegistryStep.identity_prefix`). Once a plan has been deleted its record stays as
it is, no search finds it, whatever is asked of it is not found, and its overrides stay
(`Lodging.History.deletion_is_final`).
-/

namespace Lodging

open Service

/-! ## What identifies a plan -/

/-- What no revision of a plan changes: its id, hotel, room type and time of creation. -/
def RatePlan.identity (plan : RatePlan) : Id × Id × Id × Instant :=
  (plan.id, plan.hotel, plan.roomType, plan.createdAt)

/-- The record of a plan once it has been deleted. -/
def RatePlan.deletedOn (plan : RatePlan) (now : Instant) : RatePlan :=
  { plan with deletedAt := some now, isActive := false, updatedAt := now }

variable {before after : Stores} {event : Event} {record : RatePlan}

theorem Stores.identity_changePlan {stores : Stores} {hotel id : Id}
    {change : RatePlan → RatePlan}
    (same : ∀ plan ∈ stores.plans, plan.id = id → (change plan).identity = plan.identity) :
    (stores.changePlan hotel id change).plans.map (·.identity) =
      stores.plans.map (·.identity) := by
  rw [changePlan, List.map_map]
  refine List.map_congr_left fun plan member => ?_
  dsimp only [Function.comp_apply]
  split
  · rename_i matched
    rw [Bool.and_eq_true, beq_iff_eq] at matched
    exact same plan member matched.1
  · rfl

/-- A step removes no plan, and none of what identifies it. -/
theorem RegistryStep.identity_prefix (identified : before.Identified)
    (step : RegistryStep before event after) :
    before.plans.map (·.identity) <+: after.plans.map (·.identity) := by
  cases step with
  | unmoved same => rw [same.plans]
  | made circumstance hotel request =>
      rw [Stores.addPlan, List.map_append]
      exact List.prefix_append _ _
  | revised circumstance hotel id patch plan _ found =>
      rw [Stores.identity_changePlan fun other member same => ?_]
      obtain ⟨present, _, rfl⟩ := Stores.of_plan? found
      rw [identified.eq_of_id member present same]
      rfl
  | deleted =>
      rw [Stores.deletePlan, Stores.identity_changePlan fun _ _ _ => ?_]
      rfl

/-! ## The record of a deleted plan -/

/-- The plan is there and has been deleted, and ids are apart. -/
structure Stores.HasRetired (stores : Stores) (record : RatePlan) : Prop where
  identified : stores.Identified
  kept : record ∈ stores.plans
  dead : record.isLive = false

namespace Stores.HasRetired

variable {stores : Stores}

theorem ne_of_live (retired : stores.HasRetired record) {plan : RatePlan}
    (member : plan ∈ stores.plans) (live : plan.isLive = true) : plan.id ≠ record.id := by
  intro same
  rw [retired.identified.eq_of_id member retired.kept same, retired.dead] at live
  exact nomatch live

theorem ne_of_isLiveIn (retired : stores.HasRetired record) {plan : RatePlan} {hotel : Id}
    (member : plan ∈ stores.plans) (live : plan.isLiveIn hotel = true) : plan.id ≠ record.id :=
  retired.ne_of_live member (isLiveIn_iff.mp live).2

theorem plan?_eq_none (retired : stores.HasRetired record) (hotel : Id) :
    stores.plan? hotel record.id = none := by
  cases found : stores.plan? hotel record.id with
  | none => rfl
  | some plan =>
      obtain ⟨member, live, same⟩ := of_plan? found
      exact absurd same (retired.ne_of_isLiveIn member live)

/-- A change of a plan that is found is not one of the record. -/
theorem mem_changePlan (retired : stores.HasRetired record) {hotel id : Id} {plan : RatePlan}
    (found : stores.plan? hotel id = some plan) (change : RatePlan → RatePlan) :
    record ∈ (stores.changePlan hotel id change).plans := by
  refine (retired.identified.mem_changePlan found).mpr (.inr ⟨retired.kept, ?_⟩)
  obtain ⟨member, live, rfl⟩ := of_plan? found
  exact (retired.ne_of_isLiveIn member live).symm

theorem step (retired : before.HasRetired record) (step : RegistryStep before event after) :
    after.HasRetired record where
  identified := retired.identified.step step
  kept := by
    cases step with
    | unmoved same =>
        rw [same.plans]
        exact retired.kept
    | made => exact mem_addPlan.mpr (.inl retired.kept)
    | revised circumstance hotel id patch plan _ found => exact retired.mem_changePlan found _
    | deleted circumstance hotel id plan found => exact retired.mem_changePlan found _
  dead := retired.dead

end Stores.HasRetired

/-! ## The overrides of a plan that is not found -/

theorem Stores.filter_writeOverride {plan id : Id} (different : plan ≠ id) (stores : Stores)
    (patch : OverridePatch) (now : Instant) :
    (stores.writeOverride plan patch now).2.overrides.filter (·.plan == id) =
      stores.overrides.filter (·.plan == id) := by
  have other : (plan == id) = false := beq_eq_false_iff_ne.mpr different
  have apart (row : RateOverride)
      (own : (row.plan == plan && row.date == patch.date) = true) : (row.plan == id) = false := by
    rw [Bool.and_eq_true, beq_iff_eq] at own
    exact own.1 ▸ other
  exact filter_upsert_of_neg apart apart other

theorem Stores.filter_writeOverrides {plan id : Id} (different : plan ≠ id) (stores : Stores)
    (patches : List OverridePatch) (now : Instant) :
    (stores.writeOverrides plan patches now).overrides.filter (·.plan == id) =
      stores.overrides.filter (·.plan == id) := by
  induction patches generalizing stores with
  | nil => rfl
  | cons patch rest ih => exact (ih _).trans (filter_writeOverride different stores patch now)

theorem Stores.filter_deleteOverride {plan id : Id} (different : plan ≠ id) (stores : Stores)
    (date : Date) :
    (stores.deleteOverride plan date).overrides.filter (·.plan == id) =
      stores.overrides.filter (·.plan == id) := by
  refine filter_filter_of_imp fun row _ own => ?_
  have other : (row.plan == plan) = false := by
    rw [beq_iff_eq] at own
    rw [own]
    exact beq_eq_false_iff_ne.mpr different.symm
  rw [other, Bool.false_and, Bool.not_false]

/-- A step leaves the overrides of a plan that no hotel has. -/
theorem Step.filter_overrides (step : Step before event after) {id : Id}
    (missing : ∀ hotel, before.plan? hotel id = none) :
    after.overrides.filter (·.plan == id) = before.overrides.filter (·.plan == id) := by
  have different {hotel plan : Id} (found : (before.plan? hotel plan).isSome) : plan ≠ id := by
    rintro rfl
    rw [missing hotel] at found
    exact nomatch found
  cases step with
  | idle => rfl
  | planned _ elsewhere => rw [elsewhere]
  | overrideWritten circumstance hotel plan patch found =>
      exact Stores.filter_writeOverride (different found) before patch circumstance.now
  | overridesWritten circumstance hotel plan patches found =>
      exact Stores.filter_writeOverrides (different found) before patches circumstance.now
  | overrideRemoved circumstance hotel plan date found =>
      exact Stores.filter_deleteOverride (different found) before date
  | inventoryWritten => rfl
  | inventoriesWritten circumstance hotel roomType rooms patches =>
      rw [Stores.onlyInventoryDiffers_writeInventories before roomType patches rooms
        circumstance.now]
  | statusSet => rfl

/-! ## Calls for a plan that is not found -/

namespace Call

/-- The plan that a call is addressed to. -/
def plan? : Call → Option Id
  | updatePlan _ plan _ | deletePlan _ plan | getPlan _ plan | putOverride _ plan _
  | putOverrides _ plan _ | deleteOverride _ plan _ | getOverrides _ plan _ _ => some plan
  | _ => none

/-- What a call for a plan carries passes the checks that are made before the plan is
looked for. -/
def IsWellFormed : Call → Prop
  | updatePlan _ _ patch => patch.faults = []
  | putOverride _ _ patch => patch.faults = []
  | putOverrides _ _ patches =>
      OverridePatch.listFaults patches = [] ∧ ∀ patch ∈ patches, patch.faults = []
  | getOverrides _ _ first last => ¬ last < first
  | _ => True

/-- A well-formed call for a plan that no hotel has says that it is not found, and does
nothing. -/
theorem run_of_missing {call : Call} {id : Id} {circumstance : Circumstance} {backend : Backend}
    (addressed : call.plan? = some id) (wellFormed : call.IsWellFormed)
    (missing : ∀ hotel, backend.stores.plan? hotel id = none)
    (reached : circumstance.reachable .ratePlans = true) :
    run call.perform circumstance backend =
      (.error (.refused (.notFound .ratePlan id.display)), backend) := by
  have get (hotel : Id) : run (RatePlans.get hotel id) circumstance backend =
      (.error (.refused (.notFound .ratePlan id.display)), backend) := by
    rw [RatePlans.get, run_bind, run_consult, if_pos reached, missing hotel]
    rfl
  have passes {faults : FieldFaults} (none : faults = []) :
      run (refuseFaults faults) circumstance backend = (.ok (), backend) :=
    run_refuseFaults_ok.mpr ⟨none, rfl⟩
  cases call with
  | updatePlan hotel plan patch =>
      obtain rfl := Option.some.inj addressed
      exact (run_bind_of_ok (passes wellFormed)).trans (run_bind_of_error (get hotel))
  | deletePlan hotel plan =>
      obtain rfl := Option.some.inj addressed
      exact run_bind_of_error (get hotel)
  | getPlan hotel plan =>
      obtain rfl := Option.some.inj addressed
      exact get hotel
  | putOverride hotel plan patch =>
      obtain rfl := Option.some.inj addressed
      exact (run_bind_of_ok (passes wellFormed)).trans (run_bind_of_error (get hotel))
  | putOverrides hotel plan patches =>
      obtain rfl := Option.some.inj addressed
      have each := run_forM_of_ok fun patch member => passes (wellFormed.2 patch member)
      exact (run_bind_of_ok (passes wellFormed.1)).trans
        ((run_bind_of_ok each).trans (run_bind_of_error (get hotel)))
  | deleteOverride hotel plan date =>
      obtain rfl := Option.some.inj addressed
      exact run_bind_of_error (get hotel)
  | getOverrides hotel plan first last =>
      obtain rfl := Option.some.inj addressed
      have ordered : run (Overrides.checkRange first last) circumstance backend =
          (.ok (), backend) :=
        run_refuse_ok.mpr ⟨if_neg wellFormed, rfl⟩
      exact (run_bind_of_ok ordered).trans (run_bind_of_error (get hotel))
  | _ => cases addressed

end Call

/-! ## After a deletion -/

/-- The record of a deleted plan is kept, and nobody gets to see it or to change it. -/
structure Backend.Withholds (backend : Backend) (record : RatePlan) : Prop where
  kept : record ∈ backend.stores.plans
  /-- There is no other record of the id, as a revision would leave it. -/
  sole : ∀ plan ∈ backend.stores.plans, plan.id = record.id → plan = record
  inactive : record.isActive = false
  unfound : ∀ hotel id circumstance plan after,
    (RatePlans.get hotel id).run circumstance backend = (.ok plan, after) → plan.id ≠ record.id
  unlisted : ∀ hotel roomType circumstance plans after,
    (RatePlans.list hotel roomType).run circumstance backend = (.ok plans, after) →
      ∀ plan ∈ plans, plan.id ≠ record.id
  inapplicable : ∀ hotel request circumstance plans after,
    (RatePlans.applicable hotel request).run circumstance backend = (.ok plans, after) →
      ∀ plan ∈ plans, plan.id ≠ record.id
  unquoted : ∀ hotel request circumstance quote after,
    (Quote.calculate hotel request).run circumstance backend = (.ok quote, after) →
      ∀ offer ∈ quote.offers, offer.plan.id ≠ record.id
  /-- The search that a code is free does not find it. -/
  uncoded : ∀ hotel code plan, backend.stores.planByCode? hotel code = some plan →
    plan.id ≠ record.id
  /-- Nor does the search that channels are free. -/
  unclaimed : ∀ roomType, ∀ plan ∈ backend.stores.publicPlans roomType, plan.id ≠ record.id
  /-- All calls, those that make and revise plans included, are answered as if deleted plans
  had been removed. -/
  unseen : ∀ (call : Call) circumstance,
    (call.perform.run circumstance { backend with stores := backend.stores.purged }).1 =
      (call.perform.run circumstance backend).1
  missing : ∀ (call : Call) circumstance, call.plan? = some record.id → call.IsWellFormed →
    circumstance.reachable .ratePlans = true →
      call.perform.run circumstance backend =
        (.error (.refused (.notFound .ratePlan record.id.display)), backend)

theorem Stores.HasRetired.withholds {backend : Backend}
    (retired : backend.stores.HasRetired record) (inactive : record.isActive = false) :
    backend.Withholds record where
  kept := retired.kept
  sole plan member same := retired.identified.eq_of_id member retired.kept same
  inactive
  unfound hotel id circumstance plan after success := by
    obtain ⟨member, live, _⟩ := of_plan? (RatePlans.run_get_ok.mp success).2.1
    exact retired.ne_of_isLiveIn member live
  unlisted hotel roomType circumstance plans after success plan listed := by
    obtain ⟨_, rfl, _⟩ := run_consult_ok.mp success
    obtain ⟨member, live, _⟩ := mem_plansOf.mp listed
    exact retired.ne_of_isLiveIn member live
  inapplicable hotel request circumstance plans after success plan listed := by
    obtain ⟨_, rfl, _⟩ := run_consult_ok.mp success
    obtain ⟨member, live, _⟩ := mem_plansOf.mp (mem_applicablePlans.mp listed).1
    exact retired.ne_of_isLiveIn member live
  unquoted hotel request circumstance quote after success offer offered := by
    obtain ⟨_, _, bookable, _⟩ := Quote.own_offer success offered
    obtain ⟨member, live, _⟩ := mem_plansOf.mp (mem_applicablePlans.mp bookable).1
    exact retired.ne_of_isLiveIn member live
  uncoded hotel code plan found := by
    obtain ⟨member, live, _⟩ := of_planByCode? found
    exact retired.ne_of_isLiveIn member live
  unclaimed roomType plan found := by
    obtain ⟨member, matched⟩ := List.mem_filter.mp found
    rw [Bool.and_eq_true] at matched
    exact retired.ne_of_live member matched.2
  unseen call circumstance := call.answer_purged circumstance backend
  missing call circumstance addressed wellFormed reached :=
    Call.run_of_missing addressed wellFormed retired.plan?_eq_none reached

theorem Stores.Identified.hasRetired {stores : Stores} (identified : stores.Identified)
    {hotel id : Id} {plan : RatePlan} (found : stores.plan? hotel id = some plan)
    (unused : stores.planInUse id = false) (circumstance : Circumstance) :
    (stores.deletePlan hotel id circumstance.now).HasRetired
      (plan.deletedOn circumstance.now) where
  identified := identified.step (.deleted circumstance hotel id plan found unused)
  kept := (identified.mem_changePlan found).mpr (.inl rfl)
  dead := rfl

namespace History

/-- A record and its overrides stay after the deletion as they are. -/
theorem hasRetired (later : History) {start : Backend} (retired : start.stores.HasRetired record) :
    (later.after start).stores.HasRetired record ∧
      (later.after start).stores.overrides.filter (·.plan == record.id) =
        start.stores.overrides.filter (·.plan == record.id) := by
  apply later.invariant fun stores => stores.HasRetired record ∧
    stores.overrides.filter (·.plan == record.id) =
      start.stores.overrides.filter (·.plan == record.id)
  · rintro event _ backend ⟨retired, same⟩
    have left := (event.step backend).filter_overrides retired.plan?_eq_none
    exact ⟨retired.step (event.registryStep backend), left.trans same⟩
  · exact ⟨retired, rfl⟩

/-- The identities of all plans that there have been are there, in the order of their
creation. -/
theorem identity_prefix (earlier later : History) {start : Backend}
    (unplanned : start.stores.plans = []) :
    (earlier.after start).stores.plans.map (·.identity) <+:
      ((earlier ++ later).after start).stores.plans.map (·.identity) := by
  let known := (earlier.after start).stores.plans.map (·.identity)
  have both : ((earlier ++ later).after start).stores.Identified ∧
      known <+: ((earlier ++ later).after start).stores.plans.map (·.identity) := by
    rw [after_append]
    apply later.invariant fun stores =>
      stores.Identified ∧ known <+: stores.plans.map (·.identity)
    · rintro event _ backend ⟨identified, listed⟩
      have step := event.registryStep backend
      exact ⟨identified.step step, listed.trans (step.identity_prefix identified)⟩
    · exact ⟨earlier.identified unplanned, List.prefix_rfl⟩
  exact both.2

/-- **Deletion is final.** No call removes a plan or changes what identifies it. Once a plan
has been deleted, its record and its overrides stay as they are, and no call gets to see
it or to change it. -/
theorem deletion_is_final (earlier : History) {start : Backend}
    (unplanned : start.stores.plans = []) :
    (∀ later : History,
      (earlier.after start).stores.plans.map (·.identity) <+:
        ((earlier ++ later).after start).stores.plans.map (·.identity)) ∧
    ∀ hotel id circumstance after,
      (RatePlans.delete hotel id).run circumstance (earlier.after start) = (.ok (), after) →
      ∃ plan, (earlier.after start).stores.plan? hotel id = some plan ∧
        ∀ later : History,
          (later.after after).Withholds (plan.deletedOn circumstance.now) ∧
            (later.after after).stores.overrides.filter (·.plan == id) =
              (earlier.after start).stores.overrides.filter (·.plan == id) := by
  refine ⟨fun later => earlier.identity_prefix later unplanned, ?_⟩
  intro hotel id circumstance after success
  obtain ⟨plan, found, unused, rfl⟩ := RatePlans.delete_written success
  obtain ⟨_, _, rfl⟩ := Stores.of_plan? found
  let deleted : Backend := { earlier.after start with
    stores := (earlier.after start).stores.deletePlan hotel plan.id circumstance.now }
  have retired : deleted.stores.HasRetired (plan.deletedOn circumstance.now) :=
    (earlier.identified unplanned).hasRetired found unused circumstance
  refine ⟨plan, found, fun later => ?_⟩
  obtain ⟨still, overrides⟩ := later.hasRetired retired
  exact ⟨still.withholds rfl, overrides⟩

end History

/-! ## A plan that is deleted and made again -/

namespace Sample

/-- A plan of the house is made and sold on a channel, and one of its nights is stopped. -/
def stopping : History :=
  [making "BAR" .hundred ["OTA"],
    { call := .putOverride ⟨1⟩ bar { OverridePatch.forDate ⟨10⟩ with stopSell := some true }
      circumstance }]

/-- The plan is made once more, with the same code and channel. -/
def again : History := [making "BAR" .hundred ["OTA"]]

end Sample

open Sample in
/-- The plan can be made again once it has been deleted, and the stopped night stays with
the first one. -/
theorem History.deletion_is_final_for_a_code :
    ∃ (plan : RatePlan) (after : Backend),
      (RatePlans.delete ⟨1⟩ bar).run circumstance (stopping.after backend) = (.ok (), after) ∧
      (stopping.after backend).stores.plans.map (·.identity) <+:
        ((stopping ++ again).after backend).stores.plans.map (·.identity) ∧
      plan.id = bar ∧ (again.after after).Withholds (plan.deletedOn circumstance.now) ∧
      ((again.after after).stores.overrides.filter (·.plan == bar)).length = 1 ∧
      (again.after after).stores.plans.map (·.code) = ["BAR", "BAR"] := by
  have unplanned : backend.stores.plans = [] := rfl
  have accepted : ((RatePlans.delete ⟨1⟩ bar).run circumstance
      (stopping.after backend)).1.toOption = some () := by
    decide +kernel
  have success := run_ok_of_toOption accepted
  obtain ⟨known, deleted⟩ := deletion_is_final stopping unplanned
  obtain ⟨plan, found, final⟩ := deleted _ _ _ _ success
  obtain ⟨withheld, _⟩ := final again
  exact ⟨plan, _, success, known again, (Stores.of_plan? found).2.2, withheld,
    by decide +kernel, by decide +kernel⟩

end Lodging
