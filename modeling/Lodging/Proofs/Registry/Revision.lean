import Lodging.Proofs.RatePlan.Patch
import Lodging.Proofs.Registry.Channels
import Lodging.Proofs.Registry.WellFormed
import Lodging.Proofs.Rows

/-! # A revision changes what it names

A revision that is accepted changes one plan, and of that plan the terms that its body has
something for, besides the time of the last change
(`Lodging.RatePlans.update_changes_what_is_sent`). The plan is found as it was answered. The same
revision passes all checks again: it leads to the terms that the plan has by now, whose bounds
have been checked, and which keep the code and the claim to channels
(`Lodging.RatePlans.run_update_of_settled`).
-/

namespace Lodging

/-- The backend is as it was, but for the live plan that a hotel has under an id. -/
structure Backend.DiffersInPlan (after before : Backend) (hotel id : Id) (old new : RatePlan) :
    Prop where
  found : before.stores.plan? hotel id = some old
  stored : after.stores.plan? hotel id = some new
  /-- All plans are there, in the same order. -/
  ids : after.stores.plans.map (·.id) = before.stores.plans.map (·.id)
  /-- Any other plan stays as it is, also a deleted one. -/
  others : ∀ (place : Nat) (other : RatePlan), before.stores.plans[place]? = some other →
    ¬ (other.id = id ∧ other.isLiveIn hotel = true) → after.stores.plans[place]? = some other
  /-- The other stores and the counters stay as they are. -/
  elsewhere : after = { before with stores := { before.stores with plans := after.stores.plans } }

namespace Stores

variable {stores : Stores} {hotel id : Id} {old new : RatePlan}

/-- A plan is found in the place of the one that it replaces. -/
theorem plan?_changePlan (found : stores.plan? hotel id = some old) (own : new.id = id)
    (live : new.isLiveIn hotel = true) :
    (stores.changePlan hotel id fun _ => new).plan? hotel id = some new := by
  have kept : ∀ plan : RatePlan, (plan.id == id && plan.isLiveIn hotel) = true →
      (new.id == id && new.isLiveIn hotel) = (plan.id == id && plan.isLiveIn hotel) := by
    intro plan matched
    rw [matched, own, live, beq_self_eq_true, Bool.and_self]
  rw [plan?] at found
  rw [plan?, changePlan, find?_map_of_kept kept, found, Option.map_some,
    if_pos (List.find?_some found)]

end Stores

/-- A plan is replaced by one of the same hotel, and of the same id. -/
theorem Backend.differsInPlan {backend : Backend} {hotel id : Id} {old : RatePlan} (new : RatePlan)
    (found : backend.stores.plan? hotel id = some old) (own : new.id = id)
    (live : new.isLiveIn hotel = true) :
    Backend.DiffersInPlan
      { backend with stores := backend.stores.changePlan hotel id fun _ => new } backend hotel id
      old new where
  found
  stored := Stores.plan?_changePlan found own live
  ids := by
    rw [Stores.changePlan, List.map_map]
    refine List.map_congr_left fun plan _ => ?_
    dsimp only [Function.comp_apply]
    split
    · rename_i matched
      rw [Bool.and_eq_true, beq_iff_eq] at matched
      exact own.trans matched.1.symm
    · rfl
  others := by
    intro place other here different
    rw [Stores.changePlan, List.getElem?_map, here, Option.map_some, if_neg]
    rwa [Bool.and_eq_true, beq_iff_eq]
  elsewhere := rfl

namespace RatePlans

open Service

variable {circumstance : Circumstance} {backend after : Backend} {hotel id : Id} {plan : RatePlan}
  {patch : PlanPatch}

/-- A patch that leads to the terms that a plan has is accepted if its fields and the bounds of
these terms are in order. -/
theorem run_update_of_settled (answered : circumstance.reachable .ratePlans = true)
    (faultless : patch.faults = []) (found : backend.stores.plan? hotel id = some plan)
    (settled : patch.apply plan.toPlanTerms = plan.toPlanTerms)
    (bounded : plan.reversedBounds? = none) :
    run (update hotel id patch) circumstance backend =
      (.ok { plan with updatedAt := circumstance.now },
        { backend with
          stores := backend.stores.changePlan hotel id fun _ =>
            { plan with updatedAt := circumstance.now } }) := by
  have passed : run (refuseFaults patch.faults) circumstance backend = (.ok (), backend) :=
    run_refuseFaults_ok.mpr ⟨faultless, rfl⟩
  have got : run (get hotel id) circumstance backend = (.ok plan, backend) :=
    run_get_ok.mpr ⟨answered, found, rfl⟩
  have agreed : run (checkBounds plan.toPlanTerms) circumstance backend = (.ok (), backend) :=
    run_refuse_ok.mpr ⟨by rw [bounded, Option.map_none], rfl⟩
  have codeKept : run (checkCode hotel id plan.code plan.code) circumstance backend =
      (.ok (), backend) := by
    rw [checkCode, if_neg (not_not_intro rfl)]
    rfl
  have claimKept : plan.sameClaim plan.toPlanTerms = true :=
    PlanTerms.sameClaim_iff.mpr ⟨rfl, rfl, rfl⟩
  rw [update, run_bind_of_ok passed, run_bind_of_ok got]
  dsimp only
  rw [settled, run_bind_of_ok agreed, run_bind_of_ok codeKept, claimKept, Bool.not_true,
    if_neg Bool.false_ne_true, run_bind_of_ok run_now, run_write, if_pos answered]

/-- **Revisions change what they name.** A revision that succeeds changes one plan: its terms by
what the body has for each, and the time of its last change. The plan is found as it was answered,
and the same revision succeeds once more and changes that time only. -/
theorem update_changes_what_is_sent (hotel id : Id) (body : Draft) (patch : PlanPatch)
    (circumstance : Circumstance) (backend after : Backend) (revised : RatePlan)
    (decoded : PlanPatch.decode body = .ok patch)
    (success : (update hotel id patch).run circumstance backend = (.ok revised, after)) :
    ∃ plan,
      after.DiffersInPlan backend hotel id plan revised ∧
      revised.toPlanTerms.RevisedBy plan.toPlanTerms (PlanPatch.fields.sent body) ∧
      revised = { plan with toPlanTerms := revised.toPlanTerms, updatedAt := circumstance.now } ∧
      ∀ later : Circumstance, later.reachable .ratePlans = true →
        (get hotel id).run later after = (.ok revised, after) ∧
        ∃ final, (update hotel id patch).run later after =
            (.ok { revised with updatedAt := later.now }, final) ∧
          final.DiffersInPlan after hotel id revised { revised with updatedAt := later.now } := by
  obtain ⟨plan, faultless, found, bounded, _, _, rfl, rfl⟩ := update_written success
  obtain ⟨_, live, own⟩ := Stores.of_plan? found
  have changed := Backend.differsInPlan (plan.revisedBy patch circumstance.now) found own live
  refine ⟨plan, changed, PlanPatch.apply_revisedBy decoded plan.toPlanTerms, rfl, ?_⟩
  intro later answered
  refine ⟨run_get_ok.mpr ⟨answered, changed.stored, rfl⟩, _,
    run_update_of_settled answered faultless changed.stored (patch.apply_apply _) bounded,
    Backend.differsInPlan _ changed.stored own live⟩

end RatePlans

/-! ## A plan that loses a bound and gets a rule -/

namespace Sample

/-- A plan for three nights at most. -/
def short : RatePlan :=
  { request "BAR" .hundred ["WEB"] with maxStay := some 3 }.toPlan ⟨1⟩ ⟨3⟩ default

def shortStays : Backend :=
  { backend with stores := { backend.stores with plans := [short] } }

end Sample

open Sample in
/-- Null clears the longest stay and a value replaces the rules. The name, of which the body
says nothing, is kept. -/
theorem RatePlans.update_changes_what_is_sent_without_longest_stay :
    ∃ revised after,
      PlanPatch.decode patchDraft = .ok patch ∧
      (update ⟨1⟩ ⟨3⟩ patch).run circumstance shortStays = (.ok revised, after) ∧
      short.maxStay = some 3 ∧ revised.maxStay = none ∧ revised.name = short.name ∧
      Rule.decode.listOf.Replaces (PlanPatch.fields.sent patchDraft "pricingRules") short.rules
        revised.rules ∧
      after.DiffersInPlan shortStays ⟨1⟩ ⟨3⟩ short revised ∧
      (get ⟨1⟩ ⟨3⟩).run circumstance after = (.ok revised, after) ∧
      ∃ final, (update ⟨1⟩ ⟨3⟩ patch).run circumstance after = (.ok revised, final) := by
  have decoded : PlanPatch.decode patchDraft = .ok patch := rfl
  have accepted : ((update ⟨1⟩ ⟨3⟩ patch).run circumstance shortStays).1.isOk = true := by
    decide +kernel
  rcases success : (update ⟨1⟩ ⟨3⟩ patch).run circumstance shortStays with
    ⟨problem | revised, after⟩
  · rw [success] at accepted
    exact nomatch accepted
  obtain ⟨plan, changed, terms, same, again⟩ := update_changes_what_is_sent ⟨1⟩ ⟨3⟩ patchDraft patch
    circumstance shortStays after revised decoded success
  obtain rfl : short = plan := Option.some.inj changed.found
  obtain ⟨got, final, repeated, _⟩ := again circumstance rfl
  have settled : { revised with updatedAt := circumstance.now } = revised := by rw [same]
  rw [settled] at repeated
  exact ⟨revised, after, decoded, rfl, rfl, terms.maxStay, terms.name, terms.rules, changed, got,
    final, repeated⟩

end Lodging
