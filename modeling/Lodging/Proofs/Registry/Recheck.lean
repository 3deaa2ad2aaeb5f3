import Lodging.Proofs.Registry.Channels

/-! # What a revision does not check again

A revision compares the code of a plan with other codes only if it changes the code, and
channels only if it changes the channels, the visibility or the activity of the plan. Both
are compared every time in `Lodging.RatePlans.updateRechecking`. That makes no difference in a
registry whose codes and channels are apart: a plan that keeps its code is the only one that
has it, and one that keeps its claim has its channels for itself already
(`Lodging.RatePlans.run_update`). So it makes none after any history of calls
(`Lodging.History.update_as_rechecking`).
-/

namespace Lodging

namespace RatePlans

open Service

/-- The code is not the code of another live plan of the hotel. -/
def recheckCode (hotel id : Id) (code : String) : Service Unit := do
  match ← consult .ratePlans (·.planByCode? hotel code) with
  | some other => if other.id ≠ id then fail (.codeTaken code)
  | none => pure ()

/-- Revises a plan, with its code and its channels compared in any case. -/
def updateRechecking (hotel id : Id) (patch : PlanPatch) : Service RatePlan := do
  refuseFaults patch.faults
  let plan ← get hotel id
  let terms := patch.apply plan.toPlanTerms
  checkBounds terms
  recheckCode hotel id terms.code
  checkChannels plan.roomType (some id) terms
  let revised := { plan with toPlanTerms := terms, updatedAt := ← now }
  write .ratePlans fun stores =>
    (revised, stores.changePlan hotel id fun _ => revised)

end RatePlans

/-! ## Checks that pass -/

namespace Stores

variable {stores : Stores} {hotel id : Id} {plan : RatePlan}

/-- Codes and channels of different plans are apart. -/
structure Exclusive (stores : Stores) : Prop where
  identified : stores.Identified
  codes : stores.Apart RatePlan.CodesDiffer
  channels : stores.Apart RatePlan.ChannelsDiffer

/-- The plan is the only live one of the hotel that has its code. -/
theorem Exclusive.planByCode?_code (exclusive : stores.Exclusive)
    (found : stores.plan? hotel id = some plan) :
    stores.planByCode? hotel plan.code = some plan := by
  obtain ⟨present, live, _⟩ := of_plan? found
  cases holder : stores.planByCode? hotel plan.code with
  | none => exact absurd rfl (code_ne_of_planByCode? holder present live)
  | some other =>
      obtain ⟨member, liveOther, same⟩ := of_planByCode? holder
      rw [exclusive.identified.eq_of_code exclusive.codes member present liveOther live same]

/-- A plan that claims channels as before still has them for itself. -/
theorem Exclusive.channelsFree (exclusive : stores.Exclusive)
    (found : stores.plan? hotel id = some plan) {terms : PlanTerms}
    (same : terms.sameClaim plan.toPlanTerms = true) :
    stores.ChannelsFree plan.roomType (some id) terms := by
  intro claims other shown different
  obtain ⟨present, live, own⟩ := of_plan? found
  obtain ⟨channels, visibility, activity⟩ := PlanTerms.sameClaim_iff.mp same
  rw [PlanTerms.claimsChannels, Bool.and_eq_true, Bool.and_eq_true] at claims
  obtain ⟨⟨isPublic, isActive⟩, _⟩ := claims
  rw [publicPlans, List.mem_filter] at shown
  simp only [Bool.and_eq_true, beq_iff_eq] at shown
  obtain ⟨member, ⟨⟨housed, otherPublic⟩, otherActive⟩, otherLive⟩ := shown
  have opened : plan.IsOpen :=
    ⟨visibility.symm.trans isPublic, activity.symm.trans isActive, (isLiveIn_iff.mp live).2⟩
  have others : plan.id ≠ other.id := fun itself => different (by rw [← itself, own])
  have disjoint : plan.channelCodes.Disjoint other.channelCodes :=
    exclusive.channels plan present other member others opened
      ⟨otherPublic, otherActive, otherLive⟩ housed.symm
  rw [PlanTerms.sharesChannel, List.any_eq_false, channels]
  exact fun code taken claimed => disjoint (List.contains_iff_mem.mp claimed) taken

end Stores

/-! ## Calls that go on alike -/

namespace Service

variable {α β : Type} {circumstance : Circumstance} {backend : Backend}

/-- Two calls that begin alike do the same if they do the same after what they begin with. -/
theorem run_bind_congr {first start : Service α} {next rest : α → Service β}
    (begins : run first circumstance backend = run start circumstance backend)
    (same : ∀ value between, run first circumstance backend = (.ok value, between) →
      run (next value) circumstance between = run (rest value) circumstance between) :
    run (first >>= next) circumstance backend = run (start >>= rest) circumstance backend := by
  rw [run_bind, run_bind, ← begins]
  rcases outcome : run first circumstance backend with ⟨problem | value, between⟩
  · rfl
  · exact same value between outcome

end Service

namespace RatePlans

open Service

variable {circumstance : Circumstance} {backend : Backend} {hotel id : Id} {plan : RatePlan}

/-- To compare a code that has not changed makes no difference. -/
theorem run_checkCode (exclusive : backend.stores.Exclusive)
    (found : backend.stores.plan? hotel id = some plan)
    (answered : circumstance.reachable .ratePlans = true) (code : String) :
    run (checkCode hotel id plan.code code) circumstance backend =
      run (recheckCode hotel id code) circumstance backend := by
  by_cases same : code = plan.code
  · subst same
    have own : plan.id = id := (Stores.of_plan? found).2.2
    have holder : run (consult .ratePlans (·.planByCode? hotel plan.code)) circumstance backend =
        (.ok (some plan), backend) :=
      run_consult_ok.mpr ⟨answered, (exclusive.planByCode?_code found).symm, rfl⟩
    rw [checkCode, if_neg (not_not_intro rfl), recheckCode, run_bind_of_ok holder]
    dsimp only
    rw [if_neg (not_not_intro own)]
  · rw [checkCode, if_pos same]
    rfl

/-- Channels that have been found free pass. -/
theorem run_checkChannels {roomType : Id} {self : Option Id} {terms : PlanTerms}
    (free : backend.stores.ChannelsFree roomType self terms)
    (answered : circumstance.reachable .ratePlans = true) :
    run (checkChannels roomType self terms) circumstance backend = (.ok (), backend) := by
  rw [checkChannels]
  split
  · rename_i claims
    have unshared : (backend.stores.publicPlans roomType).find? (fun other =>
        some other.id != self && other.sharesChannel terms.channelCodes) = none := by
      refine List.find?_eq_none.mpr fun other shown matched => ?_
      rw [Bool.and_eq_true, bne_iff_ne] at matched
      rw [free claims other shown matched.1] at matched
      exact Bool.false_ne_true matched.2
    rw [run_bind_of_ok (run_consult_ok.mpr ⟨answered, rfl, rfl⟩), unshared]
    rfl
  · rfl

/-- **Revisions.** Where codes and channels are apart, a revision is accepted or refused, and
leaves what it leaves, as if it had compared both. -/
theorem run_update (exclusive : backend.stores.Exclusive) (hotel id : Id) (patch : PlanPatch) :
    run (update hotel id patch) circumstance backend =
      run (updateRechecking hotel id patch) circumstance backend := by
  refine run_bind_congr rfl fun _ _ passed => ?_
  obtain ⟨_, rfl⟩ := run_refuseFaults_ok.mp passed
  refine run_bind_congr rfl fun plan _ got => ?_
  obtain ⟨answered, found, rfl⟩ := run_get_ok.mp got
  refine run_bind_congr rfl fun _ _ bounded => ?_
  obtain ⟨_, rfl⟩ := checkBounds_ok bounded
  refine run_bind_congr (run_checkCode exclusive found answered _) fun _ _ unheld => ?_
  obtain ⟨_, rfl⟩ := checkCode_ok unheld
  dsimp only
  split
  · rfl
  · rename_i kept
    rw [Bool.not_eq_true', Bool.not_eq_false] at kept
    rw [run_bind_of_ok (run_checkChannels (exclusive.channelsFree found kept) answered)]

end RatePlans

/-- **Revisions after a history.** In every history over a registry that was empty, a revision
gives the answer or the problem, and leaves the backend, that it would with the code and the
channels of the merged plan compared every time. -/
theorem History.update_as_rechecking (history : History) {start : Backend}
    (unplanned : start.stores.plans = []) (circumstance : Circumstance) (hotel id : Id)
    (patch : PlanPatch) :
    (RatePlans.update hotel id patch).run circumstance (history.after start) =
      (RatePlans.updateRechecking hotel id patch).run circumstance (history.after start) :=
  RatePlans.run_update
    { identified := history.identified unplanned
      codes := history.apart unplanned Stores.Apart.codes_step
      channels := history.apart unplanned Stores.Apart.channels_step } hotel id patch

/-! ## A plan that is revised -/

namespace Sample

/-- The plan that is patched keeps all that it has. -/
def untouched : PlanPatch where
  code := none
  name := none
  description := .keep
  baseRate := none
  currency := none
  pricingType := none
  minStay := none
  maxStay := .keep
  minAdvanceDays := .keep
  maxAdvanceDays := .keep
  isRefundable := none
  cancellationPolicy := .keep
  isPublic := none
  channelCodes := none
  mealPlan := none
  amenities := none
  rules := none
  validFrom := .keep
  validUntil := .keep
  isActive := none

/-- A plan is withdrawn, and another one takes its channel. -/
def handedOver : History :=
  [making "BAR" .hundred ["WEB"],
    ⟨.updatePlan ⟨1⟩ bar { untouched with isActive := some false }, circumstance⟩,
    making "CORP" .zero ["WEB"]]

end Sample

open Sample in
/-- The plan cannot be offered again on the channel that another one has taken; its name can
be changed while it is withdrawn. -/
theorem History.update_as_rechecking_handed_over :
    let offering : PlanPatch := { untouched with isActive := some true }
    let naming : PlanPatch := { untouched with name := some "Flexible" }
    let after := handedOver.after backend
    backend.stores.plans = [] ∧
      ((RatePlans.update ⟨1⟩ bar offering).run circumstance after).1.isOk = false ∧
      ((RatePlans.update ⟨1⟩ bar naming).run circumstance after).1.isOk = true ∧
      (RatePlans.update ⟨1⟩ bar offering).run circumstance after =
        (RatePlans.updateRechecking ⟨1⟩ bar offering).run circumstance after ∧
      (RatePlans.update ⟨1⟩ bar naming).run circumstance after =
        (RatePlans.updateRechecking ⟨1⟩ bar naming).run circumstance after := by
  intro offering naming after
  refine ⟨rfl, ?_, ?_, handedOver.update_as_rechecking rfl circumstance ⟨1⟩ bar offering,
    handedOver.update_as_rechecking rfl circumstance ⟨1⟩ bar naming⟩
  · decide +kernel
  · decide +kernel

open Sample in
/-- With two plans of one code, which no history leads to, it makes a difference. -/
example :
    let doubled : List RatePlan :=
      housed.stores.plans ++ housed.stores.plans.map fun plan => { plan with id := ⟨9⟩ }
    let twice : Backend := { housed with stores := { housed.stores with plans := doubled } }
    ((RatePlans.update ⟨1⟩ ⟨9⟩ untouched).run circumstance twice).1.isOk = true ∧
      ((RatePlans.updateRechecking ⟨1⟩ ⟨9⟩ untouched).run circumstance twice).1.isOk = false := by
  decide +kernel

end Lodging
