import Lodging.Proofs.Inventory.Writes
import Lodging.Proofs.Service.Atomic

/-! # What calls do to the registry of plans

Three kinds of calls change the plans: one is made, revised or deleted, and each
only after all its checks. `Lodging.RegistryStep` says for every call what it can
do and what was checked before. What holds of the registry in all histories is
derived from there, without a look into the services.
-/

namespace Lodging

namespace Stores

/-- No other plan that is open to everybody on the room type has a channel that
the terms claim. -/
def ChannelsFree (stores : Stores) (roomType : Id) (self : Option Id) (terms : PlanTerms) :
    Prop :=
  terms.claimsChannels = true → ∀ other ∈ stores.publicPlans roomType, some other.id ≠ self →
    other.sharesChannel terms.channelCodes = false

/-- The registry is as it was: its plans, the directory behind it, and no id that
was drawn can be drawn again. -/
structure Unmoved (before after : Stores) : Prop where
  plans : after.plans = before.plans
  directory : after.directory = before.directory
  drawn : before.supply.drawn ≤ after.supply.drawn

namespace Unmoved

theorem refl (stores : Stores) : Unmoved stores stores :=
  ⟨rfl, rfl, Nat.le_refl _⟩

theorem trans {first second third : Stores} (one : Unmoved first second)
    (other : Unmoved second third) : Unmoved first third :=
  ⟨other.plans.trans one.plans, other.directory.trans one.directory,
    Nat.le_trans one.drawn other.drawn⟩

/-- A row that is new takes an id from the supply, another leaves it alone. -/
theorem drawn_le (supply : Id.Supply) (stored : Bool) :
    supply.drawn ≤ (if stored then supply else supply.rest).drawn := by
  split
  · exact Nat.le_refl supply.drawn
  · exact Nat.le_succ supply.drawn

theorem writeOverride (stores : Stores) (plan : Id) (patch : OverridePatch) (now : Instant) :
    Unmoved stores (stores.writeOverride plan patch now).2 :=
  ⟨rfl, rfl, drawn_le _ _⟩

theorem writeOverrides (stores : Stores) (plan : Id) (patches : List OverridePatch)
    (now : Instant) : Unmoved stores (stores.writeOverrides plan patches now) := by
  induction patches generalizing stores with
  | nil => exact refl stores
  | cons patch rest ih => exact (writeOverride stores plan patch now).trans (ih _)

theorem writeInventory (stores : Stores) (roomType : Id) (patch : InventoryPatch)
    (totalRooms : Int) (now : Instant) :
    Unmoved stores (stores.writeInventory roomType patch totalRooms now).2 :=
  ⟨rfl, rfl, drawn_le _ _⟩

theorem writeInventories (stores : Stores) (roomType : Id) (patches : List InventoryPatch)
    (totalRooms : Int) (now : Instant) :
    Unmoved stores (stores.writeInventories roomType patches totalRooms now).2 :=
  writeInventories_induction (Unmoved stores)
    (fun patch _ between same =>
      same.trans (writeInventory between roomType patch totalRooms now))
    (refl stores)

end Unmoved

end Stores

/-- Stores differ in nothing but the plans and the ids that have been drawn. -/
def Stores.OnlyPlansDiffer (after before : Stores) : Prop :=
  after = { before with plans := after.plans, supply := after.supply }

/-- The plan with the terms that a patch leads to. -/
def RatePlan.revisedBy (plan : RatePlan) (patch : PlanPatch) (now : Instant) : RatePlan :=
  { plan with toPlanTerms := patch.apply plan.toPlanTerms, updatedAt := now }

/-- What a call can do to the registry, with all that it has checked before. -/
inductive RegistryStep (before : Stores) : Event → Stores → Prop where
  /-- The call is refused or concerns something else. -/
  | unmoved {event : Event} {after : Stores} (same : before.Unmoved after) :
      RegistryStep before event after
  /-- A plan is made. -/
  | made (circumstance : Circumstance) (hotel : Id) (request : NewPlan)
      (faultless : request.faults = [])
      (bounded : request.terms.reversedBounds? = none)
      (housed : (before.directory.roomType? hotel request.roomType).isSome)
      (codeFree : before.planByCode? hotel request.code = none)
      (channelsFree : before.ChannelsFree request.roomType none request.terms) :
      RegistryStep before ⟨.createPlan hotel request, circumstance⟩
        (before.addPlan hotel request circumstance.now).2
  /-- A plan is revised. Its code and channels are compared with those of other
  plans only as far as they change. -/
  | revised (circumstance : Circumstance) (hotel id : Id) (patch : PlanPatch) (plan : RatePlan)
      (faultless : patch.faults = [])
      (found : before.plan? hotel id = some plan)
      (bounded : (patch.apply plan.toPlanTerms).reversedBounds? = none)
      (codeFree : (patch.apply plan.toPlanTerms).code ≠ plan.code →
        ∀ other, before.planByCode? hotel (patch.apply plan.toPlanTerms).code = some other →
          other.id = id)
      (channelsFree : (patch.apply plan.toPlanTerms).sameClaim plan.toPlanTerms = false →
        before.ChannelsFree plan.roomType (some id) (patch.apply plan.toPlanTerms)) :
      RegistryStep before ⟨.updatePlan hotel id patch, circumstance⟩
        (before.changePlan hotel id fun _ => plan.revisedBy patch circumstance.now)
  /-- A plan is deleted. -/
  | deleted (circumstance : Circumstance) (hotel id : Id) (plan : RatePlan)
      (found : before.plan? hotel id = some plan)
      (unused : before.planInUse id = false) :
      RegistryStep before ⟨.deletePlan hotel id, circumstance⟩
        (before.deletePlan hotel id circumstance.now)

/-- No call of a service changes the directory. -/
theorem RegistryStep.directory_eq {before after : Stores} {event : Event}
    (step : RegistryStep before event after) : after.directory = before.directory := by
  cases step with
  | unmoved same => exact same.directory
  | made => rfl
  | revised => rfl
  | deleted => rfl

namespace Stores

variable {stores : Stores} {hotel id : Id} {plan : RatePlan}

/-- A plan is live in its own hotel as long as it is not deleted. -/
theorem isLiveIn_iff : plan.isLiveIn hotel = true ↔ plan.hotel = hotel ∧ plan.isLive = true := by
  rw [RatePlan.isLiveIn, Bool.and_eq_true, beq_iff_eq]

/-- A plan that is found is in the registry, is live and has the id. -/
theorem of_plan? (found : stores.plan? hotel id = some plan) :
    plan ∈ stores.plans ∧ plan.isLiveIn hotel = true ∧ plan.id = id := by
  have matched := List.find?_some found
  rw [Bool.and_eq_true, beq_iff_eq] at matched
  exact ⟨List.mem_of_find?_eq_some found, matched.2, matched.1⟩

end Stores

/-- A room type that is found is in the directory, and is the one of the hotel that
was asked for. -/
theorem Directory.of_roomType? {directory : Directory} {hotel id : Id} {roomType : RoomType}
    (found : directory.roomType? hotel id = some roomType) :
    roomType ∈ directory.roomTypes ∧ roomType.id = id ∧ roomType.hotel = hotel := by
  have matched := List.find?_some found
  simp only [Bool.and_eq_true, beq_iff_eq] at matched
  exact ⟨List.mem_of_find?_eq_some found, matched.1⟩

namespace RatePlans

open Service

variable {circumstance : Circumstance} {backend after : Backend} {hotel id : Id}

/-- Asking for a plan gives the one that is found. -/
theorem run_get_ok {plan : RatePlan} :
    run (get hotel id) circumstance backend = (.ok plan, after) ↔
      circumstance.reachable .ratePlans = true ∧ backend.stores.plan? hotel id = some plan ∧
        after = backend := by
  simp only [get, run_bind_ok, run_consult_ok, run_require_ok]
  constructor
  · rintro ⟨_, _, ⟨answered, rfl, rfl⟩, found, rfl⟩
    exact ⟨answered, found, rfl⟩
  · rintro ⟨answered, found, rfl⟩
    exact ⟨_, _, ⟨answered, rfl, rfl⟩, found, rfl⟩

theorem checkBounds_ok {terms : PlanTerms} {answer : Unit}
    (success : run (checkBounds terms) circumstance backend = (.ok answer, after)) :
    terms.reversedBounds? = none ∧ after = backend := by
  simpa only [checkBounds, run_refuse_ok, Option.map_eq_none_iff] using success

/-- The check of channels passes when no other plan claims one of them. -/
theorem checkChannels_ok {roomType : Id} {self : Option Id} {terms : PlanTerms} {answer : Unit}
    (success : run (checkChannels roomType self terms) circumstance backend =
      (.ok answer, after)) :
    backend.stores.ChannelsFree roomType self terms ∧ after = backend := by
  simp only [checkChannels, run_ite_ok, run_bind_ok, run_consult_ok, run_pure_ok] at success
  rcases success with ⟨claims, _, _, ⟨_, rfl, rfl⟩, unshared⟩ | ⟨unclaimed, _, rfl⟩
  · split at unshared
    · simp only [run_fail_ok] at unshared
    · rename_i none
      refine ⟨fun _ other member different => ?_, (run_pure_ok.mp unshared).2⟩
      simpa [different] using List.find?_eq_none.mp none other member
  · exact ⟨fun claims => absurd claims unclaimed, rfl⟩

/-- A new code passes when it belongs to no other plan of the hotel. -/
theorem checkCode_ok {old new : String} {answer : Unit}
    (success : run (checkCode hotel id old new) circumstance backend = (.ok answer, after)) :
    (new ≠ old → ∀ other, backend.stores.planByCode? hotel new = some other → other.id = id) ∧
      after = backend := by
  simp only [checkCode, run_ite_ok, run_bind_ok, run_consult_ok, run_pure_ok] at success
  rcases success with ⟨_, _, _, ⟨_, rfl, rfl⟩, free⟩ | ⟨same, _, rfl⟩
  · split at free
    · rename_i taken holder
      simp only [run_ite_ok, run_fail_ok, and_false, false_or, run_pure_ok,
        Decidable.not_not] at free
      refine ⟨fun _ other found => ?_, free.2.2⟩
      rw [holder, Option.some.injEq] at found
      exact found ▸ free.1
    · rename_i none
      refine ⟨fun _ other found => ?_, (run_pure_ok.mp free).2⟩
      rw [none] at found
      exact nomatch found
  · exact ⟨fun changed => absurd changed same, rfl⟩

/-- A plan is made only when the fields, the bounds, the room type, the code and
the channels have all been found in order. -/
theorem create_ok {request : NewPlan} {plan : RatePlan}
    (success : run (create hotel request) circumstance backend = (.ok plan, after)) :
    RegistryStep backend.stores ⟨.createPlan hotel request, circumstance⟩ after.stores ∧
      after.stores.OnlyPlansDiffer backend.stores := by
  simp only [create, run_bind_ok, run_refuseFaults_ok, run_ite_ok, run_fail_ok, false_and,
    exists_false, and_false, false_or, roomType, run_require_ok, run_consult_ok, run_now_ok,
    run_write_ok] at success
  obtain ⟨_, _, ⟨faultless, rfl⟩, _, _, checked, _, _, ⟨_, _, ⟨_, rfl, rfl⟩, housed, rfl⟩, _, _,
    ⟨_, rfl, rfl⟩, codeFree, _, _, unclaimed, _, _, ⟨rfl, rfl⟩, _, _, rfl⟩ := success
  obtain ⟨bounded, rfl⟩ := checkBounds_ok checked
  obtain ⟨channelsFree, rfl⟩ := checkChannels_ok unclaimed
  rw [Bool.not_eq_true, Option.isSome_eq_false_iff, Option.isNone_iff_eq_none] at codeFree
  exact ⟨.made circumstance hotel request faultless bounded (Option.isSome_of_eq_some housed)
    codeFree channelsFree, rfl⟩

/-- A plan is revised only when the fields of the patch and the merged bounds are
in order, and the code and the channels as far as they change. -/
theorem update_written {patch : PlanPatch} {revised : RatePlan}
    (success : run (update hotel id patch) circumstance backend = (.ok revised, after)) :
    ∃ plan, patch.faults = [] ∧ backend.stores.plan? hotel id = some plan ∧
      (patch.apply plan.toPlanTerms).reversedBounds? = none ∧
      ((patch.apply plan.toPlanTerms).code ≠ plan.code → ∀ other,
        backend.stores.planByCode? hotel (patch.apply plan.toPlanTerms).code = some other →
          other.id = id) ∧
      ((patch.apply plan.toPlanTerms).sameClaim plan.toPlanTerms = false →
        backend.stores.ChannelsFree plan.roomType (some id) (patch.apply plan.toPlanTerms)) ∧
      revised = plan.revisedBy patch circumstance.now ∧
      after = { backend with
        stores := backend.stores.changePlan hotel id fun _ => revised } := by
  simp only [update, run_bind_ok, run_refuseFaults_ok, run_ite_ok, run_now_ok,
    run_write_ok] at success
  obtain ⟨_, _, ⟨faultless, rfl⟩, plan, _, got, _, _, checked, _, _, free, rest⟩ := success
  obtain ⟨_, found, rfl⟩ := run_get_ok.mp got
  obtain ⟨bounded, rfl⟩ := checkBounds_ok checked
  obtain ⟨codeFree, rfl⟩ := checkCode_ok free
  refine ⟨plan, faultless, found, bounded, codeFree, ?_⟩
  rcases rest with ⟨_, _, _, unclaimed, _, _, ⟨rfl, rfl⟩, _, rfl, rfl⟩ |
    ⟨unchanged, _, _, ⟨rfl, rfl⟩, _, rfl, rfl⟩
  · obtain ⟨channelsFree, rfl⟩ := checkChannels_ok unclaimed
    exact ⟨fun _ => channelsFree, rfl, rfl⟩
  · refine ⟨fun changed => absurd ?_ unchanged, rfl, rfl⟩
    rw [changed, Bool.not_false]

/-- An update that gives an answer is a step, and nothing but the plans differs after it. -/
theorem update_ok {patch : PlanPatch} {plan : RatePlan}
    (success : run (update hotel id patch) circumstance backend = (.ok plan, after)) :
    RegistryStep backend.stores ⟨.updatePlan hotel id patch, circumstance⟩ after.stores ∧
      after.stores.OnlyPlansDiffer backend.stores := by
  obtain ⟨plan, faultless, found, bounded, codeFree, channelsFree, rfl, rfl⟩ :=
    update_written success
  exact ⟨.revised circumstance hotel id patch plan faultless found bounded codeFree channelsFree,
    rfl⟩

/-- A plan is deleted only when it is there and no reservation holds rooms on
it. -/
theorem delete_written {answer : Unit}
    (success : run (delete hotel id) circumstance backend = (.ok answer, after)) :
    ∃ plan, backend.stores.plan? hotel id = some plan ∧ backend.stores.planInUse id = false ∧
      after = { backend with
        stores := backend.stores.deletePlan hotel id circumstance.now } := by
  simp only [delete, run_bind_ok, run_consult_ok, run_ite_ok, run_fail_ok, false_and,
    exists_false, and_false, false_or, run_now_ok, run_write_ok] at success
  obtain ⟨plan, _, got, _, _, ⟨_, rfl, rfl⟩, unused, _, _, ⟨rfl, rfl⟩, _, _, rfl⟩ := success
  obtain ⟨_, found, rfl⟩ := run_get_ok.mp got
  exact ⟨plan, found, Bool.eq_false_iff.mpr unused, rfl⟩

/-- A deletion that gives an answer is one as well. -/
theorem delete_ok {answer : Unit}
    (success : run (delete hotel id) circumstance backend = (.ok answer, after)) :
    RegistryStep backend.stores ⟨.deletePlan hotel id, circumstance⟩ after.stores ∧
      after.stores.OnlyPlansDiffer backend.stores := by
  obtain ⟨plan, found, unused, rfl⟩ := delete_written success
  exact ⟨.deleted circumstance hotel id plan found unused, rfl⟩

end RatePlans

end Lodging
