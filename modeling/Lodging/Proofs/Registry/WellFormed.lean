import Lodging.Proofs.RatePlan.WellFormed
import Lodging.Proofs.Service.Step

/-! # Stored plans are well formed

Plans enter the registry with terms that have passed all checks, a revision
passes them again, and nothing else touches the terms. So in every history of
requests that were decoded all plans are well formed, the deleted ones included
(`Lodging.History.plans_wellFormed`).
-/

namespace Lodging

/-- The request of the call has been decoded from a document. -/
def Call.IsDecoded : Call → Prop
  | createPlan _ request => ∃ draft, NewPlan.decode draft = .ok request
  | updatePlan _ _ patch => ∃ draft, PlanPatch.decode draft = .ok patch
  | _ => True

/-- The terms of the plan are well formed, and its room type is one of its hotel. -/
structure RatePlan.WellFormedIn (directory : Directory) (plan : RatePlan) : Prop where
  terms : plan.toPlanTerms.WellFormed
  housed : ∃ roomType ∈ directory.roomTypes,
    roomType.id = plan.roomType ∧ roomType.hotel = plan.hotel

/-- Revising a well formed plan gives a well formed plan. -/
theorem RatePlan.WellFormedIn.revisedBy {directory : Directory} {plan : RatePlan}
    {patch : PlanPatch} {now : Instant} (wellFormed : plan.WellFormedIn directory)
    (faultless : patch.faults = [])
    (bounded : (patch.apply plan.toPlanTerms).reversedBounds? = none)
    (rules : ∀ rules ∈ patch.rules, ∀ rule ∈ rules, rule.WellFormed) :
    (plan.revisedBy patch now).WellFormedIn directory :=
  ⟨PlanPatch.apply_wellFormed wellFormed.terms faultless bounded rules, wellFormed.housed⟩

namespace Stores

/-- All plans are well formed. -/
def WellFormed (stores : Stores) : Prop :=
  ∀ plan ∈ stores.plans, plan.WellFormedIn stores.directory

/-- A change of a plan keeps what it keeps of each plan. -/
theorem WellFormed.changePlan {stores : Stores} (wellFormed : stores.WellFormed) {hotel id : Id}
    {change : RatePlan → RatePlan}
    (changed : ∀ plan ∈ stores.plans, (change plan).WellFormedIn stores.directory) :
    (stores.changePlan hotel id change).WellFormed := by
  intro entry member
  obtain ⟨plan, present, rfl⟩ := List.mem_map.mp member
  split
  · exact changed plan present
  · exact wellFormed plan present

/-- Every step of the registry keeps the plans well formed. -/
theorem WellFormed.step {before after : Stores} {event : Event} (wellFormed : before.WellFormed)
    (decoded : event.call.IsDecoded) (step : RegistryStep before event after) :
    after.WellFormed := by
  cases step with
  | unmoved same =>
      rw [WellFormed, same.plans, same.directory]
      exact wellFormed
  | made circumstance hotel request faultless bounded housed =>
      obtain ⟨draft, read⟩ := decoded
      intro entry member
      rcases List.mem_append.mp member with old | new
      · exact wellFormed entry old
      · obtain rfl := List.mem_singleton.mp new
        have rules := NewPlan.decode_gives draft request read
        obtain ⟨roomType, found⟩ := Option.isSome_iff_exists.mp housed
        exact ⟨NewPlan.terms_wellFormed faultless bounded rules, roomType,
          Directory.of_roomType? found⟩
  | revised circumstance hotel id patch plan faultless found bounded =>
      obtain ⟨draft, read⟩ := decoded
      have rules := PlanPatch.decode_gives draft patch read
      have present := wellFormed plan (List.mem_of_find?_eq_some found)
      exact wellFormed.changePlan fun _ _ => present.revisedBy faultless bounded rules
  | deleted circumstance hotel id =>
      -- Deletion touches the activity of a plan, which no condition looks at.
      refine wellFormed.changePlan fun plan present => ?_
      obtain ⟨terms, housed⟩ := wellFormed plan present
      exact ⟨{ terms with }, housed⟩

end Stores

/-- **Stored plans are well formed.** In every history of decoded requests over a
registry that was empty, all plans are well formed, also those deleted since. -/
theorem History.plans_wellFormed (history : History)
    (decoded : ∀ event ∈ history, event.call.IsDecoded) {start : Backend}
    (unplanned : start.stores.plans = []) :
    ∀ plan ∈ (history.after start).stores.plans,
      plan.WellFormedIn (history.after start).stores.directory := by
  apply history.invariant Stores.WellFormed
  · intro event member backend wellFormed
    exact wellFormed.step (decoded event member) (event.registryStep backend)
  · intro plan member
    rw [unplanned] at member
    exact nomatch member

namespace Sample

/-- The document of a request for a plan. -/
def requestDraft : Draft :=
  .record
    [(some "roomTypeId", .text "00000000-0000-0000-0000-000000000002"),
      (some "code", .text "BAR"), (some "name", .text "BAR"), (some "baseRate", .integer 100),
      (some "channelCodes", .list [.text "WEB"])]

/-- The document of a patch that clears the longest stay and doubles the rate of
weekends. -/
def patchDraft : Draft :=
  .record
    [(some "maxStay", .null),
      (some "pricingRules",
        .list
          [.record
            [(some "type", .text "DAY_OF_WEEK"),
              (some "condition", .record [(some "daysOfWeek", .list [.integer 0, .integer 6])]),
              (some "adjustment",
                .record [(some "type", .text "PERCENTAGE"), (some "value", .integer 100)])]])]

/-- The patch of the document. -/
def patch : PlanPatch where
  code := none
  name := none
  description := .keep
  baseRate := none
  currency := none
  pricingType := none
  minStay := none
  maxStay := .clear
  minAdvanceDays := .keep
  maxAdvanceDays := .keep
  isRefundable := none
  cancellationPolicy := .keep
  isPublic := none
  channelCodes := none
  mealPlan := none
  amenities := none
  rules := some
    [{ name := none
       trigger := .dayOfWeek [0, 6]
       adjustment := { kind := .percentage, operation := .add, value := .hundred }
       priority := 0 }]
  validFrom := .keep
  validUntil := .keep
  isActive := none

end Sample

open Sample in
/-- A plan that is made, revised and deleted is well formed. -/
theorem History.plans_wellFormed_after_deletion :
    let id := backend.stores.supply.next
    let history : History :=
      [making "BAR" .hundred ["WEB"], ⟨.updatePlan ⟨1⟩ id patch, circumstance⟩,
        ⟨.deletePlan ⟨1⟩ id, circumstance⟩]
    (∀ event ∈ history, event.call.IsDecoded) ∧
      (history.after backend).stores.plans.map (fun plan => (plan.rules.length, plan.isLive)) =
        [(1, false)] ∧
      ∀ plan ∈ (history.after backend).stores.plans,
        plan.WellFormedIn (history.after backend).stores.directory := by
  intro id history
  have decoded : ∀ event ∈ history, event.call.IsDecoded := by
    intro event member
    rcases List.mem_cons.mp member with rfl | member
    · exact ⟨requestDraft, rfl⟩
    · rcases List.mem_cons.mp member with rfl | member
      · exact ⟨patchDraft, rfl⟩
      · rw [List.mem_singleton.mp member]
        exact trivial
  exact ⟨decoded, by decide +kernel, history.plans_wellFormed decoded rfl⟩

end Lodging
