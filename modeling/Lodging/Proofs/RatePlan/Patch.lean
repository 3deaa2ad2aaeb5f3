import Lodging.Proofs.Document.Sent
import Lodging.RatePlan.Document

/-! # What a patch makes of the terms of a plan

The terms after a patch are told field by field from what the body of the patch has for each
(`Lodging.PlanTerms.RevisedBy`): a value that is sent replaces the old one, nothing keeps it, and
null clears those fields that may be absent from a plan and keeps the others
(`Lodging.PlanPatch.apply_revisedBy`). Terms that a patch has led to are not changed by
it again (`Lodging.PlanPatch.apply_apply`).
-/

namespace Lodging

namespace Fields

variable {α : Type} {name : String} {decoder : Decoder α}

theorem isPositional_revision : (revision name decoder).IsPositional :=
  isPositional_field fun _ same => same

/-- A field that a revision may clear is read as what revises a value. -/
theorem givesFrom_revision {entries : String → Option Draft} :
    (revision name decoder).GivesFrom entries fun part =>
      ∀ before, decoder.Revises (entries name) before (part.apply before) := by
  apply givesFrom_field
  · intro absence part made before
    obtain rfl := Except.ok.inj made
    rw [absence]
    rfl
  · intro draft present part made before
    rw [present]
    cases draft with
    | null =>
        obtain rfl := Except.ok.inj made
        rfl
    | _ =>
        obtain ⟨value, read, rfl⟩ := map_eq_ok.mp made
        exact ⟨value, read, rfl⟩

end Fields

/-- Each of the terms follows from what it was and from what is sent for it. -/
structure PlanTerms.RevisedBy (after before : PlanTerms) (sent : String → Option Draft) :
    Prop where
  code : Decoder.text.Replaces (sent "code") before.code after.code
  name : Decoder.text.Replaces (sent "name") before.name after.name
  description : Decoder.text.Revises (sent "description") before.description after.description
  baseRate : Decoder.decimal.Replaces (sent "baseRate") before.baseRate after.baseRate
  currency : Decoder.text.Replaces (sent "currency") before.currency after.currency
  pricingType :
    PricingType.decode.Replaces (sent "pricingType") before.pricingType after.pricingType
  minStay : Decoder.int32.Replaces (sent "minStay") before.minStay after.minStay
  maxStay : Decoder.int32.Revises (sent "maxStay") before.maxStay after.maxStay
  minAdvanceDays :
    Decoder.int32.Revises (sent "minAdvanceDays") before.minAdvanceDays after.minAdvanceDays
  maxAdvanceDays :
    Decoder.int32.Revises (sent "maxAdvanceDays") before.maxAdvanceDays after.maxAdvanceDays
  isRefundable : Decoder.bool.Replaces (sent "isRefundable") before.isRefundable after.isRefundable
  cancellationPolicy :
    Decoder.text.Revises (sent "cancellationPolicy") before.cancellationPolicy
      after.cancellationPolicy
  isPublic : Decoder.bool.Replaces (sent "isPublic") before.isPublic after.isPublic
  channelCodes :
    Decoder.text.listOf.Replaces (sent "channelCodes") before.channelCodes after.channelCodes
  mealPlan : MealPlan.decode.Replaces (sent "mealPlan") before.mealPlan after.mealPlan
  amenities : Decoder.text.listOf.Replaces (sent "amenities") before.amenities after.amenities
  rules : Rule.decode.listOf.Replaces (sent "pricingRules") before.rules after.rules
  validFrom : Decoder.date.Revises (sent "validFrom") before.validFrom after.validFrom
  validUntil : Decoder.date.Revises (sent "validUntil") before.validUntil after.validUntil
  isActive : Decoder.bool.Replaces (sent "isActive") before.isActive after.isActive

namespace PlanPatch

open Fields

theorem fields_givesFrom (entries : String → Option Draft) (terms : PlanTerms) :
    fields.GivesFrom entries fun patch => (patch.apply terms).RevisedBy terms entries := by
  refine (GivesFrom.map ?_ givesFrom_nullable
    |>.seq givesFrom_nullable
    |>.seq givesFrom_revision
    |>.seq givesFrom_nullable
    |>.seq givesFrom_nullable
    |>.seq givesFrom_nullable
    |>.seq givesFrom_nullable
    |>.seq givesFrom_revision
    |>.seq givesFrom_revision
    |>.seq givesFrom_revision
    |>.seq givesFrom_nullable
    |>.seq givesFrom_revision
    |>.seq givesFrom_nullable
    |>.seq givesFrom_nullable
    |>.seq givesFrom_nullable
    |>.seq givesFrom_nullable
    |>.seq givesFrom_nullable
    |>.seq givesFrom_revision
    |>.seq givesFrom_revision
    |>.seq givesFrom_nullable)
  intro _ code _ name _ description _ baseRate _ currency _ pricingType _ minStay _ maxStay
    _ minAdvanceDays _ maxAdvanceDays _ isRefundable _ cancellationPolicy _ isPublic _ channelCodes
    _ mealPlan _ amenities _ rules _ validFrom _ validUntil _ isActive
  exact {
    code := code _
    name := name _
    description := description _
    baseRate := baseRate _
    currency := currency _
    pricingType := pricingType _
    minStay := minStay _
    maxStay := maxStay _
    minAdvanceDays := minAdvanceDays _
    maxAdvanceDays := maxAdvanceDays _
    isRefundable := isRefundable _
    cancellationPolicy := cancellationPolicy _
    isPublic := isPublic _
    channelCodes := channelCodes _
    mealPlan := mealPlan _
    amenities := amenities _
    rules := rules _
    validFrom := validFrom _
    validUntil := validUntil _
    isActive := isActive _ }

theorem isPositional_fields : fields.IsPositional := by
  unfold fields
  repeat' first
    | exact isPositional_optional
    | exact isPositional_omissible
    | exact isPositional_revision
    | refine IsPositional.map ?_ _
    | refine IsPositional.seq ?_ ?_

theorem nodup_names : fields.names.Nodup := by decide

/-- **Patches.** What a patch makes of terms follows field by field from what its body has
for each. -/
theorem apply_revisedBy {body : Draft} {patch : PlanPatch} (decoded : decode body = .ok patch)
    (terms : PlanTerms) : (patch.apply terms).RevisedBy terms (fields.sent body) :=
  fields_givesFrom _ terms patch (ofEntries_sent isPositional_fields nodup_names decoded)

/-- A patch made twice is the same as made once. -/
theorem apply_apply (patch : PlanPatch) (terms : PlanTerms) :
    patch.apply (patch.apply terms) = patch.apply terms := by
  have kept {α : Type} (given : Option α) (value : α) :
      given.getD (given.getD value) = given.getD value := by
    cases given <;> rfl
  simp only [apply, Revision.apply_apply, kept]

end PlanPatch

end Lodging
