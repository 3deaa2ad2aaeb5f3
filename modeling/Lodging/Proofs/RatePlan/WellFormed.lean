import Lodging.Proofs.Decimal.Value
import Lodging.Proofs.Rule.Decode
import Lodging.RatePlan.Document

/-! # Well formed terms

What must hold of the terms of every plan is checked in three places. Rules are
checked when a request is decoded, single fields when it is accepted, and fields
that bound each other only on the terms that result. Together the checks of a new
plan give well formed terms (`Lodging.NewPlan.terms_wellFormed`), and those of a
revision give them again, whatever the patch keeps, clears or sets
(`Lodging.PlanPatch.apply_wellFormed`).
-/

namespace Lodging

/-! ## Rules -/

/-- The value of the adjustment is within its bounds, and days of the week are
days that there are. -/
structure Rule.WellFormed (rule : Rule) : Prop where
  adjustment : rule.adjustment.fault? = none
  daysOfWeek : ∀ days, rule.trigger = .dayOfWeek days → ∀ day ∈ days, day ≤ 6

theorem Rule.decode_gives : decode.Gives Rule.WellFormed := by
  intro draft rule accepted
  obtain ⟨_, _, _, faultless⟩ := decode_eq_ok.mp accepted
  obtain ⟨condition, fits⟩ := fits_of_decode accepted
  refine ⟨faultless, fun days fires => ?_⟩
  rw [fires] at fits
  exact fits

/-- The rules of a request that was decoded are well formed. -/
theorem NewPlan.decode_gives :
    NewPlan.decode.Gives fun request => ∀ rule ∈ request.rules, rule.WellFormed := by
  have rules : (Fields.defaulted "pricingRules" (Decoder.listOf Rule.decode) []).Gives
      fun rules => ∀ rule ∈ rules, rule.WellFormed :=
    .defaulted Rule.decode_gives.listOf fun _ member => nomatch member
  refine Fields.Gives.decode ?_
  unfold fields
  -- Nothing has to be known of the other fields, however many there are.
  repeat' with_reducible first
    | exact rules
    | exact .any
    | apply Fields.Gives.map
    | apply Fields.Gives.seq
  intros
  solve_by_elim

/-- The rules of a patch that was decoded are well formed. -/
theorem PlanPatch.decode_gives :
    PlanPatch.decode.Gives fun patch =>
      ∀ rules ∈ patch.rules, ∀ rule ∈ rules, rule.WellFormed := by
  have rules : (Fields.optional "pricingRules" (Decoder.listOf Rule.decode)).Gives
      fun rules => ∀ given ∈ rules, ∀ rule ∈ given, rule.WellFormed :=
    .optional Rule.decode_gives.listOf
  refine Fields.Gives.decode ?_
  unfold fields
  repeat' with_reducible first
    | exact rules
    | exact .any
    | apply Fields.Gives.map
    | apply Fields.Gives.seq
  intros
  solve_by_elim

/-! ## Single fields -/

theorem FieldFaults.ofField_eq_nil {α : Type} {name : String} {check : α → Option FieldFault}
    {value : Option α} :
    ofField name check value = [] ↔ ∀ given ∈ value, check given = none := by
  cases value with
  | none => simp only [ofField, Option.not_mem_none, false_implies, implies_true]
  | some given =>
      simp only [ofField, List.map_eq_nil_iff, Option.toList_eq_nil_iff, Option.mem_some_iff,
        forall_eq']

theorem FieldFaults.text_eq_nil {name : String} {least most : Nat} {message : String}
    {value : Option String} :
    text name least most message value = [] ↔
      ∀ given ∈ value, least ≤ given.length ∧ given.length ≤ most := by
  rw [text, ofField_eq_nil]
  simp only [ite_eq_left_iff, reduceCtorEq, imp_false, Decidable.not_not]

theorem FieldFaults.atLeast_eq_nil {name : String} {least : Int} {message : String}
    {value : Option Int} :
    atLeast name least message value = [] ↔ ∀ given ∈ value, least ≤ given := by
  rw [atLeast, ofField_eq_nil]
  simp only [ite_eq_left_iff, reduceCtorEq, imp_false, Decidable.not_not]

theorem FieldFault.ofAmount?_eq_none {amount : Decimal} :
    ofAmount? amount = none ↔ .zero ≤ amount := by
  rw [Decimal.zero_le_iff]
  simp only [ofAmount?, ite_eq_right_iff, reduceCtorEq, imp_false, Bool.not_eq_true]

/-- The text is a currency code: three capital letters. -/
def IsCurrency (code : String) : Prop :=
  code.toList.length = 3 ∧ ∀ letter ∈ code.toList, 'A' ≤ letter ∧ letter ≤ 'Z'

theorem FieldFault.ofCurrency?_eq_none {code : String} :
    ofCurrency? code = none ↔ IsCurrency code := by
  simp only [ofCurrency?, IsCurrency, ite_eq_left_iff, reduceCtorEq, imp_false,
    Decidable.not_not, List.all_eq_true, Bool.and_eq_true, decide_eq_true_eq]

theorem FieldFault.ofChannels?_eq_none {codes : List String} :
    ofChannels? codes = none ↔ ∀ code ∈ codes, Text.isBlankText code = false := by
  simp only [ofChannels?, ite_eq_right_iff, reduceCtorEq, imp_false, Bool.not_eq_true,
    List.any_eq_false]

/-- What each field that is given is checked for. -/
structure CheckedTerms.Pass (terms : CheckedTerms) : Prop where
  code : ∀ code ∈ terms.code, 1 ≤ code.length ∧ code.length ≤ 50
  name : ∀ name ∈ terms.name, 1 ≤ name.length ∧ name.length ≤ 200
  baseRate : ∀ rate ∈ terms.baseRate, .zero ≤ rate
  currency : ∀ code ∈ terms.currency, IsCurrency code
  minStay : ∀ least ∈ terms.minStay, 1 ≤ least
  maxStay : ∀ most ∈ terms.maxStay, 1 ≤ most
  minAdvanceDays : ∀ least ∈ terms.minAdvanceDays, 0 ≤ least
  maxAdvanceDays : ∀ most ∈ terms.maxAdvanceDays, 0 ≤ most
  channelCodes : ∀ codes ∈ terms.channelCodes, ∀ code ∈ codes, Text.isBlankText code = false

/-- No fault is found exactly if every given field passes. -/
theorem CheckedTerms.faults_eq_nil_iff {terms : CheckedTerms} :
    terms.faults = [] ↔ terms.Pass := by
  simp only [faults, List.append_eq_nil_iff, FieldFaults.text_eq_nil, FieldFaults.amount,
    FieldFaults.atLeast_eq_nil, FieldFaults.ofField_eq_nil, FieldFault.ofAmount?_eq_none,
    FieldFault.ofCurrency?_eq_none, FieldFault.ofChannels?_eq_none]
  constructor
  · rintro ⟨⟨⟨⟨⟨⟨⟨⟨code, name⟩, baseRate⟩, currency⟩, minStay⟩, maxStay⟩, minAdvanceDays⟩,
      maxAdvanceDays⟩, channelCodes⟩
    exact ⟨code, name, baseRate, currency, minStay, maxStay, minAdvanceDays, maxAdvanceDays,
      channelCodes⟩
  · intro pass
    exact ⟨⟨⟨⟨⟨⟨⟨⟨pass.code, pass.name⟩, pass.baseRate⟩, pass.currency⟩, pass.minStay⟩,
      pass.maxStay⟩, pass.minAdvanceDays⟩, pass.maxAdvanceDays⟩, pass.channelCodes⟩

/-! ## Fields that bound each other -/

theorem ReversedBounds.check_eq_none {α : Type} [LT α] [DecidableLT α] [ToString α]
    {label : String} {least most : Option α} :
    check label least most = none ↔ ∀ low ∈ least, ∀ high ∈ most, ¬ high < low := by
  cases least with
  | none => simp only [check, Option.not_mem_none, false_implies, implies_true]
  | some low =>
      cases most with
      | none => simp only [check, Option.not_mem_none, false_implies, implies_true]
      | some high =>
          simp only [check, ite_eq_right_iff, reduceCtorEq, imp_false, Option.mem_some_iff,
            forall_eq']

/-- No lower bound lies above the upper bound it belongs to. -/
structure PlanTerms.Bounded (terms : PlanTerms) : Prop where
  stay : ∀ most ∈ terms.maxStay, terms.minStay ≤ most
  advance : ∀ least ∈ terms.minAdvanceDays, ∀ most ∈ terms.maxAdvanceDays, least ≤ most
  validity : ∀ first ∈ terms.validFrom, ∀ last ∈ terms.validUntil, first ≤ last

theorem PlanTerms.bounded_of_reversedBounds? {terms : PlanTerms}
    (none : terms.reversedBounds? = none) : terms.Bounded := by
  simp only [reversedBounds?, Option.or_eq_none_iff, ReversedBounds.check_eq_none,
    Option.mem_some_iff, forall_eq', Int.not_lt] at none
  obtain ⟨stay, advance, validity⟩ := none
  exact ⟨stay, advance, fun first from? last until? =>
    Int.not_lt.mp (validity first from? last until?)⟩

/-! ## Terms -/

/-- What holds of the terms of every plan. -/
structure PlanTerms.WellFormed (terms : PlanTerms) : Prop extends terms.Bounded where
  code : 1 ≤ terms.code.length ∧ terms.code.length ≤ 50
  name : 1 ≤ terms.name.length ∧ terms.name.length ≤ 200
  baseRate : .zero ≤ terms.baseRate
  currency : IsCurrency terms.currency
  minStay : 1 ≤ terms.minStay
  minAdvanceDays : ∀ least ∈ terms.minAdvanceDays, 0 ≤ least
  maxAdvanceDays : ∀ most ∈ terms.maxAdvanceDays, 0 ≤ most
  channelCodes : ∀ code ∈ terms.channelCodes, Text.isBlankText code = false
  rules : ∀ rule ∈ terms.rules, rule.WellFormed

/-- What holds of a value that is given and of the one in its place holds of
either. -/
theorem forall_getD {α : Type} {property : α → Prop} {given : Option α} {fallback : α}
    (present : ∀ value ∈ given, property value) (absent : property fallback) :
    property (given.getD fallback) := by
  cases given with
  | none => exact absent
  | some value => exact present value rfl

/-- What holds of the new value and of the current one holds after the revision. -/
theorem Revision.forall_apply {α : Type} {property : α → Prop} {revision : Revision α}
    {current : Option α} (new : ∀ value ∈ revision.new?, property value)
    (kept : ∀ value ∈ current, property value) :
    ∀ value ∈ revision.apply current, property value := by
  cases revision with
  | keep => exact kept
  | clear => exact fun _ member => nomatch member
  | set value => exact new

/-- **New plans.** The terms of an accepted request are well formed. -/
theorem NewPlan.terms_wellFormed {request : NewPlan} (faultless : request.faults = [])
    (bounded : request.terms.reversedBounds? = none)
    (rules : ∀ rule ∈ request.rules, rule.WellFormed) : request.terms.WellFormed := by
  have pass := CheckedTerms.faults_eq_nil_iff.mp faultless
  have dollars : IsCurrency defaultCurrency := FieldFault.ofCurrency?_eq_none.mp rfl
  exact {
    toBounded := PlanTerms.bounded_of_reversedBounds? bounded
    code := pass.code request.code rfl
    name := pass.name request.name rfl
    baseRate := pass.baseRate request.baseRate rfl
    currency := forall_getD pass.currency dollars
    minStay := forall_getD pass.minStay (Int.le_refl 1)
    minAdvanceDays := pass.minAdvanceDays
    maxAdvanceDays := pass.maxAdvanceDays
    channelCodes := pass.channelCodes request.channelCodes rfl
    rules }

/-- **Revisions.** Well formed terms stay so under an accepted patch. -/
theorem PlanPatch.apply_wellFormed {patch : PlanPatch} {terms : PlanTerms}
    (wellFormed : terms.WellFormed) (faultless : patch.faults = [])
    (bounded : (patch.apply terms).reversedBounds? = none)
    (rules : ∀ rules ∈ patch.rules, ∀ rule ∈ rules, rule.WellFormed) :
    (patch.apply terms).WellFormed := by
  have pass := CheckedTerms.faults_eq_nil_iff.mp faultless
  exact {
    toBounded := PlanTerms.bounded_of_reversedBounds? bounded
    code := forall_getD pass.code wellFormed.code
    name := forall_getD pass.name wellFormed.name
    baseRate := forall_getD pass.baseRate wellFormed.baseRate
    currency := forall_getD pass.currency wellFormed.currency
    minStay := forall_getD pass.minStay wellFormed.minStay
    minAdvanceDays := Revision.forall_apply pass.minAdvanceDays wellFormed.minAdvanceDays
    maxAdvanceDays := Revision.forall_apply pass.maxAdvanceDays wellFormed.maxAdvanceDays
    channelCodes := forall_getD pass.channelCodes wellFormed.channelCodes
    rules := forall_getD rules wellFormed.rules }

end Lodging
