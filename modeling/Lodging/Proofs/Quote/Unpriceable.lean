import Lodging.Proofs.Decimal.Range
import Lodging.Proofs.Quote.Nights
import Lodging.Proofs.Rule.Replay

/-! # Plans without a price

A plan has no price for a stay exactly if a step of the price is out of range
(`Lodging.Offer.price?_eq_none_iff`). A step is what a rule does to the rate that it finds
on one of the nights (`Lodging.Rule.overflows_iff`), a night added to those before it, the
tax on all of them, or the total. What the steps find is told by the rules and overrides
of the plan alone (`Lodging.RatePlan.Reaches`, `Lodging.RatePlan.HasRates`).
-/

namespace Lodging

/-! ## Traversals that break off -/

section Traversal

variable {α β γ : Type} {make : α → Option β} {step : γ → α → Option γ} {values : List α}

theorem mapM_eq_none_iff : values.mapM make = none ↔ ∃ value ∈ values, make value = none := by
  induction values with
  | nil => simp only [List.mapM_nil, pure, reduceCtorEq, List.not_mem_nil, false_and, exists_false]
  | cons value rest ih =>
      rw [List.mapM_cons, List.exists_mem_cons_iff, ← ih]
      cases make value with
      | none => exact iff_of_true rfl (.inl rfl)
      | some result =>
          cases rest.mapM make with
          | none => exact iff_of_true rfl (.inr rfl)
          | some results =>
              refine iff_of_false (Option.some_ne_none _) ?_
              simp only [reduceCtorEq, or_self, not_false_eq_true]

theorem mapM_eq_some_iff {made : List β} :
    values.mapM make = some made ↔
      List.Forall₂ (fun value result => make value = some result) values made := by
  induction values generalizing made with
  | nil =>
      rw [List.mapM_nil, List.forall₂_nil_left_iff, eq_comm (a := made)]
      exact Option.some_inj
  | cons value rest ih =>
      simp only [List.mapM_cons, bind, pure, Option.bind_eq_some_iff, Option.some.injEq,
        List.forall₂_cons_left_iff, ih]
      constructor
      · rintro ⟨result, own, results, others, rfl⟩
        exact ⟨result, results, own, others, rfl⟩
      · rintro ⟨result, results, own, others, rfl⟩
        exact ⟨result, own, results, others, rfl⟩

/-- Only a part of what a traversal gives is wanted. -/
theorem map_mapM (part : β → γ) :
    (values.mapM make).map (List.map part) = values.mapM fun value => (make value).map part := by
  induction values with
  | nil => rfl
  | cons value rest ih =>
      rw [List.mapM_cons, List.mapM_cons, ← ih]
      cases make value with
      | none => rfl
      | some result => cases rest.mapM make <;> rfl

/-- Steps taken one after another break off at a first step that is not possible. -/
theorem foldlM_eq_none_iff {start : γ} :
    values.foldlM step start = none ↔
      ∃ before value after reached, values = before ++ value :: after ∧
        before.foldlM step start = some reached ∧ step reached value = none := by
  induction values generalizing start with
  | nil =>
      simp only [List.foldlM_nil, pure, reduceCtorEq, List.nil_eq, List.append_eq_nil_iff,
        and_false, false_and, exists_false]
  | cons first rest ih =>
      rw [List.foldlM_cons]
      constructor
      · intro failed
        cases taken : step start first with
        | none => exact ⟨[], first, rest, start, rfl, rfl, taken⟩
        | some next =>
            rw [taken] at failed
            obtain ⟨before, value, after, reached, rfl, led, missing⟩ := ih.mp failed
            refine ⟨first :: before, value, after, reached, rfl, ?_, missing⟩
            rw [List.foldlM_cons, taken]
            exact led
      · rintro ⟨before, value, after, reached, parts, led, missing⟩
        cases before with
        | nil =>
            obtain ⟨rfl, rfl⟩ := List.cons.inj parts
            obtain rfl := Option.some.inj led
            rw [missing]
            rfl
        | cons own before =>
            obtain ⟨rfl, rfl⟩ := List.cons.inj parts
            rw [List.foldlM_cons] at led
            obtain ⟨next, taken, led⟩ := Option.bind_eq_some_iff.mp led
            rw [taken]
            exact ih.mpr ⟨before, value, after, reached, rfl, led, missing⟩

end Traversal

/-! ## Steps out of range -/

/-- What a rule does to a rate is out of range if the rate times the percentage is, before
it is divided by one hundred, or the rate with the amount. -/
theorem Rule.overflows_iff {rule : Rule} {rate : Decimal} :
    rule.Overflows rate ↔
      rule.adjustment.kind = .percentage ∧
          Decimal.OutOfRange (rate.value * rule.adjustment.value.value) ∨
        ∃ amount, rule.adjustment.delta? rate = some amount ∧
          Decimal.OutOfRange (rate.value + amount.value) := by
  simp only [Overflows, Decimal.add?_eq_none_iff]
  refine or_congr_left ?_
  rw [Adjustment.delta?, Option.map_eq_none_iff, Adjustment.magnitude?]
  cases rule.adjustment.kind with
  | percentage => simp only [Option.map_eq_none_iff, Decimal.mul?_eq_none_iff, true_and]
  | fixedAmount => simp only [reduceCtorEq, false_and]
  | unknown => simp only [reduceCtorEq, false_and]

/-- A sum is out of range where an amount is added to those before it. -/
theorem Charges.sum?_eq_none_iff {amounts : List Decimal} :
    sum? amounts = none ↔
      ∃ before amount after sum, amounts = before ++ amount :: after ∧
        sum? before = some sum ∧ Decimal.OutOfRange (sum.value + amount.value) := by
  simp only [sum?, foldlM_eq_none_iff, Decimal.add?_eq_none_iff]

theorem Charges.ofRates?_eq_none_iff {rates : List Decimal} {taxRate : Decimal} :
    ofRates? rates taxRate = none ↔
      sum? rates = none ∨ ∃ subtotal, sum? rates = some subtotal ∧
        (Decimal.OutOfRange (subtotal.value * taxRate.value) ∨
          ∃ product, subtotal.mul? taxRate = some product ∧
            Decimal.OutOfRange (subtotal.value + product.roundMoney.value)) := by
  rw [ofRates?]
  cases sum? rates with
  | none => exact iff_of_true rfl (.inl rfl)
  | some subtotal =>
      simp only [reduceCtorEq, false_or, Option.some.injEq, exists_eq_left', bind,
        Option.bind_some, ← Decimal.mul?_eq_none_iff, ← Decimal.add?_eq_none_iff]
      cases subtotal.mul? taxRate with
      | none => exact iff_of_true rfl (.inl rfl)
      | some product =>
          simp only [reduceCtorEq, false_or, Option.some.injEq, exists_eq_left', Option.map_some,
            Option.bind_some]
          cases subtotal.add? product.roundMoney with
          | none => exact iff_of_true rfl rfl
          | some total => exact iff_of_false (Option.some_ne_none _) (Option.some_ne_none _)

/-! ## The steps of a plan -/

/-- What rules see of a night of a stay. -/
def Stay.contextOn (stay : Stay) (now : Instant) (night : Date) : RuleContext where
  date := night
  daysInAdvance := Instant.daysInAdvance stay.checkIn now
  lengthOfStay := stay.span
  occupancyPercent := .zero

namespace RatePlan

variable (plan : RatePlan) (stores : Stores) (stay : Stay) (now : Instant)

/-- The rate of a night before rules change it: that of its override, or of the plan. -/
def rateOn (night : Date) : Decimal :=
  ((stores.override? plan.id night).bind (·.rate)).getD plan.baseRate

/-- The rules that fire on a night of a stay, in the order in which they apply. -/
def rulesOn (night : Date) : List Rule :=
  Rule.firing plan.rules (stay.contextOn now night)

/-- On some night of the stay the rule fires, and those before it lead to the rate. -/
def Reaches (rule : Rule) (rate : Decimal) : Prop :=
  ∃ night place trail, stay.checkIn ≤ night ∧ night < stay.checkOut ∧
    (plan.rulesOn stay now night)[place]? = some rule ∧
    Rule.Replays ((plan.rulesOn stay now night).take place) (plan.rateOn stores night) trail rate

/-- The rates of the nights of the stay, in order: what the rules of each lead to, rounded
to cents and not below zero. -/
def HasRates (rates : List Decimal) : Prop :=
  List.Forall₂ (fun night rate => ∃ adjusted trail,
      Rule.Replays (plan.rulesOn stay now night) (plan.rateOn stores night) trail adjusted ∧
        adjusted.roundMoney.larger .zero = rate)
    (Stay.nightsFrom stay.checkIn stay.span.toNat) rates

/-- A step of the price of the plan is out of range. -/
inductive Unpriceable (taxRate : Decimal) : Prop where
  /-- The rate of a night times the percentage of a rule, before it is divided. -/
  | percentage {rule : Rule} {rate : Decimal} (reached : plan.Reaches stores stay now rule rate)
      (kind : rule.adjustment.kind = .percentage)
      (beyond : Decimal.OutOfRange (rate.value * rule.adjustment.value.value))
  /-- The rate of a night with what a rule adds to it. -/
  | change {rule : Rule} {rate amount : Decimal}
      (reached : plan.Reaches stores stay now rule rate)
      (given : rule.adjustment.delta? rate = some amount)
      (beyond : Decimal.OutOfRange (rate.value + amount.value))
  /-- A night added to those before it. -/
  | subtotal {before after : List Decimal} {rate sum : Decimal}
      (priced : plan.HasRates stores stay now (before ++ rate :: after))
      (added : Charges.sum? before = some sum)
      (beyond : Decimal.OutOfRange (sum.value + rate.value))
  /-- The tax on all nights. -/
  | taxes {rates : List Decimal} {subtotal : Decimal}
      (priced : plan.HasRates stores stay now rates)
      (added : Charges.sum? rates = some subtotal)
      (beyond : Decimal.OutOfRange (subtotal.value * taxRate.value))
  /-- All nights with the tax on them. -/
  | total {rates : List Decimal} {subtotal product : Decimal}
      (priced : plan.HasRates stores stay now rates)
      (added : Charges.sum? rates = some subtotal)
      (taxed : subtotal.mul? taxRate = some product)
      (beyond : Decimal.OutOfRange (subtotal.value + product.roundMoney.value))

/-- The rate of a night after all its rules, in cents and not below zero. -/
def rateAfter? (night : Date) : Option Decimal :=
  (Rule.applyAll? (plan.rateOn stores night) plan.rules (stay.contextOn now night)).map
    fun applied => applied.1.roundMoney.larger .zero

end RatePlan

/-! ## Plans without a price have such a step -/

section Price

variable {plan : RatePlan} {stores : Stores} {stay : Stay} {now : Instant} {booking : Booking}
  {limit : Nat} {taxRate : Decimal}

namespace RatePlan

theorem rateAfter?_eq_some_iff {night : Date} {rate : Decimal} :
    plan.rateAfter? stores stay now night = some rate ↔ ∃ adjusted trail,
      Rule.Replays (plan.rulesOn stay now night) (plan.rateOn stores night) trail adjusted ∧
        adjusted.roundMoney.larger .zero = rate := by
  rw [rateAfter?, Option.map_eq_some_iff, Prod.exists]
  simp only [Rule.applyAll?, Rule.applyInOrder?_eq_some_iff]
  rfl

/-- A night has no rate exactly if one of its rules overflows. -/
theorem rateAfter?_eq_none_iff :
    (∃ night, stay.checkIn ≤ night ∧ night < stay.checkOut ∧
        plan.rateAfter? stores stay now night = none) ↔
      ∃ rule rate, plan.Reaches stores stay now rule rate ∧ rule.Overflows rate := by
  simp only [rateAfter?, Option.map_eq_none_iff, Rule.applyAll?, Rule.applyInOrder?_eq_none_iff]
  constructor
  · rintro ⟨night, after, before, place, rule, trail, rate, own, replays, overflows⟩
    exact ⟨rule, rate, ⟨night, place, trail, after, before, own, replays⟩, overflows⟩
  · rintro ⟨rule, rate, ⟨night, place, trail, after, before, own, replays⟩, overflows⟩
    exact ⟨night, after, before, place, rule, trail, rate, own, replays, overflows⟩

theorem hasRates_iff {rates : List Decimal} :
    plan.HasRates stores stay now rates ↔
      (Stay.nightsFrom stay.checkIn stay.span.toNat).mapM (plan.rateAfter? stores stay now) =
        some rates := by
  simp only [HasRates, mapM_eq_some_iff, rateAfter?_eq_some_iff]

/-- A step that is out of range is one of a rule, or of the charges for the nights. -/
theorem unpriceable_iff :
    plan.Unpriceable stores stay now taxRate ↔
      (∃ rule rate, plan.Reaches stores stay now rule rate ∧ rule.Overflows rate) ∨
        ∃ rates, plan.HasRates stores stay now rates ∧ Charges.ofRates? rates taxRate = none := by
  constructor
  · intro unpriceable
    cases unpriceable with
    | percentage reached kind beyond =>
        exact .inl ⟨_, _, reached, Rule.overflows_iff.mpr (.inl ⟨kind, beyond⟩)⟩
    | change reached given beyond =>
        exact .inl ⟨_, _, reached, Rule.overflows_iff.mpr (.inr ⟨_, given, beyond⟩)⟩
    | subtotal priced added beyond =>
        refine .inr ⟨_, priced, Charges.ofRates?_eq_none_iff.mpr (.inl ?_)⟩
        exact Charges.sum?_eq_none_iff.mpr ⟨_, _, _, _, rfl, added, beyond⟩
    | taxes priced added beyond =>
        exact .inr ⟨_, priced, Charges.ofRates?_eq_none_iff.mpr (.inr ⟨_, added, .inl beyond⟩)⟩
    | total priced added taxed beyond =>
        exact .inr ⟨_, priced, Charges.ofRates?_eq_none_iff.mpr
          (.inr ⟨_, added, .inr ⟨_, taxed, beyond⟩⟩)⟩
  · rintro (⟨rule, rate, reached, overflows⟩ | ⟨rates, priced, missing⟩)
    · rcases Rule.overflows_iff.mp overflows with ⟨kind, beyond⟩ | ⟨amount, given, beyond⟩
      · exact .percentage reached kind beyond
      · exact .change reached given beyond
    · rcases Charges.ofRates?_eq_none_iff.mp missing with unsummed | ⟨subtotal, added, rest⟩
      · obtain ⟨before, rate, after, sum, rfl, added, beyond⟩ :=
          Charges.sum?_eq_none_iff.mp unsummed
        exact .subtotal priced added beyond
      · rcases rest with beyond | ⟨product, taxed, beyond⟩
        · exact .taxes priced added beyond
        · exact .total priced added taxed beyond

end RatePlan

/-- The rate of a night is priced from the override on its day. -/
theorem NightlyRate.price?_rate {night : Date} (spanned : (booking.nights : Int) = stay.span)
    (ahead : booking.daysInAdvance = Instant.daysInAdvance stay.checkIn now) :
    (price? plan (stores.override? plan.id night) night booking).map (·.rate) =
      plan.rateAfter? stores stay now night := by
  rw [price?, spanned, ahead, RatePlan.rateAfter?]
  change ((Rule.applyAll? (plan.rateOn stores night) plan.rules (stay.contextOn now night)).bind
    _).map _ = _
  cases Rule.applyAll? (plan.rateOn stores night) plan.rules (stay.contextOn now night) <;> rfl

/-- Only the rates of the nights decide whether there is a price. -/
theorem Offer.price?_eq_none_iff_rates {overrides : List RateOverride} :
    price? plan overrides booking taxRate = none ↔
      ((Stay.nightsFrom booking.checkIn booking.nights).mapM fun date =>
        (NightlyRate.price? plan (overrides.find? (·.date == date)) date booking).map
          (·.rate)).bind (Charges.ofRates? · taxRate) = none := by
  rw [price?, ← map_mapM]
  cases (Stay.nightsFrom booking.checkIn booking.nights).mapM fun date =>
      NightlyRate.price? plan (overrides.find? (·.date == date)) date booking with
  | none => exact iff_of_true rfl rfl
  | some nights =>
      change (Charges.ofRates? (nights.map (·.rate)) taxRate).bind _ = none ↔
        Charges.ofRates? (nights.map (·.rate)) taxRate = none
      cases Charges.ofRates? (nights.map (·.rate)) taxRate with
      | none => exact iff_of_true rfl rfl
      | some charges =>
          exact iff_of_false (Option.some_ne_none _) (Option.some_ne_none _)

/-- **No price.** A plan has no price for a stay exactly if a step of the price is out of
range. -/
theorem Offer.price?_eq_none_iff (accepted : stay.nights limit = .ok booking.nights)
    (arrival : booking.checkIn = stay.checkIn)
    (ahead : booking.daysInAdvance = Instant.daysInAdvance stay.checkIn now) :
    price? plan (stores.overridesIn plan.id stay.checkIn stay.lastNight) booking taxRate = none ↔
      plan.Unpriceable stores stay now taxRate := by
  have spanned := Stay.nights_ok accepted
  have same : Stay.nightsFrom stay.checkIn booking.nights =
      Stay.nightsFrom stay.checkIn stay.span.toNat := by
    rw [← spanned, Int.toNat_natCast]
  have covered (day : Date) : day ∈ Stay.nightsFrom stay.checkIn stay.span.toNat ↔
      stay.checkIn ≤ day ∧ day < stay.checkOut :=
    same ▸ Stay.mem_nights accepted
  have rates : ((Stay.nightsFrom stay.checkIn booking.nights).mapM fun date =>
        (NightlyRate.price? plan
          ((stores.overridesIn plan.id stay.checkIn stay.lastNight).find? (·.date == date)) date
          booking).map (·.rate)) =
      (Stay.nightsFrom stay.checkIn stay.span.toNat).mapM (plan.rateAfter? stores stay now) := by
    rw [← same]
    refine mapM_congr fun day night => ?_
    rw [find?_nights accepted night, NightlyRate.price?_rate spanned ahead]
  have nightly : (∃ rule rate, plan.Reaches stores stay now rule rate ∧ rule.Overflows rate) ↔
      (Stay.nightsFrom stay.checkIn stay.span.toNat).mapM (plan.rateAfter? stores stay now) =
        none := by
    simp only [mapM_eq_none_iff, covered, and_assoc, RatePlan.rateAfter?_eq_none_iff]
  rw [price?_eq_none_iff_rates, arrival, rates, RatePlan.unpriceable_iff, nightly]
  simp only [RatePlan.hasRates_iff]
  cases (Stay.nightsFrom stay.checkIn stay.span.toNat).mapM (plan.rateAfter? stores stay now) with
  | none => exact iff_of_true rfl (.inl rfl)
  | some rates => simp only [Option.bind_some, reduceCtorEq, false_or, Option.some.injEq,
      exists_eq_left']

end Price

end Lodging
