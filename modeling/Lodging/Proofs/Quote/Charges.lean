import Lodging.Proofs.Decimal.Exact
import Lodging.Proofs.Document.Decode
import Lodging.Proofs.Quote.Ranking
import Lodging.Settings

/-! # The money of an offer adds up

The rate of a night is an amount of money: whole cents, and not below zero. Sums
of such amounts are amounts of money again, and as long as they are in range no
cent is lost in them (`Lodging.Charges.of_sum?`). Taxes are rounded once, and a
total that is in range is rounded not at all (`Lodging.Quote.charges_add_up`).
-/

namespace Lodging

/-! ## The rates of nights -/

/-- The rate of a night is an amount of money, whatever rules have made of the base
rate: it is rounded to cents, and not below zero. -/
theorem NightlyRate.price?_isMoney {plan : RatePlan} {row : Option RateOverride} {date : Date}
    {booking : Booking} {night : NightlyRate}
    (priced : price? plan row date booking = some night) : night.rate.IsMoney := by
  simp only [price?, bind, Option.bind_eq_some_iff] at priced
  obtain ⟨⟨adjusted, appliedRules⟩, _, same⟩ := priced
  obtain rfl := Option.some.inj same
  refine ⟨?_, ?_⟩
  · simp only [Decimal.larger]
    split
    · exact Decimal.roundMoney_scale_le adjusted
    · exact Nat.zero_le 2
  · rw [Decimal.value_larger]
    exact le_max_of_le_right Decimal.isMoney_zero.nonneg

/-- What a traversal gives, it gives for some element. -/
theorem exists_of_mem_mapM {α β : Type} {make : α → Option β} {values : List α} {made : List β}
    (success : values.mapM make = some made) :
    ∀ result ∈ made, ∃ value ∈ values, make value = some result := by
  induction values generalizing made with
  | nil =>
      obtain rfl : [] = made := Option.some.inj (List.mapM_nil.symm.trans success)
      exact fun _ member => nomatch member
  | cons value rest ih =>
      simp only [List.mapM_cons, bind, Option.bind_eq_some_iff] at success
      obtain ⟨first, own, others, made?, same⟩ := success
      obtain rfl := Option.some.inj same
      intro result member
      rcases List.mem_cons.mp member with rfl | later
      · exact ⟨value, List.mem_cons_self, own⟩
      · obtain ⟨source, present, found⟩ := ih made? result later
        exact ⟨source, List.mem_cons_of_mem value present, found⟩

/-! ## Sums, taxes and totals -/

namespace Charges

variable {rates : List Decimal} {start sum taxRate : Decimal}

/-- A sum that is continued stays an amount of money, and is exact if the whole of
it is in range: every part of it is in range then. -/
theorem of_foldlM (money : ∀ rate ∈ rates, rate.IsMoney) (begun : start.IsMoney)
    (added : rates.foldlM (fun sum rate => sum.add? rate) start = some sum) :
    sum.IsMoney ∧ (100 * (start.value + (rates.map (·.value)).sum) < 2 ^ 96 →
      sum.value = start.value + (rates.map (·.value)).sum) := by
  induction rates generalizing start with
  | nil =>
      obtain rfl : start = sum := Option.some.inj added
      refine ⟨begun, fun _ => ?_⟩
      rw [List.map_nil, List.sum_nil, add_zero]
  | cons rate rest ih =>
      simp only [List.foldlM_cons, bind, Option.bind_eq_some_iff] at added
      obtain ⟨next, found, added⟩ := added
      have own := money rate List.mem_cons_self
      have others : ∀ other ∈ rest, other.IsMoney :=
        fun other member => money other (List.mem_cons_of_mem rate member)
      obtain ⟨summed, exact⟩ := ih others (begun.add? own found) added
      refine ⟨summed, fun inRange => ?_⟩
      rw [List.map_cons, List.sum_cons, ← add_assoc] at inRange ⊢
      have later : 0 ≤ (rest.map (·.value)).sum := by
        refine List.sum_nonneg fun value member => ?_
        obtain ⟨other, present, rfl⟩ := List.mem_map.mp member
        exact (others other present).nonneg
      have soFar : next.value = start.value + rate.value :=
        begun.value_add? own (by linarith) found
      rw [← soFar] at inRange ⊢
      exact exact inRange

theorem of_sum? (money : ∀ rate ∈ rates, rate.IsMoney) (added : sum? rates = some sum) :
    sum.IsMoney ∧ (100 * (rates.map (·.value)).sum < 2 ^ 96 →
      sum.value = (rates.map (·.value)).sum) := by
  have added := of_foldlM money Decimal.isMoney_zero added
  rwa [Decimal.value_zero, zero_add] at added

/-- The charges follow from the rates of the nights and the tax rate. -/
structure AddUp (charges : Charges) (rates : List Decimal) (taxRate : Decimal) : Prop where
  rates_nonneg : ∀ rate ∈ rates, 0 ≤ rate.value
  rates_cents : ∀ rate ∈ rates, rate.IsCents
  subtotal_nonneg : 0 ≤ charges.subtotal.value
  /-- No cent is lost in a sum that is in range. -/
  subtotal : 100 * (rates.map (·.value)).sum < 2 ^ 96 →
    charges.subtotal.value = (rates.map (·.value)).sum
  taxes_nonneg : 0 ≤ charges.taxes.value
  taxes_cents : charges.taxes.IsCents
  /-- A product that some decimal stands for is rounded to cents and not before. -/
  taxes : (∃ product : Decimal, product.value = charges.subtotal.value * taxRate.value) →
    100 * charges.taxes.value = roundHalfAway (100 * (charges.subtotal.value * taxRate.value))
  total_nonneg : 0 ≤ charges.total.value
  /-- A total that is in range is the sum of both. -/
  total : 100 * (charges.subtotal.value + charges.taxes.value) < 2 ^ 96 →
    charges.total.value = charges.subtotal.value + charges.taxes.value ∧
      charges.subtotal.value ≤ charges.total.value

theorem ofRates?_addUp {charges : Charges} (money : ∀ rate ∈ rates, rate.IsMoney)
    (taxed : 0 ≤ taxRate.value) (found : ofRates? rates taxRate = some charges) :
    charges.AddUp rates taxRate := by
  simp only [ofRates?, bind, Option.bind_eq_some_iff, Option.map_eq_some_iff] at found
  obtain ⟨subtotal, added, _, ⟨product, multiplied, rfl⟩, _, ⟨sum, totalled, rfl⟩, same⟩ := found
  obtain rfl := Option.some.inj same
  obtain ⟨subtotalMoney, subtotalExact⟩ := of_sum? money added
  have taxesMoney : product.roundMoney.IsMoney :=
    Decimal.isMoney_roundMoney (Decimal.mul?_nonneg subtotalMoney.nonneg taxed multiplied)
  have sumMoney : sum.IsMoney := subtotalMoney.add? taxesMoney totalled
  exact {
    rates_nonneg := fun rate member => (money rate member).nonneg
    rates_cents := fun rate member => (money rate member).isCents
    subtotal_nonneg := subtotalMoney.nonneg
    subtotal := subtotalExact
    taxes_nonneg := taxesMoney.nonneg
    taxes_cents := taxesMoney.isCents
    taxes := by
      rintro ⟨represented, exact⟩
      obtain ⟨result, found, same⟩ := Decimal.mul?_exact exact
      obtain rfl := Option.some.inj (multiplied.symm.trans found)
      rw [Decimal.value_roundMoney, same]
    total_nonneg := (Decimal.isMoney_roundMoney sumMoney.nonneg).nonneg
    total := by
      intro inRange
      have exact := subtotalMoney.value_add? taxesMoney inRange totalled
      rw [sumMoney.isCents.value_roundMoney_eq, exact]
      exact ⟨rfl, le_add_of_nonneg_right taxesMoney.nonneg⟩ }

end Charges

/-! ## Offers -/

theorem Offer.price?_addUp {plan : RatePlan} {overrides : List RateOverride} {booking : Booking}
    {taxRate : Decimal} {offer : Offer} (taxed : 0 ≤ taxRate.value)
    (priced : price? plan overrides booking taxRate = some offer) :
    offer.AddUp (offer.nightlyRates.map (·.rate)) taxRate := by
  simp only [price?, bind, Option.bind_eq_some_iff] at priced
  obtain ⟨nights, nightly, charges, charged, same⟩ := priced
  obtain rfl := Option.some.inj same
  refine Charges.ofRates?_addUp (fun rate member => ?_) taxed charged
  obtain ⟨night, present, rfl⟩ := List.mem_map.mp member
  obtain ⟨date, _, found⟩ := exists_of_mem_mapM nightly night present
  exact NightlyRate.price?_isMoney found

namespace Settings

/-- A tax rate below zero is refused. -/
theorem readTaxRate_nonneg {environment : Environment} {name : String} {taxRate : Decimal}
    (accepted : readTaxRate environment name = .ok taxRate) : .zero ≤ taxRate := by
  simp only [readTaxRate] at accepted
  split at accepted
  · obtain rfl := Except.ok.inj accepted
    decide
  · split at accepted
    · exact nomatch accepted
    · split at accepted
      · exact nomatch accepted
      · rename_i rate _ positive
        obtain rfl := Except.ok.inj accepted
        rw [Bool.or_eq_true, not_or, Bool.not_eq_true] at positive
        exact Decimal.zero_le_iff.mpr positive.1

theorem read_taxRate_nonneg {environment : Environment} {settings : Settings}
    (accepted : read environment = .ok settings) : .zero ≤ settings.taxRate := by
  simp only [read, bind_eq_ok] at accepted
  obtain ⟨_, _, _, _, _, _, _, _, _, _, taxRate, taxed, _, _, same⟩ := accepted
  obtain rfl := Except.ok.inj same
  exact readTaxRate_nonneg taxed

end Settings

namespace Quote

open Service

variable {circumstance : Circumstance} {backend after : Backend} {hotel : Id}
  {request : QuoteRequest} {quote : Quote}

theorem calculate_addUp (taxed : Decimal.zero ≤ circumstance.taxRate)
    (success : (calculate hotel request).run circumstance backend = (.ok quote, after)) :
    ∀ offer ∈ quote.offers,
      offer.AddUp (offer.nightlyRates.map (·.rate)) circumstance.taxRate := by
  obtain ⟨_, _, _, _, offers, _, _, priced, rfl⟩ := run_calculate_ok.mp success
  obtain ⟨rfl, _, own⟩ := run_offers_ok priced
  have taxed : 0 ≤ circumstance.taxRate.value := by
    have ordered := Decimal.le_iff_value_le.mp taxed
    exact Decimal.isMoney_zero.nonneg.trans ordered
  intro offer member
  have present : offer ∈ offers := (List.mergeSort_perm _ _).mem_iff.mp member
  obtain ⟨_, _, _, priced⟩ := run_offer?_some.mp (own offer present)
  exact Offer.price?_addUp taxed priced

/-- **Money adds up.** Settings have no tax rate below zero, and with such a tax
rate nothing in an offer is below zero and no cent is lost between its rates and
its total. -/
theorem charges_add_up :
    (∀ environment settings, Settings.read environment = .ok settings →
      .zero ≤ settings.taxRate) ∧
    ∀ circumstance backend after hotel request quote, .zero ≤ circumstance.taxRate →
      (calculate hotel request).run circumstance backend = (.ok quote, after) →
      ∀ offer ∈ quote.offers,
        offer.AddUp (offer.nightlyRates.map (·.rate)) circumstance.taxRate :=
  ⟨fun _ _ accepted => Settings.read_taxRate_nonneg accepted,
    fun _ _ _ _ _ _ taxed success => calculate_addUp taxed success⟩

end Quote

/-- An environment that sets what must be set and leaves all else to defaults. -/
def Sample.environment : Environment := fun name =>
  if name = "DATABASE_URL" ∨ name = "JWT_SECRET" then some "set" else none

open Quote Sample in
/-- Defaults have a tax rate that is not negative, and the charges of both plans that a
house offers for a night add up. -/
theorem Quote.charges_add_up_for_one_night :
    (∃ settings, Settings.read environment = .ok settings ∧ .zero ≤ settings.taxRate) ∧
    ∃ quote after, (calculate ⟨1⟩ wanted).run circumstance planned = (.ok quote, after) ∧
      quote.offers.length = 2 ∧ ∀ offer ∈ quote.offers,
        offer.AddUp (offer.nightlyRates.map (·.rate)) circumstance.taxRate := by
  have configured : ∃ settings, Settings.read environment = .ok settings := ⟨_, rfl⟩
  obtain ⟨settings, configured⟩ := configured
  obtain ⟨first, second, success⟩ := run_calculate_planned
  exact ⟨⟨settings, configured, charges_add_up.1 environment settings configured⟩,
    _, _, success, List.length_mergeSort _,
    charges_add_up.2 circumstance planned _ ⟨1⟩ wanted _ (by decide) success⟩

end Lodging
