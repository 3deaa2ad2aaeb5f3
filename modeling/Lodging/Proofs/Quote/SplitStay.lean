import Lodging.Proofs.Quote.Nights

/-! # Split stays

Where no rule of a plan looks at the booking, a night costs what it would cost as a stay of
its own (`Lodging.RatePlan.nightAlone?`). So a stay that is split at a day between its ends has
the same nights at the same rates, and no cent is lost or won by the split
(`Lodging.Quote.split_stays`).
-/

namespace Lodging

/-! ## Nights on their own -/

/-- The trigger looks at the time of booking or at the length of the stay. -/
def Trigger.looksAtBooking : Trigger → Bool
  | .earlyBird _ | .lastMinute _ | .lengthOfStay _ _ => true
  | .occupancyBased _ | .dayOfWeek _ | .other _ _ => false

/-- Nothing but the day matters for the price of a night. -/
def PlanTerms.IsNightly (terms : PlanTerms) : Prop :=
  ∀ rule ∈ terms.rules, rule.trigger.looksAtBooking = false

instance (terms : PlanTerms) : Decidable terms.IsNightly :=
  inferInstanceAs (Decidable (∀ rule ∈ terms.rules, rule.trigger.looksAtBooking = false))

/-- The price of a night that is a stay of its own, booked on the day of check-in. -/
def RatePlan.nightAlone? (plan : RatePlan) (stores : Stores) (day : Date) : Option NightlyRate :=
  NightlyRate.price? plan (stores.override? plan.id day) day
    { checkIn := day, nights := 1, daysInAdvance := 0 }

section Night

variable {plan : RatePlan} {one other : RuleContext}

theorem Trigger.fires_congr {trigger : Trigger} (nightly : trigger.looksAtBooking = false)
    (date : other.date = one.date) (occupancy : other.occupancyPercent = one.occupancyPercent) :
    trigger.fires other = trigger.fires one := by
  cases trigger with
  | earlyBird | lastMinute | lengthOfStay => exact nomatch nightly
  | occupancyBased => rw [fires, fires, occupancy]
  | dayOfWeek => rw [fires, fires, date]
  | other => rfl

/-- The same rules fire on a night, however it was booked. -/
theorem PlanTerms.IsNightly.applyAll?_eq {terms : PlanTerms} (nightly : terms.IsNightly)
    (base : Decimal) (date : other.date = one.date)
    (occupancy : other.occupancyPercent = one.occupancyPercent) :
    Rule.applyAll? base terms.rules other = Rule.applyAll? base terms.rules one := by
  have fired : terms.rules.filter (·.trigger.fires other) =
      terms.rules.filter (·.trigger.fires one) :=
    List.filter_congr fun rule member => Trigger.fires_congr (nightly rule member) date occupancy
  rw [Rule.applyAll?, Rule.applyAll?, Rule.firing, Rule.firing, fired]

theorem PlanTerms.IsNightly.price?_eq_nightAlone? (nightly : plan.IsNightly) (stores : Stores)
    (day : Date) (booking : Booking) :
    NightlyRate.price? plan (stores.override? plan.id day) day booking =
      plan.nightAlone? stores day := by
  rw [RatePlan.nightAlone?, NightlyRate.price?, NightlyRate.price?]
  exact congrArg (Option.bind · _) (nightly.applyAll?_eq _ rfl rfl)

end Night

/-- The nights of a stay are those up to some day and those from it on. -/
theorem Stay.nightsFrom_append (first : Date) (before after : Nat) :
    nightsFrom first (before + after) =
      nightsFrom first before ++ nightsFrom (first.addDays before) after := by
  simp only [nightsFrom, List.range_add, List.map_append, List.map_map]
  congr 1
  refine List.map_congr_left fun offset _ => congrArg Date.mk ?_
  simp only [Date.addDays, Nat.cast_add]
  exact (Int.add_assoc _ _ _).symm

/-! ## Offers of a plan -/

/-- An offer has the rates of its nights, and their sum before taxes. -/
theorem Offer.of_price? {plan : RatePlan} {overrides : List RateOverride} {booking : Booking}
    {taxRate : Decimal} {offer : Offer}
    (priced : price? plan overrides booking taxRate = some offer) :
    ((Stay.nightsFrom booking.checkIn booking.nights).mapM fun day =>
        NightlyRate.price? plan (overrides.find? (·.date == day)) day booking) =
          some offer.nightlyRates ∧
      Charges.sum? (offer.nightlyRates.map (·.rate)) = some offer.subtotal := by
  simp only [price?, Charges.ofRates?, bind, Option.bind_eq_some_iff] at priced
  obtain ⟨nights, listed, charges, ⟨subtotal, added, _, _, _, _, charged⟩, same⟩ := priced
  obtain rfl := Option.some.inj charged
  obtain rfl := Option.some.inj same
  exact ⟨listed, added⟩

/-- Some quote that is given from the stores, at whatever time, offers the plan for the stay. -/
def Stores.Offers (stores : Stores) (plan : RatePlan) (stay : Stay) (offer : Offer) : Prop :=
  ∃ hotel request circumstance backend quote after,
    backend.stores = stores ∧ request.stay = stay ∧
      (Quote.calculate hotel request).run circumstance backend = (.ok quote, after) ∧
        offer ∈ quote.offers ∧ offer.plan = plan

namespace Stores.Offers

open Service

variable {stores : Stores} {plan : RatePlan} {arrival change departure : Date} {stay : Stay}
  {offer first second whole : Offer}

/-- The rates of an offer are found by a direct lookup of each override, and added up. -/
theorem priced (offered : stores.Offers plan stay offer) :
    ∃ (count : Nat) (booking : Booking), (count : Int) = stay.span ∧
      ((Stay.nightsFrom stay.checkIn count).mapM fun day =>
        NightlyRate.price? plan (stores.override? plan.id day) day booking) =
          some offer.nightlyRates ∧
      Charges.sum? (offer.nightlyRates.map (·.rate)) = some offer.subtotal := by
  obtain ⟨hotel, request, circumstance, backend, quote, after, rfl, rfl, success, member, rfl⟩ :=
    offered
  obtain ⟨count, accepted, _, _, own⟩ := Quote.own_offer success member
  obtain ⟨_, _, _, priced⟩ := Quote.run_offer?_some.mp own
  obtain ⟨listed, added⟩ := Offer.of_price? priced
  refine ⟨count, Quote.bookingAt request count circumstance.now, Stay.nights_ok accepted, ?_,
    added⟩
  rw [← listed]
  refine mapM_congr fun day night => ?_
  rw [← Offer.find?_nights accepted night]
  rfl

/-- The nights of an offer cost what they would cost on their own. -/
theorem nightlyRates_eq (offered : stores.Offers plan stay offer) (nightly : plan.IsNightly) :
    ∃ count : Nat, (count : Int) = stay.span ∧
      (Stay.nightsFrom stay.checkIn count).mapM (plan.nightAlone? stores) =
        some offer.nightlyRates := by
  obtain ⟨count, booking, spanned, listed, _⟩ := offered.priced
  refine ⟨count, spanned, listed ▸ mapM_congr fun day _ => ?_⟩
  exact (nightly.price?_eq_nightAlone? stores day booking).symm

/-- The rates of an offer are not negative, and added up without loss while they are in
range. -/
theorem subtotal_eq (offered : stores.Offers plan stay offer) :
    0 ≤ (offer.nightlyRates.map (·.rate.value)).sum ∧
      (100 * (offer.nightlyRates.map (·.rate.value)).sum < 2 ^ 96 →
        offer.subtotal.value = (offer.nightlyRates.map (·.rate.value)).sum) := by
  obtain ⟨count, booking, _, listed, added⟩ := offered.priced
  have money (night : NightlyRate) (member : night ∈ offer.nightlyRates) : night.rate.IsMoney := by
    obtain ⟨day, _, priced⟩ := exists_of_mem_mapM listed night member
    exact NightlyRate.price?_isMoney priced
  have exact := (Charges.of_sum? (List.forall_mem_map.mpr money) added).2
  rw [List.map_map] at exact
  exact ⟨List.sum_nonneg (List.forall_mem_map.mpr fun night member => (money night member).nonneg),
    exact⟩

/-- Where the day is all that matters, the nights of both parts are those of the whole. -/
theorem nightlyRates_append (nightly : plan.IsNightly)
    (one : stores.Offers plan ⟨arrival, change⟩ first)
    (other : stores.Offers plan ⟨change, departure⟩ second)
    (all : stores.Offers plan ⟨arrival, departure⟩ whole) :
    whole.nightlyRates = first.nightlyRates ++ second.nightlyRates := by
  obtain ⟨before, ends, early⟩ := one.nightlyRates_eq nightly
  obtain ⟨after, starts, late⟩ := other.nightlyRates_eq nightly
  obtain ⟨count, spanned, listed⟩ := all.nightlyRates_eq nightly
  simp only [Stay.span, Date.daysUntil] at ends starts spanned
  -- The second part begins on the day on which the first ends: no night is lost or counted twice.
  have nights : count = before + after := by omega
  have meets : arrival.addDays before = change := congrArg Date.mk (by omega)
  rw [nights, Stay.nightsFrom_append, meets, List.mapM_append, early, late] at listed
  exact (Option.some.inj listed).symm

end Stores.Offers

/-- **Split stays.** If no rule of a plan looks at the booking, then a stay has the nights of
its two parts, and costs as much before taxes as both, whenever each was booked. -/
theorem Quote.split_stays (stores : Stores) (plan : RatePlan) (nightly : plan.IsNightly)
    (arrival change departure : Date) (first second whole : Offer)
    (one : stores.Offers plan ⟨arrival, change⟩ first)
    (other : stores.Offers plan ⟨change, departure⟩ second)
    (all : stores.Offers plan ⟨arrival, departure⟩ whole) :
    whole.nightlyRates = first.nightlyRates ++ second.nightlyRates ∧
      (100 * (whole.nightlyRates.map (·.rate.value)).sum < 2 ^ 96 →
        whole.subtotal.value = first.subtotal.value + second.subtotal.value ∧
          ∃ sum, first.subtotal.add? second.subtotal = some sum ∧
            sum.value = whole.subtotal.value) := by
  have nights := Stores.Offers.nightlyRates_append nightly one other all
  obtain ⟨early, exactEarly⟩ := one.subtotal_eq
  obtain ⟨late, exactLate⟩ := other.subtotal_eq
  refine ⟨nights, fun inRange => ?_⟩
  have exact := all.subtotal_eq.2 inRange
  rw [nights, List.map_append, List.sum_append] at inRange exact
  rw [← exactEarly (by linarith), ← exactLate (by linarith)] at exact
  obtain ⟨sum, added, same⟩ := Decimal.add?_exact exact
  exact ⟨exact, sum, added, same.trans exact.symm⟩

/-! ## Two nights of which one has a surcharge -/

theorem Rule.firing_singleton (rule : Rule) (context : RuleContext) :
    firing [rule] context = if rule.trigger.fires context then [rule] else [] := by
  rw [firing, List.filter_singleton]
  cases rule.trigger.fires context with
  | false => exact List.mergeSort_nil
  | true => exact List.mergeSort_singleton rule

namespace Sample

open Quote Service

/-- A plan that costs twice as much on the second of two nights, which is a Thursday. -/
def dearThursdays : RatePlan :=
  { highest with
    rules := [{
      name := none
      trigger := .dayOfWeek [4]
      adjustment := { kind := .percentage, operation := .add, value := .hundred }
      priority := 0 }] }

/-- The first night costs nothing. -/
def thursday : Backend :=
  { sparse with stores := { sparse.stores with plans := [dearThursdays] } }

/-- The rates of the nights of a stay in the house. -/
def ratesOf (stay : Stay) (nights : Nat) (rows : List RateOverride) : Option (List Decimal) :=
  (Offer.price? dearThursdays rows (bookingAt { twoNights with stay } nights circumstance.now)
    circumstance.taxRate).map fun offer => offer.nightlyRates.map (·.rate)

def twoHundred : Decimal :=
  { Decimal.hundred with mantissa := 200, mantissa_lt := by decide }

theorem ratesOf_thursday :
    ratesOf ⟨⟨10⟩, ⟨11⟩⟩ 1 [stopped 20 3 10] = some [.zero] ∧
      ratesOf ⟨⟨11⟩, ⟨12⟩⟩ 1 [] = some [twoHundred] ∧
        ratesOf ⟨⟨10⟩, ⟨12⟩⟩ 2 [stopped 20 3 10] = some [.zero, twoHundred] := by
  simp only [ratesOf, Offer.price?, NightlyRate.price?, Rule.applyAll?, dearThursdays,
    Rule.firing_singleton]
  decide +kernel

theorem offers_thursday {stay : Stay} {nights : Nat} {rows : List RateOverride}
    {rates : List Decimal} (accepted : stay.nights circumstance.maxStayNights = .ok nights)
    (admitted : dearThursdays.Admits nights (Instant.daysInAdvance stay.checkIn circumstance.now))
    (bookable : thursday.stores.applicablePlans ⟨1⟩ ⟨2⟩ stay.checkIn none none = [dearThursdays])
    (found : thursday.stores.overridesIn ⟨3⟩ stay.checkIn stay.lastNight = rows)
    (priced : ratesOf stay nights rows = some rates) :
    ∃ offer, thursday.stores.Offers dearThursdays stay offer ∧
      offer.nightlyRates.map (·.rate) = rates := by
  obtain ⟨offer, priced, same⟩ := Option.map_eq_some_iff.mp priced
  rw [← found] at priced
  have own : run (offer? dearThursdays stay (bookingAt { twoNights with stay } nights
      circumstance.now)) circumstance thursday = (.ok (some offer), thursday) :=
    run_offer?_some.mpr ⟨rfl, admitted, rfl, priced⟩
  have success : run (calculate ⟨1⟩ { twoNights with stay }) circumstance thursday =
      (.ok (ofOffers king [offer]), counted thursday) := by
    refine run_calculate_ok.mpr ⟨rfl, rfl, king, nights, _, rfl, accepted, ?_, rfl⟩
    exact bookable ▸ run_offers_of_own own rfl
  exact ⟨offer, ⟨_, _, _, _, _, _, rfl, rfl, success,
    List.mem_mergeSort.mpr (List.mem_singleton_self offer), Offer.price?_plan priced⟩, same⟩

end Sample

open Sample in
/-- The first night is free and the second has a surcharge, by itself and after the other. -/
theorem Quote.split_stays_before_a_thursday :
    ∃ first second whole : Offer,
      thursday.stores.Offers dearThursdays ⟨⟨10⟩, ⟨11⟩⟩ first ∧
      thursday.stores.Offers dearThursdays ⟨⟨11⟩, ⟨12⟩⟩ second ∧
      thursday.stores.Offers dearThursdays ⟨⟨10⟩, ⟨12⟩⟩ whole ∧
      dearThursdays.IsNightly ∧
      whole.nightlyRates.map (·.rate) = [.zero, twoHundred] ∧
      100 * (whole.nightlyRates.map (·.rate.value)).sum < 2 ^ 96 ∧
      whole.nightlyRates = first.nightlyRates ++ second.nightlyRates ∧
      whole.subtotal.value = first.subtotal.value + second.subtotal.value := by
  obtain ⟨early, late, both⟩ := ratesOf_thursday
  obtain ⟨first, one, _⟩ := offers_thursday rfl (by decide +kernel) (by cbv) (by cbv) early
  obtain ⟨second, other, _⟩ := offers_thursday rfl (by decide +kernel) (by cbv) (by cbv) late
  obtain ⟨whole, all, rates⟩ := offers_thursday rfl (by decide +kernel) (by cbv) (by cbv) both
  have nightly : dearThursdays.IsNightly := by decide +kernel
  have inRange : 100 * (whole.nightlyRates.map (·.rate.value)).sum < 2 ^ 96 := by
    have values : whole.nightlyRates.map (·.rate.value) =
        (whole.nightlyRates.map (·.rate)).map (·.value) := by rw [List.map_map]; rfl
    rw [values, rates]
    norm_num [Decimal.value, Decimal.zero, Decimal.hundred, twoHundred]
  obtain ⟨nights, sums⟩ := split_stays thursday.stores dearThursdays nightly ⟨10⟩ ⟨11⟩ ⟨12⟩
    first second whole one other all
  exact ⟨first, second, whole, one, other, all, nightly, rates, inRange, nights,
    (sums inRange).1⟩

end Lodging
