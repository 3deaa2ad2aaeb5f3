import Lodging.Proofs.Quote.Charges
import Lodging.Proofs.Rows

/-! # A stay is priced night by night

A plan is priced from one range of its overrides, and the price of a night is the one
that a direct lookup of the override on that day gives: an offer has the nights of the
stay and no others, each with the rate and the flag of its own override
(`Lodging.Offer.IsByNight`). So a plan has the same offer in all stores whose overrides
say the same about those nights (`Lodging.Stores.SameNights`), whatever they hold for
the day of check-out, for earlier days or for other plans.
-/

namespace Lodging

/-! ## Traversals of the nights -/

section Traversal

variable {α β : Type} {make other : α → Option β} {values : List α}

/-- What a traversal gives comes in the order of the values, if each result shows the
value that it is for. -/
theorem map_of_mapM {shown : β → α}
    (shows : ∀ value result, make value = some result → shown result = value)
    {made : List β} (success : values.mapM make = some made) : made.map shown = values := by
  induction values generalizing made with
  | nil =>
      obtain rfl : [] = made := Option.some.inj (List.mapM_nil.symm.trans success)
      rfl
  | cons value rest ih =>
      simp only [List.mapM_cons, bind, Option.bind_eq_some_iff] at success
      obtain ⟨first, own, others, made?, same⟩ := success
      obtain rfl := Option.some.inj same
      rw [List.map_cons, shows value first own, ih made?]

theorem mapM_congr (same : ∀ value ∈ values, make value = other value) :
    values.mapM make = values.mapM other := by
  induction values with
  | nil => rfl
  | cons value rest ih =>
      obtain ⟨own, others⟩ := List.forall_mem_cons.mp same
      rw [List.mapM_cons, List.mapM_cons, own, ih others]

end Traversal

/-! ## Overrides of the nights of a stay -/

namespace Stores

variable {stores : Stores}

/-- A range of overrides has the same override on a day as a direct lookup. -/
theorem find?_overridesIn {first last day : Date} (least : first ≤ day) (most : day ≤ last)
    (plan : Id) :
    (stores.overridesIn plan first last).find? (·.date == day) = stores.override? plan day := by
  rw [overridesIn, find?_inRange least most, List.find?_filter, override?]
  simp only [Bool.decide_and, Bool.decide_eq_true]

/-- On each night of a stay the overrides of a plan have the same rate and the same
flag, and a missing one stands for neither. -/
def SameNights (one other : Stores) (plan : Id) (stay : Stay) : Prop :=
  ∀ night, stay.checkIn ≤ night → night < stay.checkOut →
    (other.override? plan night).bind (·.rate) = (one.override? plan night).bind (·.rate) ∧
      (other.override? plan night).any (·.stopSell) = (one.override? plan night).any (·.stopSell)

end Stores

/-! ## The price of a night -/

/-- The price of a night is that of the override on its day. -/
structure NightlyRate.IsDirect (night : NightlyRate) (plan : RatePlan) (stores : Stores)
    (stay : Stay) (now : Instant) : Prop where
  /-- The override may be missing, or have flags and no rate. -/
  baseRate : night.baseRate =
    ((stores.override? plan.id night.date).bind (·.rate)).getD plan.baseRate
  hasOverride : night.hasOverride = true ↔
    ∃ row rate, stores.override? plan.id night.date = some row ∧ row.rate = some rate
  stopSell : night.stopSell = true ↔
    ∃ row, stores.override? plan.id night.date = some row ∧ row.stopSell = true
  rate : ∃ adjusted,
    Rule.applyAll? night.baseRate plan.rules
        { date := night.date
          daysInAdvance := Instant.daysInAdvance stay.checkIn now
          lengthOfStay := stay.span
          occupancyPercent := .zero } = some (adjusted, night.appliedRules) ∧
      night.rate = adjusted.roundMoney.larger .zero

/-- The nights of an offer are those of the stay, in order and each once, and priced
one by one. -/
structure Offer.IsByNight (offer : Offer) (stores : Stores) (stay : Stay) (now : Instant) :
    Prop where
  nights : (offer.nights : Int) = stay.span
  ascending : (offer.nightlyRates.map (·.date)).Pairwise (· < ·)
  covered : ∀ day, day ∈ offer.nightlyRates.map (·.date) ↔
    stay.checkIn ≤ day ∧ day < stay.checkOut
  /-- No day that is computed leaves the calendar, the end of the range of overrides
  included. -/
  inCalendar : stay.checkIn.InCalendar → stay.checkOut.InCalendar →
    stay.lastNight.InCalendar ∧ ∀ night ∈ offer.nightlyRates, night.date.InCalendar
  direct : ∀ night ∈ offer.nightlyRates, night.IsDirect offer.plan stores stay now

namespace NightlyRate

variable {plan : RatePlan} {row other : Option RateOverride} {date : Date} {booking : Booking}

theorem price?_date {night : NightlyRate} (priced : price? plan row date booking = some night) :
    night.date = date := by
  simp only [price?, bind, Option.bind_eq_some_iff] at priced
  obtain ⟨_, _, same⟩ := priced
  obtain rfl := Option.some.inj same
  rfl

theorem price?_direct {stores : Stores} {stay : Stay} {now : Instant} {night : NightlyRate}
    (spanned : (booking.nights : Int) = stay.span)
    (ahead : booking.daysInAdvance = Instant.daysInAdvance stay.checkIn now)
    (priced : price? plan (stores.override? plan.id date) date booking = some night) :
    night.IsDirect plan stores stay now := by
  simp only [price?, bind, Option.bind_eq_some_iff] at priced
  obtain ⟨⟨adjusted, trail⟩, applied, same⟩ := priced
  obtain rfl := Option.some.inj same
  rw [spanned, ahead] at applied
  refine { baseRate := rfl, hasOverride := ?_, stopSell := ?_, rate := ⟨adjusted, applied, rfl⟩ }
  · simp only [Option.isSome_iff_exists, Option.bind_eq_some_iff]
    exact exists_comm
  · cases stores.override? plan.id date with
    | none => simp
    | some row => simp

/-- The price of a night depends on nothing but the rate and the flag of its override. -/
theorem price?_congr (rate : other.bind (·.rate) = row.bind (·.rate))
    (stopSell : other.any (·.stopSell) = row.any (·.stopSell)) :
    price? plan other date booking = price? plan row date booking := by
  have flag (row : Option RateOverride) :
      (row.map (·.stopSell)).getD false = row.any (·.stopSell) := by
    cases row <;> rfl
  simp only [price?, rate, flag, stopSell]

end NightlyRate

/-! ## Offers -/

namespace Offer

variable {plan : RatePlan} {stores : Stores} {stay : Stay} {booking : Booking}
  {taxRate : Decimal} {limit : Nat}

/-- The overrides of a stay show each of its nights the override of its day. -/
theorem find?_nights {count : Nat} (accepted : stay.nights limit = .ok count) {day : Date}
    (night : day ∈ Stay.nightsFrom stay.checkIn count) (plan : Id) :
    (stores.overridesIn plan stay.checkIn stay.lastNight).find? (·.date == day) =
      stores.override? plan day := by
  obtain ⟨least, before⟩ := (Stay.mem_nights accepted).mp night
  exact Stores.find?_overridesIn least (Stay.le_lastNight.mpr before) plan

theorem price?_byNight {now : Instant} {offer : Offer}
    (accepted : stay.nights limit = .ok booking.nights) (arrival : booking.checkIn = stay.checkIn)
    (ahead : booking.daysInAdvance = Instant.daysInAdvance stay.checkIn now)
    (priced : price? plan (stores.overridesIn plan.id stay.checkIn stay.lastNight) booking
      taxRate = some offer) :
    offer.IsByNight stores stay now := by
  simp only [price?, bind, Option.bind_eq_some_iff, arrival] at priced
  obtain ⟨nights, nightly, charges, _, same⟩ := priced
  obtain rfl := Option.some.inj same
  have spanned := Stay.nights_ok accepted
  have dates : nights.map (·.date) = Stay.nightsFrom stay.checkIn booking.nights :=
    map_of_mapM (fun _ _ found => NightlyRate.price?_date found) nightly
  have covered (day : Date) :
      day ∈ nights.map (·.date) ↔ stay.checkIn ≤ day ∧ day < stay.checkOut := by
    rw [dates]
    exact Stay.mem_nights accepted
  exact {
    nights := spanned
    ascending := dates ▸ Stay.nightsFrom_ascending stay.checkIn booking.nights
    covered
    inCalendar := by
      intro lower upper
      have lastNight := Stay.checkIn_le_lastNight accepted
      have last : stay.lastNight.InCalendar :=
        lower.between upper lastNight (Int.le_of_lt (Stay.le_lastNight.mp (Int.le_refl _)))
      refine ⟨last, fun night member => ?_⟩
      obtain ⟨least, before⟩ := (covered night.date).mp (List.mem_map_of_mem member)
      exact lower.between last least (Stay.le_lastNight.mpr before)
    direct := by
      intro night member
      obtain ⟨date, inside, found⟩ := exists_of_mem_mapM nightly night member
      rw [find?_nights accepted inside] at found
      exact NightlyRate.price?_direct spanned ahead found }

/-- Stores whose overrides say the same about the nights of a stay give a plan the same
price. -/
theorem price?_sameNights {other : Stores} (same : stores.SameNights other plan.id stay)
    (accepted : stay.nights limit = .ok booking.nights) (arrival : booking.checkIn = stay.checkIn) :
    price? plan (other.overridesIn plan.id stay.checkIn stay.lastNight) booking taxRate =
      price? plan (stores.overridesIn plan.id stay.checkIn stay.lastNight) booking taxRate := by
  simp only [price?, arrival]
  congr 1
  refine mapM_congr fun day night => ?_
  obtain ⟨least, before⟩ := (Stay.mem_nights accepted).mp night
  obtain ⟨rate, stopSell⟩ := same day least before
  rw [find?_nights accepted night, find?_nights accepted night]
  exact NightlyRate.price?_congr rate stopSell

end Offer

namespace Quote

open Service

variable {circumstance : Circumstance} {backend other after : Backend} {hotel : Id}
  {request : QuoteRequest} {plan : RatePlan} {nights : Nat}

theorem run_offer?_byNight {offer : Offer}
    (accepted : request.stay.nights circumstance.maxStayNights = .ok nights)
    (success : run (offer? plan request.stay (bookingAt request nights circumstance.now))
      circumstance backend = (.ok (some offer), after)) :
    offer.plan = plan ∧ offer.IsByNight backend.stores request.stay circumstance.now := by
  obtain ⟨_, _, _, priced⟩ := run_offer?_some.mp success
  exact ⟨Offer.price?_plan priced, Offer.price?_byNight accepted rfl rfl priced⟩

/-- What a plan is offered at does not depend on other overrides than those of the
nights. -/
theorem run_offer?_sameNights
    (accepted : request.stay.nights circumstance.maxStayNights = .ok nights)
    (same : backend.stores.SameNights other.stores plan.id request.stay) :
    (run (offer? plan request.stay (bookingAt request nights circumstance.now)) circumstance
        other).1 =
      (run (offer? plan request.stay (bookingAt request nights circumstance.now)) circumstance
        backend).1 := by
  have price : Offer.price? plan
        (other.stores.overridesIn plan.id request.stay.checkIn request.stay.lastNight)
        (bookingAt request nights circumstance.now) circumstance.taxRate =
      Offer.price? plan
        (backend.stores.overridesIn plan.id request.stay.checkIn request.stay.lastNight)
        (bookingAt request nights circumstance.now) circumstance.taxRate :=
    Offer.price?_sameNights same accepted rfl
  have asked (backend : Backend) : run read circumstance backend = (.ok circumstance, backend) :=
    rfl
  rw [offer?]
  split
  · rw [run_bind, run_bind, run_consult, run_consult]
    by_cases reached : circumstance.reachable .overrides = true
    · simp only [if_pos reached, run_bind, asked, price]
      cases Offer.price? plan _ _ _ <;> rfl
    · simp only [if_neg reached]
  · rfl

theorem calculate_byNight {quote : Quote} {offer : Offer}
    (success : run (calculate hotel request) circumstance backend = (.ok quote, after))
    (member : offer ∈ quote.offers) :
    offer.IsByNight backend.stores request.stay circumstance.now := by
  obtain ⟨nights, accepted, _, _, own⟩ := own_offer success member
  exact (run_offer?_byNight accepted own).2

/-- An offer is made in every house that has the plan and the same overrides on the nights
of the stay, if it can quote at all. -/
theorem calculate_sameNights {quote another : Quote} {between : Backend} {offer : Offer}
    (success : run (calculate hotel request) circumstance backend = (.ok quote, after))
    (member : offer ∈ quote.offers)
    (quoted : run (calculate hotel request) circumstance other = (.ok another, between))
    (present : offer.plan ∈ other.stores.plans)
    (same : backend.stores.SameNights other.stores offer.plan.id request.stay) :
    offer ∈ another.offers := by
  obtain ⟨nights, accepted, bookable, admitted, own⟩ := own_offer success member
  obtain ⟨_, _, _, nightsToo, offers, _, acceptedToo, priced, rfl⟩ := run_calculate_ok.mp quoted
  obtain rfl := Except.ok.inj (accepted.symm.trans acceptedToo)
  obtain ⟨rfl, plans, ownToo⟩ := run_offers_ok priced
  have listed : offer.plan ∈ offers.map (·.plan) := by
    have wanted := (List.mem_filter.mp (Stores.applicablePlans_perm.mem_iff.mp bookable)).2
    rw [plans, List.mem_filter, Stores.applicablePlans_perm.mem_iff, decide_eq_true_eq]
    exact ⟨List.mem_filter.mpr ⟨present, wanted⟩, admitted⟩
  obtain ⟨twin, there, samePlan⟩ := List.mem_map.mp listed
  have twinOwn := ownToo twin there
  rw [samePlan] at twinOwn
  have answers : (run _ circumstance (counted other)).1 =
      (run _ circumstance (counted backend)).1 :=
    run_offer?_sameNights accepted same
  rw [own, twinOwn] at answers
  obtain rfl := Option.some.inj (Except.ok.inj answers)
  exact (List.mergeSort_perm _ _).mem_iff.mpr there

/-- **Pricing by night.** The offer of a plan is priced night by night from the override
on each night, and stays the same where overrides say the same about the nights of the
stay, by itself and in a quote. -/
theorem offers_by_night (hotel : Id) (request : QuoteRequest) (circumstance : Circumstance)
    (backend : Backend) :
    (∀ plan nights, request.stay.nights circumstance.maxStayNights = .ok nights →
      let priced := offer? plan request.stay (bookingAt request nights circumstance.now)
      (∀ offer after, priced.run circumstance backend = (.ok (some offer), after) →
        offer.plan = plan ∧ offer.IsByNight backend.stores request.stay circumstance.now) ∧
      ∀ other, backend.stores.SameNights other.stores plan.id request.stay →
        (priced.run circumstance other).1 = (priced.run circumstance backend).1) ∧
    ∀ quote after, (calculate hotel request).run circumstance backend = (.ok quote, after) →
      ∀ offer ∈ quote.offers,
        offer.IsByNight backend.stores request.stay circumstance.now ∧
        ∀ other another between,
          (calculate hotel request).run circumstance other = (.ok another, between) →
            offer.plan ∈ other.stores.plans →
              backend.stores.SameNights other.stores offer.plan.id request.stay →
                offer ∈ another.offers := by
  refine ⟨fun plan nights accepted => ⟨?_, ?_⟩, fun quote after success offer member => ⟨?_, ?_⟩⟩
  · exact fun offer after success => run_offer?_byNight accepted success
  · exact fun other same => run_offer?_sameNights accepted same
  · exact calculate_byNight success member
  · exact fun other another between quoted present same =>
      calculate_sameNights success member quoted present same

end Quote

/-! ## Two nights of which one has an override -/

namespace Sample

open Quote Service

/-- A night of a plan that is stopped and costs nothing. -/
def stopped (id plan : Nat) (day : Int) : RateOverride :=
  { RateOverride.blank ⟨id⟩ ⟨plan⟩ ⟨day⟩ default with rate := some .zero, stopSell := true }

/-- The house offers one plan only. -/
def offering (overrides : List RateOverride) : Backend :=
  { backend with stores := { backend.stores with plans := [highest], overrides } }

def twoNights : QuoteRequest :=
  { wanted with stay := { checkIn := ⟨10⟩, checkOut := ⟨12⟩ } }

theorem run_calculate_offering {overrides : List RateOverride}
    (rows : (offering overrides).stores.overridesIn ⟨3⟩ ⟨10⟩ ⟨11⟩ = [stopped 20 3 10]) :
    ∃ offer, run (offer? highest twoNights.stay (bookingAt twoNights 2 circumstance.now))
        circumstance (offering overrides) = (.ok (some offer), offering overrides) ∧
      run (calculate ⟨1⟩ twoNights) circumstance (offering overrides) =
        (.ok (ofOffers king [offer]), counted (offering overrides)) := by
  have priced : (Offer.price? highest [stopped 20 3 10]
      (bookingAt twoNights 2 circumstance.now) circumstance.taxRate).isSome = true := by
    have ruleless : highest.rules = [] := rfl
    simp only [Offer.price?, NightlyRate.price?, ruleless, Rule.applyAll?_nil]
    decide +kernel
  obtain ⟨offer, priced⟩ := Option.isSome_iff_exists.mp priced
  rw [← rows] at priced
  have own : run (offer? highest twoNights.stay (bookingAt twoNights 2 circumstance.now))
      circumstance (offering overrides) = (.ok (some offer), offering overrides) :=
    run_offer?_some.mpr ⟨rfl, by decide +kernel, rfl, priced⟩
  have bookable : (offering overrides).stores.applicablePlans ⟨1⟩ twoNights.roomType
      twoNights.stay.checkIn twoNights.channel none = [highest] := by
    cbv
  refine ⟨offer, own, run_calculate_ok.mpr ⟨rfl, rfl, king, 2, _, rfl, rfl, ?_, rfl⟩⟩
  rw [bookable]
  exact run_offers_of_own own rfl

/-- The house with an override on the first of two nights. -/
def sparse : Backend := offering [stopped 20 3 10]

/-- There are overrides for the day of check-out and for another plan, too. -/
def crowded : Backend := offering [stopped 21 3 12, stopped 22 4 11, stopped 20 3 10]

theorem sameNights_crowded : sparse.stores.SameNights crowded.stores ⟨3⟩ twoNights.stay := by
  rintro ⟨number⟩ least before
  change 10 ≤ number at least
  change number < 12 at before
  obtain rfl | rfl : number = 10 ∨ number = 11 := by omega
  · decide +kernel
  · decide +kernel

end Sample

open Sample in
/-- The override of the first night is found, and one for the day of check-out or for
another plan changes nothing. -/
theorem Quote.offers_by_night_with_an_override :
    ∃ offer quote another,
      (calculate ⟨1⟩ twoNights).run circumstance sparse = (.ok quote, counted sparse) ∧
      (calculate ⟨1⟩ twoNights).run circumstance crowded = (.ok another, counted crowded) ∧
      offer.plan = highest ∧ offer ∈ quote.offers ∧
      offer.IsByNight sparse.stores twoNights.stay circumstance.now ∧
      ((offer? highest twoNights.stay (bookingAt twoNights 2 circumstance.now)).run circumstance
        crowded).1 = .ok (some offer) ∧
      offer ∈ another.offers := by
  obtain ⟨offer, own, success⟩ : ∃ offer, _ ∧ _ = (_, counted sparse) :=
    run_calculate_offering (by cbv)
  obtain ⟨twin, _, quoted⟩ : ∃ offer, _ ∧ _ = (_, counted crowded) :=
    run_calculate_offering (by cbv)
  have member : offer ∈ (ofOffers king [offer]).offers :=
    List.mem_mergeSort.mpr (List.mem_singleton_self offer)
  obtain ⟨single, quotes⟩ := offers_by_night ⟨1⟩ twoNights circumstance sparse
  obtain ⟨priced, unmoved⟩ := single highest 2 rfl
  have plan : offer.plan = highest := (priced offer _ own).1
  obtain ⟨byNight, elsewhere⟩ := quotes _ _ success offer member
  refine ⟨offer, _, _, success, quoted, plan, member, byNight, ?_, ?_⟩
  · rw [unmoved crowded sameNights_crowded]
    exact congrArg Prod.fst own
  · refine elsewhere crowded _ _ quoted ?_ ?_
    · rw [plan]
      exact List.mem_singleton_self highest
    · rw [plan]
      exact sameNights_crowded

end Lodging
