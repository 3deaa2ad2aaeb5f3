import Lodging.Proofs.Calendar.Nights
import Lodging.Proofs.Registry.Views

/-! # A quote is complete and ranked

A quote has one offer for every plan that can be booked and admits the stay, and
no other (`Lodging.Quote.calculate_complete`). Plans are priced one by one from
their own overrides, so none changes the offer of another. Offers are sorted by
total, and since sorting keeps the order of equals, those of one total stay in
the order of the plans.
-/

namespace Lodging

/-- The plan is offered for a stay of some nights that is booked some days ahead. -/
def PlanTerms.Admits (terms : PlanTerms) (nights daysInAdvance : Int) : Prop :=
  terms.minStay ≤ nights ∧ (∀ most ∈ terms.maxStay, nights ≤ most) ∧
    (∀ least ∈ terms.minAdvanceDays, least ≤ daysInAdvance) ∧
    ∀ most ∈ terms.maxAdvanceDays, daysInAdvance ≤ most

instance (terms : PlanTerms) (nights daysInAdvance : Int) :
    Decidable (terms.Admits nights daysInAdvance) :=
  inferInstanceAs (Decidable (_ ∧ _ ∧ _ ∧ _))

theorem PlanTerms.restrictions_allMet {terms : PlanTerms} {nights daysInAdvance : Int} :
    (terms.restrictions nights daysInAdvance).allMet = true ↔
      terms.Admits nights daysInAdvance := by
  simp only [Restrictions.allMet, restrictions, Admits, Bool.and_eq_true, decide_eq_true_eq,
    Option.all_eq_true, Option.mem_def, and_assoc]

/-- Without rules the rate stays as it is. -/
theorem Rule.applyAll?_nil (base : Decimal) (context : RuleContext) :
    applyAll? base [] context = some (base, []) := by
  rw [applyAll?, firing, List.filter_nil, List.mergeSort_nil]
  rfl

theorem Offer.price?_plan {plan : RatePlan} {overrides : List RateOverride} {booking : Booking}
    {taxRate : Decimal} {offer : Offer}
    (priced : price? plan overrides booking taxRate = some offer) : offer.plan = plan := by
  simp only [price?, bind, Option.bind_eq_some_iff] at priced
  obtain ⟨_, _, _, _, same⟩ := priced
  obtain rfl := Option.some.inj same
  rfl

namespace Quote

open Service

variable {circumstance : Circumstance} {backend after : Backend} {hotel : Id}
  {request : QuoteRequest} {plan : RatePlan} {stay : Stay} {booking : Booking}

/-- A plan that admits the stay has the offer that its price gives, another has
none. -/
theorem run_offer?_ok {found : Option Offer} :
    run (offer? plan stay booking) circumstance backend = (.ok found, after) ↔
      after = backend ∧
        ((plan.Admits booking.nights booking.daysInAdvance ∧
            circumstance.reachable .overrides = true ∧
            ∃ offer, found = some offer ∧
              Offer.price? plan (backend.stores.overridesIn plan.id stay.checkIn stay.lastNight)
                booking circumstance.taxRate = some offer) ∨
          (¬ plan.Admits booking.nights booking.daysInAdvance ∧ found = none)) := by
  simp only [offer?, run_ite_ok, run_bind_ok, run_consult_ok, run_read_ok, run_require_ok,
    run_pure_ok, PlanTerms.restrictions_allMet]
  constructor
  · rintro (⟨admitted, _, _, ⟨reached, rfl, rfl⟩, _, _, ⟨rfl, rfl⟩, offer, _, ⟨priced, rfl⟩,
      rfl, rfl⟩ | ⟨refused, rfl, rfl⟩)
    · exact ⟨rfl, .inl ⟨admitted, reached, offer, rfl, priced⟩⟩
    · exact ⟨rfl, .inr ⟨refused, rfl⟩⟩
  · rintro ⟨rfl, ⟨admitted, reached, offer, rfl, priced⟩ | ⟨refused, rfl⟩⟩
    · exact .inl ⟨admitted, _, _, ⟨reached, rfl, rfl⟩, _, _, ⟨rfl, rfl⟩, offer, _,
        ⟨priced, rfl⟩, rfl, rfl⟩
    · exact .inr ⟨refused, rfl, rfl⟩

/-- An offer is made to a stay that the plan admits, at its price. -/
theorem run_offer?_some {offer : Offer} :
    run (offer? plan stay booking) circumstance backend = (.ok (some offer), after) ↔
      after = backend ∧ plan.Admits booking.nights booking.daysInAdvance ∧
        circumstance.reachable .overrides = true ∧
        Offer.price? plan (backend.stores.overridesIn plan.id stay.checkIn stay.lastNight) booking
          circumstance.taxRate = some offer := by
  simp only [run_offer?_ok, Option.some.injEq, exists_eq_left', reduceCtorEq, and_false, or_false]

/-- One plan after another gets its own offer if it admits the stay. -/
theorem run_offers_ok {plans : List RatePlan} {offers : List Offer}
    (success : run (plans.filterMapM fun plan => offer? plan stay booking) circumstance backend =
      (.ok offers, after)) :
    after = backend ∧
      offers.map (·.plan) =
        plans.filter (fun plan => plan.Admits booking.nights booking.daysInAdvance) ∧
      ∀ offer ∈ offers,
        run (offer? offer.plan stay booking) circumstance backend =
          (.ok (some offer), backend) := by
  induction plans generalizing offers with
  | nil =>
      obtain ⟨rfl, rfl⟩ := run_pure_ok.mp success
      exact ⟨rfl, rfl, fun _ member => nomatch member⟩
  | cons plan rest ih =>
      rw [List.filterMapM_cons, run_bind_ok] at success
      obtain ⟨found, between, own, success⟩ := success
      obtain ⟨rfl, ⟨admitted, _, offer, rfl, priced⟩ | ⟨refused, rfl⟩⟩ := run_offer?_ok.mp own
      · obtain ⟨others, _, others?, done⟩ := run_bind_ok.mp success
        obtain ⟨rfl, rfl⟩ := run_pure_ok.mp done
        obtain ⟨rfl, plansOfOthers, ownOfOthers⟩ := ih others?
        have same := Offer.price?_plan priced
        refine ⟨rfl, ?_, ?_⟩
        · rw [List.map_cons, plansOfOthers, same,
            List.filter_cons_of_pos (by simpa only [decide_eq_true_eq] using admitted)]
        · intro other member
          rcases List.mem_cons.mp member with rfl | later
          · rw [same]
            exact own
          · exact ownOfOthers other later
      · rw [List.filter_cons_of_neg (by simpa only [decide_eq_true_eq] using refused)]
        exact ih success

/-- A single plan has its own offer also where other plans are, if the overrides
are the same. -/
theorem run_offers_of_own {elsewhere : Backend} {offer : Offer}
    (own : run (offer? plan stay booking) circumstance backend = (.ok (some offer), backend))
    (same : elsewhere.stores.overrides = backend.stores.overrides) :
    run ([plan].filterMapM fun plan => offer? plan stay booking) circumstance elsewhere =
      (.ok [offer], elsewhere) := by
  obtain ⟨_, admitted, reached, priced⟩ := run_offer?_some.mp own
  have rows : elsewhere.stores.overridesIn plan.id stay.checkIn stay.lastNight =
      backend.stores.overridesIn plan.id stay.checkIn stay.lastNight := by
    rw [Stores.overridesIn, same, Stores.overridesIn]
  have there : run (offer? plan stay booking) circumstance elsewhere =
      (.ok (some offer), elsewhere) :=
    run_offer?_some.mpr ⟨rfl, admitted, reached, rows ▸ priced⟩
  rw [List.filterMapM_cons, run_bind_ok]
  refine ⟨some offer, elsewhere, there, ?_⟩
  exact run_bind_ok.mpr ⟨[], elsewhere, rfl, rfl⟩

/-- The backend once a request for rates has been counted. -/
def counted (backend : Backend) : Backend :=
  { backend with metrics := backend.metrics.record .rateCalculation 0 }

/-- The stay of a request, booked at some time. -/
def bookingAt (request : QuoteRequest) (nights : Nat) (now : Instant) : Booking where
  checkIn := request.stay.checkIn
  nights
  daysInAdvance := Instant.daysInAdvance request.stay.checkIn now

/-- The quote of the offers for a room type. -/
def ofOffers (roomType : RoomType) (offers : List Offer) : Quote where
  roomType := roomType.id
  roomTypeName := roomType.name
  offers := Offer.ranked offers
  bestRate := (Offer.ranked offers).head?.map (·.total)

/-- A quote is given for the offers of all plans that can be booked. -/
theorem run_calculate_ok {quote : Quote} :
    run (calculate hotel request) circumstance backend = (.ok quote, after) ↔
      circumstance.reachable .directory = true ∧ circumstance.reachable .ratePlans = true ∧
        ∃ roomType nights offers,
          backend.stores.directory.roomType? hotel request.roomType = some roomType ∧
          request.stay.nights circumstance.maxStayNights = .ok nights ∧
          run ((backend.stores.applicablePlans hotel request.roomType request.stay.checkIn
              request.channel none).filterMapM fun plan =>
                offer? plan request.stay (bookingAt request nights circumstance.now))
            circumstance (counted backend) = (.ok offers, after) ∧
          quote = ofOffers roomType offers := by
  simp only [calculate, run_bind_ok, run_count_ok, Service.roomType, run_consult_ok,
    run_require_ok, nightsOf, run_read_ok, run_accept_ok, run_now_ok, run_pure_ok]
  constructor
  · rintro ⟨_, _, rfl, roomType, _, ⟨_, _, ⟨directory, rfl, rfl⟩, found, rfl⟩, nights, _,
      ⟨_, _, ⟨rfl, rfl⟩, accepted, rfl⟩, _, _, ⟨ratePlans, rfl, rfl⟩, _, _, ⟨rfl, rfl⟩,
      offers, _, priced, rfl, rfl⟩
    rw [(Directory.of_roomType? found).2.1] at priced
    exact ⟨directory, ratePlans, roomType, nights, offers, found, accepted, priced, rfl⟩
  · rintro ⟨directory, ratePlans, roomType, nights, offers, found, accepted, priced, rfl⟩
    rw [← (Directory.of_roomType? found).2.1] at priced
    exact ⟨(), _, rfl, roomType, _, ⟨_, _, ⟨directory, rfl, rfl⟩, found, rfl⟩, nights, _,
      ⟨_, _, ⟨rfl, rfl⟩, accepted, rfl⟩, _, _, ⟨ratePlans, rfl, rfl⟩, _, _, ⟨rfl, rfl⟩,
      offers, _, priced, rfl, rfl⟩

/-- An offer of a quote is that of a plan which can be booked and admits the stay. -/
theorem own_offer {quote : Quote} {offer : Offer}
    (success : run (calculate hotel request) circumstance backend = (.ok quote, after))
    (member : offer ∈ quote.offers) :
    ∃ nights, request.stay.nights circumstance.maxStayNights = .ok nights ∧
      offer.plan ∈ backend.stores.applicablePlans hotel request.roomType request.stay.checkIn
        request.channel none ∧
      offer.plan.Admits nights (Instant.daysInAdvance request.stay.checkIn circumstance.now) ∧
      run (offer? offer.plan request.stay (bookingAt request nights circumstance.now))
        circumstance (counted backend) = (.ok (some offer), counted backend) := by
  obtain ⟨_, _, _, nights, offers, _, accepted, priced, rfl⟩ := run_calculate_ok.mp success
  obtain ⟨rfl, plans, own⟩ := run_offers_ok priced
  have present : offer ∈ offers := (List.mergeSort_perm _ _).mem_iff.mp member
  have listed : offer.plan ∈ offers.map (·.plan) := List.mem_map_of_mem present
  rw [plans, List.mem_filter, decide_eq_true_eq] at listed
  exact ⟨nights, accepted, listed.1, listed.2, own offer present⟩

/-- What a quote tells about the plans that can be booked for a stay. -/
structure Answers (quote : Quote) (hotel : Id) (request : QuoteRequest)
    (circumstance : Circumstance) (backend : Backend) : Prop where
  /-- There is one offer for each plan that can be booked, in public or not, and
  admits the stay. -/
  plans : (quote.offers.map (·.plan)).Perm
    ((backend.stores.applicablePlans hotel request.roomType request.stay.checkIn request.channel
      none).filter fun plan => plan.Admits request.stay.span
        (Instant.daysInAdvance request.stay.checkIn circumstance.now))
  /-- The offer of a plan is the one that it would get if there were no other. -/
  alone : ∀ offer ∈ quote.offers,
    ((calculate hotel request).run circumstance
      { backend with stores := { backend.stores with plans := [offer.plan] } }).1 =
        .ok { quote with offers := [offer], bestRate := some offer.total }
  /-- The lowest total comes first, then the lowest base rate, then the plan that
  was made first. -/
  ranked : quote.offers.Pairwise fun one other => one.total ≤ other.total ∧
    (other.total ≤ one.total → one.plan.baseRate ≤ other.plan.baseRate ∧
      (other.plan.baseRate ≤ one.plan.baseRate →
        [one.plan, other.plan].Sublist backend.stores.plans))
  unpriced : quote.bestRate = none ↔ quote.offers = []
  best : ∀ rate ∈ quote.bestRate, (∃ offer ∈ quote.offers, offer.total = rate) ∧
    ∀ offer ∈ quote.offers, rate ≤ offer.total

/-- A plan that can be booked can be booked also where no other plan is. -/
theorem applicablePlans_alone {stores : Stores} {roomType : Id} {checkIn : Date}
    {channel : Option String} {isPublic : Option Bool}
    (member : plan ∈ stores.applicablePlans hotel roomType checkIn channel isPublic) :
    { stores with plans := [plan] }.applicablePlans hotel roomType checkIn channel isPublic =
      [plan] := by
  have matched := (List.mem_filter.mp (Stores.applicablePlans_perm.mem_iff.mp member)).2
  have kept : [plan].filter (fun plan => plan.hotel == hotel && plan.roomType == roomType &&
      plan.isApplicable checkIn channel isPublic) = [plan] :=
    List.filter_eq_self.mpr fun entry own => List.mem_singleton.mp own ▸ matched
  rw [Stores.applicablePlans, kept, List.mergeSort_singleton]

/-- Where a plan can be booked and has an offer, it has the same offer in a quote
for it alone. -/
theorem run_calculate_alone {roomType : RoomType} {nights : Nat} {offer : Offer}
    (directory : circumstance.reachable .directory = true)
    (ratePlans : circumstance.reachable .ratePlans = true)
    (found : backend.stores.directory.roomType? hotel request.roomType = some roomType)
    (accepted : request.stay.nights circumstance.maxStayNights = .ok nights)
    (bookable : plan ∈ backend.stores.applicablePlans hotel request.roomType
      request.stay.checkIn request.channel none)
    (own : run (offer? plan request.stay (bookingAt request nights circumstance.now)) circumstance
      (counted backend) = (.ok (some offer), counted backend)) :
    (run (calculate hotel request) circumstance
      { backend with stores := { backend.stores with plans := [plan] } }).1 =
        .ok (ofOffers roomType [offer]) := by
  let only : Backend := { backend with stores := { backend.stores with plans := [plan] } }
  have quoted : run (calculate hotel request) circumstance only =
      (.ok (ofOffers roomType [offer]), counted only) := by
    refine run_calculate_ok.mpr
      ⟨directory, ratePlans, roomType, nights, [offer], found, accepted, ?_, rfl⟩
    rw [applicablePlans_alone bookable]
    exact run_offers_of_own own rfl
  rw [quoted]

/-- Offers in the order of plans are ranked by total, and among equals as the
plans are. -/
theorem ranked_pairwise {offers : List Offer} {relation : RatePlan → RatePlan → Prop}
    (ordered : (offers.map (·.plan)).Pairwise relation) :
    (Offer.ranked offers).Pairwise fun one other =>
      one.total ≤ other.total ∧ (other.total ≤ one.total → relation one.plan other.plan) := by
  have related := List.pairwise_map.mp ordered
  refine (Decimal.pairwise_mergeSort (fun offer : Offer => offer.total) offers).imp ?_
  rintro one other ⟨ascending, ties⟩
  refine ⟨ascending, fun equal => ?_⟩
  have pair := related.sublist (ties equal)
  exact List.rel_of_pairwise_cons pair List.mem_cons_self

theorem head_lowest {offers : List Offer}
    (ascending : offers.Pairwise fun one other => one.total ≤ other.total) {rate : Decimal}
    (first : rate ∈ offers.head?.map (·.total)) :
    (∃ offer ∈ offers, offer.total = rate) ∧ ∀ offer ∈ offers, rate ≤ offer.total := by
  cases offers with
  | nil => exact nomatch first
  | cons head rest =>
      obtain rfl : head.total = rate := Option.some.inj first
      refine ⟨⟨head, List.mem_cons_self, rfl⟩, fun offer member => ?_⟩
      rcases List.mem_cons.mp member with rfl | later
      · exact Int.le_refl _
      · exact List.rel_of_pairwise_cons ascending later

/-- **Quotes are complete and ranked.** A quote has the offers of all plans that
can be booked and admit the stay, each as the plan alone would get it, by total,
and gives the lowest. -/
theorem calculate_complete {quote : Quote}
    (success : (calculate hotel request).run circumstance backend = (.ok quote, after)) :
    quote.Answers hotel request circumstance backend := by
  obtain ⟨directory, ratePlans, roomType, nights, offers, found, accepted, priced, rfl⟩ :=
    run_calculate_ok.mp success
  obtain ⟨rfl, plans, own⟩ := run_offers_ok priced
  have perm : (Offer.ranked offers).Perm offers := List.mergeSort_perm _ _
  have ordered : (offers.map (·.plan)).Pairwise fun one other => one.baseRate ≤ other.baseRate ∧
      (other.baseRate ≤ one.baseRate → [one, other].Sublist backend.stores.plans) := by
    rw [plans]
    exact Stores.applicablePlans_ranked.sublist List.filter_sublist
  have ranked := ranked_pairwise ordered
  exact {
    plans := by
      rw [← Stay.nights_ok accepted]
      exact (perm.map _).trans (.of_eq plans)
    alone := by
      intro offer member
      have present := perm.mem_iff.mp member
      have inQuote : offer.plan ∈ offers.map (·.plan) := List.mem_map_of_mem present
      rw [plans] at inQuote
      have bookable := (List.mem_filter.mp inQuote).1
      rw [run_calculate_alone directory ratePlans found accepted bookable (own offer present),
        ofOffers, Offer.ranked, List.mergeSort_singleton]
      rfl
    ranked
    unpriced := by
      rw [ofOffers, Option.map_eq_none_iff, List.head?_eq_none_iff]
    best := fun rate first => head_lowest (ranked.imp And.left) first }

end Quote

/-! ## A house with three plans -/

namespace Sample

def plan (id : Nat) (code : String) (baseRate : Decimal) (minStay : Option Int) : RatePlan :=
  { request code baseRate [] with minStay }.toPlan ⟨1⟩ ⟨id⟩ default

def highest : RatePlan := plan 3 "BAR" .hundred none

def longer : RatePlan := plan 4 "LONG" .zero (some 3)

def lowest : RatePlan := plan 5 "LOW" .zero none

def planned : Backend :=
  { backend with stores := { backend.stores with plans := [highest, longer, lowest] } }

def wanted : QuoteRequest where
  roomType := ⟨2⟩
  stay := { checkIn := ⟨10⟩, checkOut := ⟨11⟩ }
  channel := none

def booking : Booking := Quote.bookingAt wanted 1 circumstance.now

open Quote Service

theorem run_offer?_planned {plan : RatePlan}
    (admitted : plan.Admits booking.nights booking.daysInAdvance)
    (priced : (Offer.price? plan [] booking circumstance.taxRate).isSome = true) :
    ∃ offer, run (offer? plan wanted.stay booking) circumstance (counted planned) =
      (.ok (some offer), counted planned) := by
  obtain ⟨offer, priced⟩ := Option.isSome_iff_exists.mp priced
  have rows : [] = planned.stores.overridesIn plan.id wanted.stay.checkIn wanted.stay.lastNight :=
    List.mergeSort_nil.symm
  rw [rows] at priced
  exact ⟨offer, run_offer?_some.mpr ⟨rfl, admitted, rfl, priced⟩⟩

theorem run_calculate_planned :
    ∃ first second, run (calculate ⟨1⟩ wanted) circumstance planned =
      (.ok (ofOffers king [first, second]), counted planned) := by
  have lowestPriced : (Offer.price? lowest [] booking circumstance.taxRate).isSome = true := by
    have ruleless : lowest.rules = [] := rfl
    simp only [Offer.price?, NightlyRate.price?, ruleless, Rule.applyAll?_nil]
    decide +kernel
  have highestPriced : (Offer.price? highest [] booking circumstance.taxRate).isSome = true := by
    have ruleless : highest.rules = [] := rfl
    simp only [Offer.price?, NightlyRate.price?, ruleless, Rule.applyAll?_nil]
    decide +kernel
  obtain ⟨first, low⟩ := run_offer?_planned (by decide +kernel) lowestPriced
  obtain ⟨second, high⟩ := run_offer?_planned (by decide +kernel) highestPriced
  have refused : run (offer? longer wanted.stay booking) circumstance (counted planned) =
      (.ok none, counted planned) :=
    run_offer?_ok.mpr ⟨rfl, .inr ⟨by decide +kernel, rfl⟩⟩
  have bookable : planned.stores.applicablePlans ⟨1⟩ wanted.roomType wanted.stay.checkIn
      wanted.channel none = [longer, lowest, highest] := by cbv
  refine ⟨first, second, run_calculate_ok.mpr ⟨rfl, rfl, king, 1, _, rfl, rfl, ?_, rfl⟩⟩
  rw [bookable, List.filterMapM_cons, run_bind_ok]
  refine ⟨none, _, refused, ?_⟩
  rw [List.filterMapM_cons, run_bind_ok]
  refine ⟨some first, _, low, run_bind_ok.mpr ⟨[second], _, ?_, rfl⟩⟩
  exact run_offers_of_own high rfl

end Sample

open Sample in
/-- The plan for longer stays is not offered for a night, the others are. -/
theorem Quote.calculate_complete_for_one_night :
    ∃ quote after, (calculate ⟨1⟩ wanted).run circumstance planned = (.ok quote, after) ∧
      quote.offers.length = 2 ∧ quote.Answers ⟨1⟩ wanted circumstance planned := by
  obtain ⟨first, second, success⟩ := run_calculate_planned
  refine ⟨_, _, success, ?_, calculate_complete success⟩
  exact List.length_mergeSort _

end Lodging
