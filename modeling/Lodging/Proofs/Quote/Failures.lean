import Lodging.Proofs.Quote.Unpriceable

/-! # What a request for rates fails with

While all stores answer, a request for rates fails in three ways only
(`Lodging.Quote.fails_exactly`): the hotel has no such room type, the stay has no night or
too many, or a plan that would be offered has no price. The first such plan is the one
that callers are told of. Plans that are not offered are not priced, so their rules make
no difference (`Lodging.Quote.calculate_altered`).
-/

namespace Lodging

/-! ## Room types and plans that are found -/

/-- The room type is one of the hotel, and not deleted. -/
def Directory.HasLive (directory : Directory) (hotel roomType : Id) : Prop :=
  ∃ entry ∈ directory.roomTypes,
    entry.id = roomType ∧ entry.hotel = hotel ∧ entry.deletedAt = none

theorem Directory.roomType?_eq_none_iff {directory : Directory} {hotel roomType : Id} :
    directory.roomType? hotel roomType = none ↔ ¬ directory.HasLive hotel roomType := by
  simp only [roomType?, HasLive, List.find?_eq_none, Bool.and_eq_true, beq_iff_eq,
    Option.isNone_iff_eq_none, not_exists, not_and, and_assoc]

/-- The plan can be booked for what is requested, and admits the stay. -/
structure RatePlan.IsOffered (plan : RatePlan) (stores : Stores) (hotel : Id)
    (request : QuoteRequest) (now : Instant) : Prop where
  stored : plan ∈ stores.plans
  hotel : plan.hotel = hotel
  roomType : plan.roomType = request.roomType
  live : plan.deletedAt = none
  active : plan.isActive = true
  opened : ∀ first ∈ plan.validFrom, first ≤ request.stay.checkIn
  closed : ∀ last ∈ plan.validUntil, request.stay.checkIn ≤ last
  channel : ∀ code ∈ request.channel, code ∈ plan.channelCodes
  admits : plan.Admits request.stay.span (Instant.daysInAdvance request.stay.checkIn now)

/-- The plan is the first without a price of those that would be offered: the others have
the same base rate at least, and those of the same were made later. -/
structure RatePlan.IsFirstUnpriceable (plan : RatePlan) (stores : Stores) (hotel : Id)
    (request : QuoteRequest) (circumstance : Circumstance) : Prop where
  offered : plan.IsOffered stores hotel request circumstance.now
  unpriceable : plan.Unpriceable stores request.stay circumstance.now circumstance.taxRate
  first : ∀ other : RatePlan, other.IsOffered stores hotel request circumstance.now →
    other.Unpriceable stores request.stay circumstance.now circumstance.taxRate →
      plan.baseRate ≤ other.baseRate ∧
        (other.baseRate ≤ plan.baseRate → other = plan ∨ [plan, other].Sublist stores.plans)

namespace Quote

open Service

variable {circumstance : Circumstance} {backend : Backend} {stores : Stores} {hotel : Id}
  {request : QuoteRequest} {plan : RatePlan} {stay : Stay} {booking : Booking}
  {taxRate : Decimal} {nights : Nat} {stop : Stop}

/-- The plans that can be booked for what is requested, in public or not. -/
def candidates (stores : Stores) (hotel : Id) (request : QuoteRequest) : List RatePlan :=
  stores.applicablePlans hotel request.roomType request.stay.checkIn request.channel none

theorem isOffered_iff {now : Instant} :
    plan.IsOffered stores hotel request now ↔ plan ∈ candidates stores hotel request ∧
      plan.Admits request.stay.span (Instant.daysInAdvance request.stay.checkIn now) := by
  simp only [candidates, Stores.mem_applicablePlans, Stores.mem_plansOf, Stores.isLiveIn_iff,
    RatePlan.isLive, Option.isNone_iff_eq_none, Option.mem_def, Option.some.injEq, forall_eq',
    reduceCtorEq, false_imp_iff, implies_true, and_true]
  constructor
  · rintro ⟨stored, own, roomType, live, active, opened, closed, channel, admits⟩
    exact ⟨⟨⟨stored, ⟨own, live⟩, roomType⟩, active, opened, closed, channel⟩, admits⟩
  · rintro ⟨⟨⟨stored, ⟨own, live⟩, roomType⟩, active, opened, closed, channel⟩, admits⟩
    exact ⟨stored, own, roomType, live, active, opened, closed, channel, admits⟩

/-! ## Plans one by one -/

/-- What becomes of a plan when its overrides can be read. -/
def outcome (stores : Stores) (stay : Stay) (booking : Booking) (taxRate : Decimal)
    (plan : RatePlan) : Except Stop (Option Offer) :=
  if plan.Admits booking.nights booking.daysInAdvance then
    match Offer.price? plan (stores.overridesIn plan.id stay.checkIn stay.lastNight) booking
        taxRate with
    | some offer => .ok (some offer)
    | none => .error (.refused (.unpriceable plan.code))
  else .ok none

theorem run_offer? (reached : circumstance.reachable .overrides = true) (plan : RatePlan) :
    run (offer? plan stay booking) circumstance backend =
      (outcome backend.stores stay booking circumstance.taxRate plan, backend) := by
  have asked : run read circumstance backend = (.ok circumstance, backend) := rfl
  simp only [offer?, outcome, PlanTerms.restrictions_allMet]
  split
  · rw [run_bind, run_consult, if_pos reached]
    simp only [run_bind, asked]
    cases Offer.price? plan _ booking circumstance.taxRate <;> rfl
  · rfl

/-- A plan is a problem if it admits the stay and has no price. -/
theorem problem?_outcome :
    problem? (outcome stores stay booking taxRate plan) = some stop ↔
      plan.Admits booking.nights booking.daysInAdvance ∧
        Offer.price? plan (stores.overridesIn plan.id stay.checkIn stay.lastNight) booking
          taxRate = none ∧
        .refused (.unpriceable plan.code) = stop := by
  rw [outcome]
  split
  next admitted =>
    cases Offer.price? plan (stores.overridesIn plan.id stay.checkIn stay.lastNight) booking
        taxRate with
    | none => simp only [admitted, problem?, Option.some.injEq, true_and]
    | some offer => simp only [problem?, reduceCtorEq, false_and, and_false]
  next refused => simp only [refused, problem?, reduceCtorEq, false_and]

/-- The offers for what is requested, or the first problem with them. -/
def offersFor (stores : Stores) (hotel : Id) (request : QuoteRequest) (nights : Nat)
    (circumstance : Circumstance) : Except Stop (List Offer) :=
  (candidates stores hotel request).filterMapM (outcome stores request.stay
    (bookingAt request nights circumstance.now) circumstance.taxRate)

/-! ## The request as a whole -/

theorem run_count :
    run (count .rateCalculation) circumstance backend = (.ok (), counted backend) := rfl

theorem run_calculate_missing (reached : ∀ store, circumstance.reachable store = true)
    (missing : backend.stores.directory.roomType? hotel request.roomType = none) :
    (run (calculate hotel request) circumstance backend).1 =
      .error (.refused (.notFound .roomType request.roomType.display)) := by
  have failed : run (Service.roomType hotel request.roomType) circumstance (counted backend) =
      (.error (.refused (.notFound .roomType request.roomType.display)), counted backend) := by
    rw [Service.roomType, run_bind, run_consult, if_pos (reached .directory)]
    change run (require _ (backend.stores.directory.roomType? _ _)) _ _ = _
    rw [missing]
    rfl
  rw [calculate, run_bind_of_ok run_count, run_bind_of_error failed]

variable {roomType : RoomType}

theorem run_calculate_refused (reached : ∀ store, circumstance.reachable store = true)
    (found : backend.stores.directory.roomType? hotel request.roomType = some roomType)
    {refusal : Stay.Refusal}
    (refused : request.stay.nights circumstance.maxStayNights = .error refusal) :
    (run (calculate hotel request) circumstance backend).1 =
      .error (.refused (.stay refusal)) := by
  have room : run (Service.roomType hotel request.roomType) circumstance (counted backend) =
      (.ok roomType, counted backend) :=
    run_roomType_ok.mpr ⟨reached .directory, found, rfl⟩
  have failed : run (nightsOf request.stay) circumstance (counted backend) =
      (.error (.refused (.stay refusal)), counted backend) := by
    rw [run_nightsOf, refused]
    rfl
  rw [calculate, run_bind_of_ok run_count, run_bind_of_ok room, run_bind_of_error failed]

/-- Plans that can be booked are priced one by one. -/
theorem run_calculate_priced (reached : ∀ store, circumstance.reachable store = true)
    (found : backend.stores.directory.roomType? hotel request.roomType = some roomType)
    (accepted : request.stay.nights circumstance.maxStayNights = .ok nights) :
    (run (calculate hotel request) circumstance backend).1 =
      (offersFor backend.stores hotel request nights circumstance).map (ofOffers roomType) := by
  have room : run (Service.roomType hotel request.roomType) circumstance (counted backend) =
      (.ok roomType, counted backend) :=
    run_roomType_ok.mpr ⟨reached .directory, found, rfl⟩
  have length : run (nightsOf request.stay) circumstance (counted backend) =
      (.ok nights, counted backend) := by
    rw [run_nightsOf, accepted]
    rfl
  have plans : run (consult .ratePlans (·.applicablePlans hotel roomType.id request.stay.checkIn
      request.channel none)) circumstance (counted backend) =
        (.ok (candidates backend.stores hotel request), counted backend) := by
    rw [run_consult, if_pos (reached .ratePlans), (Directory.of_roomType? found).2.1]
    rfl
  have offers : run ((candidates backend.stores hotel request).filterMapM fun plan =>
        offer? plan request.stay (bookingAt request nights circumstance.now)) circumstance
          (counted backend) =
      (offersFor backend.stores hotel request nights circumstance, counted backend) :=
    run_filterMapM (run_offer? (reached .overrides))
  rw [calculate, run_bind_of_ok run_count, run_bind_of_ok room, run_bind_of_ok length,
    run_bind_of_ok plans, run_bind_of_ok run_now]
  cases priced : offersFor backend.stores hotel request nights circumstance with
  | error stop =>
      rw [priced] at offers
      exact congrArg Prod.fst (run_bind_of_error offers)
  | ok made =>
      rw [priced] at offers
      exact congrArg Prod.fst (run_bind_of_ok offers)

/-! ## The first plan without a price -/

/-- A plan is a problem if it admits the stay and a step of its price is out of range. -/
theorem problem?_outcome_iff {now : Instant}
    (accepted : request.stay.nights circumstance.maxStayNights = .ok nights) :
    problem? (outcome stores request.stay (bookingAt request nights now) taxRate plan) =
        some stop ↔
      plan.Admits request.stay.span (Instant.daysInAdvance request.stay.checkIn now) ∧
        plan.Unpriceable stores request.stay now taxRate ∧
        .refused (.unpriceable plan.code) = stop := by
  have price : Offer.price? plan
        (stores.overridesIn plan.id request.stay.checkIn request.stay.lastNight)
        (bookingAt request nights now) taxRate = none ↔
      plan.Unpriceable stores request.stay now taxRate :=
    Offer.price?_eq_none_iff accepted rfl rfl
  rw [problem?_outcome, price, ← Stay.nights_ok accepted]
  rfl

/-- There are offers unless some plan that would be offered has no price. -/
theorem problem?_offersFor_eq_none_iff
    (accepted : request.stay.nights circumstance.maxStayNights = .ok nights) :
    problem? (offersFor stores hotel request nights circumstance) = none ↔
      ∀ plan : RatePlan, plan.IsOffered stores hotel request circumstance.now →
        ¬ plan.Unpriceable stores request.stay circumstance.now circumstance.taxRate := by
  rw [offersFor, problem?_filterMapM, List.findSome?_eq_none_iff]
  constructor
  · intro fine plan offered spoilt
    obtain ⟨member, admitted⟩ := isOffered_iff.mp offered
    have failed := (problem?_outcome_iff accepted).mpr ⟨admitted, spoilt, rfl⟩
    exact nomatch (fine plan member).symm.trans failed
  · intro priced plan member
    refine Option.eq_none_iff_forall_ne_some.mpr fun stop failed => ?_
    obtain ⟨admitted, spoilt, _⟩ := (problem?_outcome_iff accepted).mp failed
    exact priced plan (isOffered_iff.mpr ⟨member, admitted⟩) spoilt

/-- The problem with the offers is the first plan without a price. -/
theorem of_problem?_offersFor
    (accepted : request.stay.nights circumstance.maxStayNights = .ok nights)
    (failed : problem? (offersFor stores hotel request nights circumstance) = some stop) :
    ∃ plan : RatePlan, plan.IsFirstUnpriceable stores hotel request circumstance ∧
      stop = .refused (.unpriceable plan.code) := by
  rw [offersFor, problem?_filterMapM, List.findSome?_eq_some_iff] at failed
  obtain ⟨before, plan, after, parts, own, fine⟩ := failed
  obtain ⟨admits, unpriceable, rfl⟩ := (problem?_outcome_iff accepted).mp own
  have member : plan ∈ candidates stores hotel request := by
    rw [parts]
    exact List.mem_append_right before List.mem_cons_self
  have ranked : (candidates stores hotel request).Pairwise fun one other =>
      one.baseRate ≤ other.baseRate ∧
        (other.baseRate ≤ one.baseRate → [one, other].Sublist stores.plans) :=
    Stores.applicablePlans_ranked
  rw [parts] at ranked
  have later := List.pairwise_cons.mp (List.pairwise_append.mp ranked).2.1 |>.1
  refine ⟨plan, ⟨isOffered_iff.mpr ⟨member, admits⟩, unpriceable, ?_⟩, rfl⟩
  intro other offered spoilt
  obtain ⟨present, admitted⟩ := isOffered_iff.mp offered
  rw [parts, List.mem_append, List.mem_cons] at present
  rcases present with earlier | rfl | further
  · -- A plan before the first has a price.
    have failedToo := (problem?_outcome_iff accepted).mpr ⟨admitted, spoilt, rfl⟩
    exact nomatch (fine other earlier).symm.trans failedToo
  · exact ⟨Int.le_refl _, fun _ => .inl rfl⟩
  · exact ⟨(later other further).1, fun equal => .inr ((later other further).2 equal)⟩

/-! ## All failures -/

/-- The request is refused with the code. -/
def Refused (answer : Except Stop Quote) (code : String) : Prop :=
  ∃ problem, answer = .error (.refused problem) ∧ problem.failure.code = code

/-- When a request for rates fails, and with what. -/
structure FailsExactly (answer : Except Stop Quote) (hotel : Id) (request : QuoteRequest)
    (circumstance : Circumstance) (stores : Stores) : Prop where
  missing : Refused answer "NOT_FOUND" ↔ ¬ stores.directory.HasLive hotel request.roomType
  /-- The stay has no night, or more than are allowed. -/
  stay : stores.directory.HasLive hotel request.roomType →
    ((∃ refusal, answer = .error (.refused (.stay refusal)) ∧
        (Problem.stay refusal).failure.code = "BAD_REQUEST") ↔
      request.stay.span ≤ 0 ∨ (circumstance.maxStayNights : Int) < request.stay.span)
  /-- A plan that would be offered has no price. -/
  plan : stores.directory.HasLive hotel request.roomType → 0 < request.stay.span →
    request.stay.span ≤ circumstance.maxStayNights →
      (Refused answer "BAD_REQUEST" ↔
        ∃ plan : RatePlan, plan.IsOffered stores hotel request circumstance.now ∧
          plan.Unpriceable stores request.stay circumstance.now circumstance.taxRate)
  /-- Nothing else can be wrong, and the first such plan is named. -/
  named : stores.directory.HasLive hotel request.roomType → 0 < request.stay.span →
    request.stay.span ≤ circumstance.maxStayNights →
      ∀ stop, answer = .error stop →
        ∃ plan : RatePlan, plan.IsFirstUnpriceable stores hotel request circumstance ∧
          ∃ problem, stop = .refused problem ∧
            problem.failure = .badRequest s!"Rate plan '{plan.code}': {Rule.overflowMessage}"

section Answers

variable {answer : Except Stop Quote} {problem : Problem}

theorem refused_iff {code : String} (failed : answer = .error (.refused problem)) :
    Refused answer code ↔ problem.failure.code = code := by
  subst failed
  constructor
  · rintro ⟨_, same, coded⟩
    obtain rfl := Stop.refused.inj (Except.error.inj same)
    exact coded
  · intro coded
    exact ⟨problem, rfl, coded⟩

/-- What is wrong with a request is not what is missing. -/
theorem not_refused_notFound (failed : answer = .error (.refused problem))
    (coded : problem.failure.code = "BAD_REQUEST") : ¬ Refused answer "NOT_FOUND" := by
  rw [refused_iff failed, coded]
  decide

namespace FailsExactly

theorem of_missing (absent : ¬ stores.directory.HasLive hotel request.roomType)
    (failed : answer = .error (.refused (.notFound .roomType request.roomType.display))) :
    FailsExactly answer hotel request circumstance stores where
  missing := iff_of_true ((refused_iff failed).mpr rfl) absent
  stay := fun live => absurd live absent
  plan := fun live => absurd live absent
  named := fun live => absurd live absent

theorem of_refused {refusal : Stay.Refusal}
    (live : stores.directory.HasLive hotel request.roomType)
    (refused : ¬ (0 < request.stay.span ∧ request.stay.span ≤ circumstance.maxStayNights))
    (failed : answer = .error (.refused (.stay refusal))) :
    FailsExactly answer hotel request circumstance stores where
  missing := iff_of_false (not_refused_notFound failed rfl) (not_not_intro live)
  stay := fun _ => iff_of_true ⟨refusal, failed, rfl⟩ (by omega)
  plan := fun _ positive within => absurd ⟨positive, within⟩ refused
  named := fun _ positive within => absurd ⟨positive, within⟩ refused

theorem of_unpriceable (live : stores.directory.HasLive hotel request.roomType)
    (within : 0 < request.stay.span ∧ request.stay.span ≤ circumstance.maxStayNights)
    (first : plan.IsFirstUnpriceable stores hotel request circumstance)
    (failed : answer = .error (.refused (.unpriceable plan.code))) :
    FailsExactly answer hotel request circumstance stores where
  missing := iff_of_false (not_refused_notFound failed rfl) (not_not_intro live)
  stay := by
    refine fun _ => iff_of_false ?_ (by omega)
    rintro ⟨refusal, same, _⟩
    exact nomatch Stop.refused.inj (Except.error.inj (failed.symm.trans same))
  plan := fun _ _ _ =>
    iff_of_true ((refused_iff failed).mpr rfl) ⟨plan, first.offered, first.unpriceable⟩
  named := by
    intro _ _ _ stop same
    obtain rfl := Except.error.inj (failed.symm.trans same)
    exact ⟨plan, first, _, rfl, rfl⟩

theorem of_quoted (live : stores.directory.HasLive hotel request.roomType)
    (within : 0 < request.stay.span ∧ request.stay.span ≤ circumstance.maxStayNights)
    (priced : ∀ plan : RatePlan, plan.IsOffered stores hotel request circumstance.now →
      ¬ plan.Unpriceable stores request.stay circumstance.now circumstance.taxRate)
    (given : ∀ stop, answer ≠ .error stop) :
    FailsExactly answer hotel request circumstance stores where
  missing := iff_of_false (fun ⟨_, same, _⟩ => given _ same) (not_not_intro live)
  stay := fun _ => iff_of_false (fun ⟨_, same, _⟩ => given _ same) (by omega)
  plan := fun _ _ _ => iff_of_false (fun ⟨_, same, _⟩ => given _ same)
    fun ⟨plan, offered, spoilt⟩ => priced plan offered spoilt
  named := fun _ _ _ stop same => absurd same (given stop)

end FailsExactly

end Answers

theorem calculate_failsExactly (reached : ∀ store, circumstance.reachable store = true) :
    FailsExactly (run (calculate hotel request) circumstance backend).1 hotel request circumstance
      backend.stores := by
  cases found : backend.stores.directory.roomType? hotel request.roomType with
  | none =>
      exact .of_missing (Directory.roomType?_eq_none_iff.mp found)
        (run_calculate_missing reached found)
  | some roomType =>
      have live : backend.stores.directory.HasLive hotel request.roomType := by
        by_contra absent
        exact nomatch found.symm.trans (Directory.roomType?_eq_none_iff.mpr absent)
      cases accepted : request.stay.nights circumstance.maxStayNights with
      | error refusal =>
          have refused : ¬ ∃ count, request.stay.nights circumstance.maxStayNights = .ok count := by
            rw [accepted]
            exact nofun
          rw [Stay.nights_ok_iff] at refused
          exact .of_refused live refused (run_calculate_refused reached found accepted)
      | ok nights =>
          have within := Stay.nights_ok_iff.mp ⟨nights, accepted⟩
          have answered := run_calculate_priced reached found accepted
          cases priced : offersFor backend.stores hotel request nights circumstance with
          | error stop =>
              obtain ⟨plan, first, rfl⟩ :=
                of_problem?_offersFor accepted (problem?_eq_some_iff.mpr priced)
              rw [priced] at answered
              exact .of_unpriceable live within first answered
          | ok offers =>
              have fine : problem? (offersFor backend.stores hotel request nights circumstance) =
                  none := congrArg problem? priced
              rw [priced] at answered
              exact .of_quoted live within ((problem?_offersFor_eq_none_iff accepted).mp fine)
                fun stop same => nomatch answered.symm.trans same

/-! ## Plans that are not offered -/

/-- A house with other plans. -/
def altered (backend : Backend) (alter : RatePlan → RatePlan) : Backend :=
  { backend with stores := { backend.stores with plans := backend.stores.plans.map alter } }

/-- Other rules do not change which plans can be booked, and in which order. -/
theorem candidates_altered {alter : RatePlan → RatePlan}
    (rules : ∀ plan ∈ backend.stores.plans, ∃ rules, alter plan = { plan with rules }) :
    candidates (altered backend alter).stores hotel request =
      (candidates backend.stores hotel request).map alter := by
  have bookable (plan : RatePlan) (member : plan ∈ backend.stores.plans) :
      ((alter plan).hotel == hotel && (alter plan).roomType == request.roomType &&
          (alter plan).isApplicable request.stay.checkIn request.channel none) =
        (plan.hotel == hotel && plan.roomType == request.roomType &&
          plan.isApplicable request.stay.checkIn request.channel none) := by
    obtain ⟨rules, same⟩ := rules plan member
    rw [same]
    rfl
  rw [candidates, candidates, Stores.applicablePlans, Stores.applicablePlans, altered,
    List.filter_map, List.map_mergeSort]
  · exact congrArg (fun plans => (List.map alter plans).mergeSort _) (List.filter_congr bookable)
  · intro one left other right
    obtain ⟨_, sameOne⟩ := rules one (List.mem_filter.mp left).1
    obtain ⟨_, sameOther⟩ := rules other (List.mem_filter.mp right).1
    rw [sameOne, sameOther]

/-- **Plans that are not offered make no difference**, whatever their rules are. -/
theorem calculate_altered (reached : ∀ store, circumstance.reachable store = true)
    {alter : RatePlan → RatePlan}
    (excluded : ∀ plan ∈ backend.stores.plans, alter plan = plan ∨
      ¬ plan.IsOffered backend.stores hotel request circumstance.now ∧
        ∃ rules, alter plan = { plan with rules }) :
    (run (calculate hotel request) circumstance (altered backend alter)).1 =
      (run (calculate hotel request) circumstance backend).1 := by
  have rules : ∀ plan ∈ backend.stores.plans, ∃ rules, alter plan = { plan with rules } := by
    intro plan member
    rcases excluded plan member with same | ⟨_, other⟩
    · exact ⟨plan.rules, same⟩
    · exact other
  cases found : backend.stores.directory.roomType? hotel request.roomType with
  | none =>
      have foundToo : (altered backend alter).stores.directory.roomType? hotel request.roomType =
        none := found
      rw [run_calculate_missing reached found, run_calculate_missing reached foundToo]
  | some roomType =>
      have foundToo : (altered backend alter).stores.directory.roomType? hotel request.roomType =
        some roomType := found
      cases accepted : request.stay.nights circumstance.maxStayNights with
      | error refusal =>
          rw [run_calculate_refused reached found accepted,
            run_calculate_refused reached foundToo accepted]
      | ok nights =>
          rw [run_calculate_priced reached found accepted,
            run_calculate_priced reached foundToo accepted, offersFor, candidates_altered rules]
          refine congrArg (Except.map (ofOffers roomType)) (filterMapM_map fun plan member => ?_)
          have stored : plan ∈ backend.stores.plans :=
            (List.mem_filter.mp (Stores.applicablePlans_perm.mem_iff.mp member)).1
          rcases excluded plan stored with same | ⟨refused, rules, same⟩
          · rw [same]
            rfl
          · -- A plan that can be booked and is not offered does not admit the stay.
            have turned : ¬ plan.Admits nights
                (Instant.daysInAdvance request.stay.checkIn circumstance.now) := by
              rw [Stay.nights_ok accepted]
              exact fun admits => refused (isOffered_iff.mpr ⟨member, admits⟩)
            rw [same, outcome, outcome]
            exact (if_neg turned).trans (if_neg turned).symm

/-- **When requests for rates fail.** While all stores answer, a request fails exactly if
the hotel has no such room type, or else the stay has no night or too many, or else a step
of the price of a plan that would be offered is out of range; the first such plan is named.
Other plans make no difference, whatever their rules are. -/
theorem fails_exactly (hotel : Id) (request : QuoteRequest) (circumstance : Circumstance)
    (backend : Backend) (reached : ∀ store, circumstance.reachable store = true) :
    FailsExactly ((calculate hotel request).run circumstance backend).1 hotel request circumstance
        backend.stores ∧
      ∀ alter : RatePlan → RatePlan,
        (∀ plan ∈ backend.stores.plans, alter plan = plan ∨
          ¬ plan.IsOffered backend.stores hotel request circumstance.now ∧
            ∃ rules, alter plan = { plan with rules }) →
          ((calculate hotel request).run circumstance (altered backend alter)).1 =
            ((calculate hotel request).run circumstance backend).1 :=
  ⟨calculate_failsExactly reached, fun _ excluded => calculate_altered reached excluded⟩

end Quote

/-! ## A house with two plans that have no price -/

namespace Sample

open Quote

/-- A percentage that a rate of a thousand cannot be multiplied by. -/
def immense : Rule :=
  always 1 .percentage .add (.ofHundredths (Nat.pow 10 28))

/-- The plan with the rule. -/
def huge : RatePlan :=
  { plan 6 "HUGE" .thousand none with rules := [immense] }

/-- A plan with the rule, for stays of three nights or more. -/
def hugeLonger : RatePlan :=
  { plan 7 "LONG" .zero (some 3) with rules := [immense] }

def unpriceable : Backend :=
  { backend with stores := { backend.stores with plans := [hugeLonger, huge] } }

/-- The longer stays have no rules. -/
def ruleless (plan : RatePlan) : RatePlan :=
  if plan.code = "LONG" then { plan with rules := [] } else plan

theorem isOffered_huge : huge.IsOffered unpriceable.stores ⟨1⟩ wanted circumstance.now where
  stored := List.mem_cons_of_mem hugeLonger (List.mem_singleton_self huge)
  hotel := rfl
  roomType := rfl
  live := rfl
  active := rfl
  opened := nofun
  closed := nofun
  channel := nofun
  admits := by decide +kernel

theorem not_isOffered_hugeLonger :
    ¬ hugeLonger.IsOffered unpriceable.stores ⟨1⟩ wanted circumstance.now := by
  intro offered
  exact absurd offered.admits (by decide +kernel)

theorem unpriceable_huge :
    huge.Unpriceable unpriceable.stores wanted.stay circumstance.now circumstance.taxRate := by
  have fires : huge.rulesOn wanted.stay circumstance.now ⟨10⟩ = [immense] :=
    List.mergeSort_of_pairwise (by decide)
  have reached : huge.Reaches unpriceable.stores wanted.stay circumstance.now immense .thousand := by
    refine ⟨⟨10⟩, 0, [], by decide, by decide, ?_, Rule.replays_nil.mpr ⟨rfl, rfl⟩⟩
    rw [fires]
    rfl
  exact .percentage reached rfl (Decimal.mul?_eq_none_iff.mp (by decide +kernel))

end Sample

open Sample Service in
/-- The plan that would be offered is named, and the rules of the other do not matter. -/
theorem Quote.fails_exactly_for_two_plans :
    (∀ store, circumstance.reachable store = true) ∧
    (∃ problem, ((calculate ⟨1⟩ wanted).run circumstance unpriceable).1 =
        .error (.refused problem) ∧
      problem.failure.message =
        "Rate plan 'HUGE': Pricing rules produce a rate outside the supported range") ∧
    ((calculate ⟨1⟩ wanted).run circumstance (altered unpriceable ruleless)).1 =
      ((calculate ⟨1⟩ wanted).run circumstance unpriceable).1 := by
  have reached (store : StoreName) : circumstance.reachable store = true := rfl
  obtain ⟨exactly, unmoved⟩ := fails_exactly ⟨1⟩ wanted circumstance unpriceable reached
  have live : unpriceable.stores.directory.HasLive ⟨1⟩ wanted.roomType :=
    ⟨king, List.mem_singleton_self king, rfl, rfl, rfl⟩
  obtain ⟨problem, failed, _⟩ := (exactly.plan live (by decide) (by decide)).mpr
    ⟨huge, isOffered_huge, unpriceable_huge⟩
  obtain ⟨plan, first, _, same, told⟩ := exactly.named live (by decide) (by decide) _ failed
  obtain rfl := Stop.refused.inj same
  refine ⟨reached, ⟨problem, failed, ?_⟩, unmoved ruleless ?_⟩
  · rcases List.mem_pair.mp first.offered.stored with rfl | rfl
    · exact absurd first.offered not_isOffered_hugeLonger
    · rw [told]
      decide +kernel
  · intro plan stored
    rcases List.mem_pair.mp stored with rfl | rfl
    · exact .inr ⟨not_isOffered_hugeLonger, [], if_pos rfl⟩
    · exact .inl (if_neg (by decide))

end Lodging
