import Lodging.Proofs.Decimal.Value
import Lodging.Proofs.Registry.Identity

/-! # The views of the registry

Plans are looked up by id and by code, listed, and searched for what can be
booked. All four describe the live plans of a hotel, and that they agree rests on
ids and codes being different: a search that stops at the first match has then
found the only one (`Lodging.History.views_agree`).
-/

namespace Lodging

/-- Live plans of one hotel have different codes. -/
def RatePlan.CodesDiffer (one other : RatePlan) : Prop :=
  one.isLive = true → other.isLive = true → one.hotel = other.hotel → one.code ≠ other.code

theorem RatePlan.CodesDiffer.symm {one other : RatePlan} (differ : one.CodesDiffer other) :
    other.CodesDiffer one :=
  fun left right same => (differ right left same.symm).symm

namespace Stores

variable {stores : Stores} {hotel : Id} {code : String} {plan : RatePlan}

/-- A plan that is found by its code is in the registry, is live and has the
code. -/
theorem of_planByCode? (found : stores.planByCode? hotel code = some plan) :
    plan ∈ stores.plans ∧ plan.isLiveIn hotel = true ∧ plan.code = code := by
  have matched := List.find?_some found
  rw [Bool.and_eq_true, beq_iff_eq] at matched
  exact ⟨List.mem_of_find?_eq_some found, matched.2, matched.1⟩

/-- No live plan of the hotel has a code under which none is found. -/
theorem code_ne_of_planByCode? (free : stores.planByCode? hotel code = none)
    (member : plan ∈ stores.plans) (live : plan.isLiveIn hotel = true) : plan.code ≠ code := by
  intro same
  have missed := List.find?_eq_none.mp free plan member
  rw [same, beq_self_eq_true, Bool.true_and] at missed
  exact missed live

/-! ## Codes stay apart -/

/-- Every step of the registry keeps the codes of live plans apart. -/
theorem Apart.codes_step {before after : Stores} {event : Event}
    (identified : before.Identified) (apart : before.Apart RatePlan.CodesDiffer)
    (step : RegistryStep before event after) : after.Apart RatePlan.CodesDiffer := by
  cases step with
  | unmoved same => exact apart.unmoved same
  | made circumstance hotel request _ _ _ codeFree =>
      apply apart.addPlan RatePlan.CodesDiffer.symm
      intro other member _ live same
      exact (code_ne_of_planByCode? codeFree member (isLiveIn_iff.mpr ⟨same.symm, live⟩)).symm
  | revised circumstance hotel id patch plan _ found _ codeFree =>
      apply apart.changePlan identified found RatePlan.CodesDiffer.symm
      intro other member different live liveOther sameHotel
      obtain ⟨present, liveIn, rfl⟩ := of_plan? found
      by_cases changed : (patch.apply plan.toPlanTerms).code = plan.code
      · -- The code is kept, so the plans differ as they did before.
        have differ := apart plan present other member different.symm live liveOther sameHotel
        exact changed.trans_ne differ
      · -- The code is new, so the search for it has found at most the plan itself.
        intro same
        have liveOtherIn : other.isLiveIn hotel = true :=
          isLiveIn_iff.mpr ⟨sameHotel.symm.trans (isLiveIn_iff.mp liveIn).1, liveOther⟩
        cases holder : before.planByCode? hotel (patch.apply plan.toPlanTerms).code with
        | none => exact code_ne_of_planByCode? holder member liveOtherIn same.symm
        | some taken =>
            obtain ⟨presentTaken, _, takenCode⟩ := of_planByCode? holder
            have itself := identified.eq_of_id presentTaken present (codeFree changed taken holder)
            rw [itself] at takenCode
            exact changed takenCode.symm
  | deleted circumstance hotel id plan found =>
      apply apart.changePlan identified found RatePlan.CodesDiffer.symm
      intro other _ _ live
      exact nomatch live

/-- Plans that are live in one hotel and have one code are one plan. -/
theorem Identified.eq_of_code (identified : stores.Identified)
    (apart : stores.Apart RatePlan.CodesDiffer) {one other : RatePlan}
    (left : one ∈ stores.plans) (right : other ∈ stores.plans)
    (liveOne : one.isLiveIn hotel = true) (liveOther : other.isLiveIn hotel = true)
    (same : one.code = other.code) : one = other := by
  obtain ⟨hotelOne, liveOne⟩ := isLiveIn_iff.mp liveOne
  obtain ⟨hotelOther, liveOther⟩ := isLiveIn_iff.mp liveOther
  by_contra different
  have ids : one.id ≠ other.id := fun sameId => different (identified.eq_of_id left right sameId)
  exact apart one left other right ids liveOne liveOther (hotelOne.trans hotelOther.symm) same

/-! ## Searches -/

theorem plan?_eq_some_iff (identified : stores.Identified) {id : Id} :
    stores.plan? hotel id = some plan ↔
      plan ∈ stores.plans ∧ plan.isLiveIn hotel = true ∧ plan.id = id := by
  constructor
  · exact of_plan?
  · rintro ⟨member, live, rfl⟩
    exact identified.plan?_eq_some member live

theorem planByCode?_eq_some_iff (identified : stores.Identified)
    (apart : stores.Apart RatePlan.CodesDiffer) :
    stores.planByCode? hotel code = some plan ↔
      plan ∈ stores.plans ∧ plan.isLiveIn hotel = true ∧ plan.code = code := by
  constructor
  · exact of_planByCode?
  · rintro ⟨member, live, rfl⟩
    cases found : stores.planByCode? hotel plan.code with
    | none => exact absurd rfl (code_ne_of_planByCode? found member live)
    | some other =>
        obtain ⟨present, liveOther, same⟩ := of_planByCode? found
        rw [identified.eq_of_code apart present member liveOther live same]

/-! ## Lists -/

theorem mem_plansOf {roomType : Option Id} :
    plan ∈ stores.plansOf hotel roomType ↔
      plan ∈ stores.plans ∧ plan.isLiveIn hotel = true ∧ ∀ id ∈ roomType, plan.roomType = id := by
  rw [plansOf, List.mem_mergeSort, List.mem_filter, Bool.and_eq_true, Option.all_eq_true]
  simp only [beq_iff_eq, Option.mem_def]

theorem plansOf_sorted (stores : Stores) (hotel : Id) (roomType : Option Id) :
    (stores.plansOf hotel roomType).Pairwise fun one other => one.code ≤ other.code := by
  have sorted : (stores.plansOf hotel roomType).Pairwise fun one other =>
      decide (one.code ≤ other.code) = true := by
    apply List.pairwise_mergeSort
    · intro first second third
      simpa only [decide_eq_true_eq] using String.le_trans
    · intro one other
      simpa only [Bool.or_eq_true, decide_eq_true_eq] using String.le_total one.code other.code
  exact sorted.imp of_decide_eq_true

/-- No code is listed twice. -/
theorem plansOf_ascending (identified : stores.Identified)
    (apart : stores.Apart RatePlan.CodesDiffer) (roomType : Option Id) :
    (stores.plansOf hotel roomType).Pairwise fun one other => one.code < other.code := by
  have perm : (stores.plansOf hotel roomType).Perm _ := List.mergeSort_perm _ _
  have codes : (stores.plansOf hotel roomType).Pairwise fun one other => one.CodesDiffer other :=
    perm.symm.pairwise ((identified.pairwise apart).sublist List.filter_sublist)
      RatePlan.CodesDiffer.symm
  refine ((plansOf_sorted stores hotel roomType).and codes).imp_of_mem ?_
  rintro one other left right ⟨ordered, differ⟩
  obtain ⟨_, liveOne, _⟩ := mem_plansOf.mp left
  obtain ⟨_, liveOther, _⟩ := mem_plansOf.mp right
  obtain ⟨hotelOne, liveOne⟩ := isLiveIn_iff.mp liveOne
  obtain ⟨hotelOther, liveOther⟩ := isLiveIn_iff.mp liveOther
  exact lt_of_le_of_ne ordered (differ liveOne liveOther (hotelOne.trans hotelOther.symm))

/-! ## Plans that can be booked -/

section Applicable

variable {roomType : Id} {checkIn : Date} {channel : Option String} {isPublic : Option Bool}

/-- A plan can be booked when it is a live plan of the room type, is active, and
meets what is asked for. -/
theorem mem_applicablePlans :
    plan ∈ stores.applicablePlans hotel roomType checkIn channel isPublic ↔
      plan ∈ stores.plansOf hotel (some roomType) ∧ plan.isActive = true ∧
        (∀ first ∈ plan.validFrom, first ≤ checkIn) ∧
        (∀ last ∈ plan.validUntil, checkIn ≤ last) ∧
        (∀ code ∈ channel, code ∈ plan.channelCodes) ∧
        ∀ wanted ∈ isPublic, plan.isPublic = wanted := by
  rw [applicablePlans, List.mem_mergeSort, List.mem_filter, mem_plansOf, isLiveIn_iff]
  simp only [RatePlan.isApplicable, Bool.and_eq_true, beq_iff_eq, Option.all_eq_true,
    decide_eq_true_eq, List.contains_iff_mem, Option.mem_def, Option.some.injEq, forall_eq']
  tauto

theorem applicablePlans_perm :
    (stores.applicablePlans hotel roomType checkIn channel isPublic).Perm
      (stores.plans.filter fun plan => plan.hotel == hotel && plan.roomType == roomType &&
        plan.isApplicable checkIn channel isPublic) :=
  List.mergeSort_perm _ _

/-- Plans that can be booked ascend by base rate, and those of one rate come in the
order of their creation. -/
theorem applicablePlans_ranked :
    (stores.applicablePlans hotel roomType checkIn channel isPublic).Pairwise fun one other =>
      one.baseRate ≤ other.baseRate ∧
        (other.baseRate ≤ one.baseRate → [one, other].Sublist stores.plans) := by
  refine (Decimal.pairwise_mergeSort (fun plan : RatePlan => plan.baseRate) _).imp ?_
  rintro one other ⟨ordered, ties⟩
  exact ⟨ordered, fun equal => (ties equal).trans List.filter_sublist⟩

theorem applicablePlans_nodup (identified : stores.Identified) :
    ((stores.applicablePlans hotel roomType checkIn channel isPublic).map (·.id)).Nodup := by
  rw [(applicablePlans_perm.map (·.id)).nodup_iff]
  exact identified.ids.sublist (List.filter_sublist.map _)

end Applicable

end Stores

/-! ## What the services answer -/

/-- What the lookups tell about the plans of a hotel. -/
structure Backend.ViewsAgree (backend : Backend) (circumstance : Circumstance) (hotel : Id) :
    Prop where
  /-- Live plans differ both in id and in code. -/
  keys : backend.stores.plans.Pairwise fun one other =>
    one.isLiveIn hotel = true → other.isLiveIn hotel = true →
      one.id ≠ other.id ∧ one.code ≠ other.code
  listed (roomType : Option Id) :
    (RatePlans.list hotel roomType).run circumstance backend =
      (.ok (backend.stores.plansOf hotel roomType), backend)
  ascending (roomType : Option Id) :
    (backend.stores.plansOf hotel roomType).Pairwise fun one other => one.code < other.code
  /-- The list of a hotel has its live plans. -/
  members (plan : RatePlan) :
    plan ∈ backend.stores.plansOf hotel none ↔
      plan ∈ backend.stores.plans ∧ plan.isLiveIn hotel = true
  /-- The list of a room type is a part of the list of the hotel. -/
  ofRoomType (roomType : Id) (plan : RatePlan) :
    plan ∈ backend.stores.plansOf hotel (some roomType) ↔
      plan ∈ backend.stores.plansOf hotel none ∧ plan.roomType = roomType
  /-- Asking for an id gives the listed plan that has it. -/
  byId (id : Id) (plan : RatePlan) :
    (RatePlans.get hotel id).run circumstance backend = (.ok plan, backend) ↔
      plan ∈ backend.stores.plansOf hotel none ∧ plan.id = id
  /-- Searching for a code gives the listed plan that has it. -/
  byCode (code : String) (plan : RatePlan) :
    backend.stores.planByCode? hotel code = some plan ↔
      plan ∈ backend.stores.plansOf hotel none ∧ plan.code = code
  found (request : ApplicableRequest) :
    (RatePlans.applicable hotel request).run circumstance backend =
      (.ok (backend.stores.applicablePlans hotel request.roomType request.checkIn
        request.channel request.isPublic), backend)
  /-- What can be booked are the listed plans of the room type that are active and
  meet what is asked for. -/
  bookable (roomType : Id) (checkIn : Date) (channel : Option String) (isPublic : Option Bool)
      (plan : RatePlan) :
    plan ∈ backend.stores.applicablePlans hotel roomType checkIn channel isPublic ↔
      plan ∈ backend.stores.plansOf hotel (some roomType) ∧ plan.isActive = true ∧
        (∀ first ∈ plan.validFrom, first ≤ checkIn) ∧
        (∀ last ∈ plan.validUntil, checkIn ≤ last) ∧
        (∀ code ∈ channel, code ∈ plan.channelCodes) ∧
        ∀ wanted ∈ isPublic, plan.isPublic = wanted
  /-- What can be booked has every plan once, by base rate, and plans of one rate in
  the order of their creation. -/
  ranked (roomType : Id) (checkIn : Date) (channel : Option String) (isPublic : Option Bool) :
    (backend.stores.applicablePlans hotel roomType checkIn channel isPublic).Pairwise
      fun one other => one.id ≠ other.id ∧ one.baseRate ≤ other.baseRate ∧
        (other.baseRate ≤ one.baseRate → [one, other].Sublist backend.stores.plans)

open Service in
/-- **The views agree.** In every history over a registry that was empty, lookups
by id and by code, lists and the search for what can be booked describe the same
plans. -/
theorem History.views_agree (history : History) {start : Backend}
    (unplanned : start.stores.plans = []) {circumstance : Circumstance}
    (answered : circumstance.reachable .ratePlans = true) (hotel : Id) :
    (history.after start).ViewsAgree circumstance hotel := by
  have identified := history.identified unplanned
  have apart := history.apart unplanned Stores.Apart.codes_step
  generalize history.after start = backend at identified apart
  have members (plan : RatePlan) : plan ∈ backend.stores.plansOf hotel none ↔
      plan ∈ backend.stores.plans ∧ plan.isLiveIn hotel = true := by
    rw [Stores.mem_plansOf]
    simp only [Option.not_mem_none, false_implies, implies_true, and_true]
  exact {
    keys := by
      have ids := List.pairwise_map.mp identified.ids
      refine (ids.and (identified.pairwise apart)).imp ?_
      rintro one other ⟨different, differ⟩ liveOne liveOther
      obtain ⟨hotelOne, liveOne⟩ := Stores.isLiveIn_iff.mp liveOne
      obtain ⟨hotelOther, liveOther⟩ := Stores.isLiveIn_iff.mp liveOther
      exact ⟨different, differ liveOne liveOther (hotelOne.trans hotelOther.symm)⟩
    listed := by
      intro roomType
      rw [RatePlans.list, run_consult, if_pos answered]
    ascending := Stores.plansOf_ascending identified apart
    members
    ofRoomType := by
      intro roomType plan
      rw [members, Stores.mem_plansOf, and_assoc]
      simp only [Option.mem_some_iff, forall_eq']
    byId := by
      intro id plan
      rw [RatePlans.run_get_ok, members, and_assoc, ← Stores.plan?_eq_some_iff identified]
      simp only [answered, true_and, and_true]
    byCode := by
      intro code plan
      rw [members, and_assoc]
      exact Stores.planByCode?_eq_some_iff identified apart
    found := by
      intro request
      rw [RatePlans.applicable, run_consult, if_pos answered]
    bookable := fun _ _ _ _ _ => Stores.mem_applicablePlans
    ranked := by
      intro roomType checkIn channel isPublic
      have ids : (backend.stores.applicablePlans hotel roomType checkIn channel isPublic).Pairwise
          fun one other => one.id ≠ other.id :=
        List.pairwise_map.mp (Stores.applicablePlans_nodup identified)
      exact ids.and Stores.applicablePlans_ranked }

open Sample in
/-- The views agree on two plans, made after a third was refused for its code. -/
theorem History.views_agree_on_two_plans :
    let history : History :=
      [making "BAR" .hundred [], making "BAR" .zero [], making "WEB" .zero []]
    (history.after backend).stores.plans.map (·.code) = ["BAR", "WEB"] ∧
      (history.after backend).ViewsAgree circumstance ⟨1⟩ := by
  intro history
  exact ⟨by decide +kernel, history.views_agree rfl rfl ⟨1⟩⟩

end Lodging
