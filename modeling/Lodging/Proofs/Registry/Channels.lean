import Lodging.Proofs.Registry.Views

/-! # Channels have one seller

A plan that is open to everybody has its channels for itself among the plans of
its room type. The registry compares channels when a plan is made, and again when
a revision touches the channels, the visibility or the activity of a plan; what
it has not compared has not changed (`Lodging.Stores.Apart.channels_step`). So a
channel sells at most one open plan of a room type
(`Lodging.History.one_plan_per_channel`).
-/

namespace Lodging

/-- The plan is open to everybody: public, active and not deleted. -/
structure RatePlan.IsOpen (plan : RatePlan) : Prop where
  isPublic : plan.isPublic = true
  isActive : plan.isActive = true
  isLive : plan.isLive = true

/-- Open plans of one room type share no channel. -/
def RatePlan.ChannelsDiffer (one other : RatePlan) : Prop :=
  one.IsOpen → other.IsOpen → one.roomType = other.roomType →
    one.channelCodes.Disjoint other.channelCodes

theorem RatePlan.ChannelsDiffer.symm {one other : RatePlan} (differ : one.ChannelsDiffer other) :
    other.ChannelsDiffer one :=
  fun left right same => (differ right left same.symm).symm

/-- Terms that claim channels in the same way have the same channels, visibility
and activity. -/
theorem PlanTerms.sameClaim_iff {one other : PlanTerms} :
    one.sameClaim other = true ↔
      one.channelCodes = other.channelCodes ∧ one.isPublic = other.isPublic ∧
        one.isActive = other.isActive := by
  simp only [sameClaim, Bool.and_eq_true, beq_iff_eq, and_assoc]

namespace Stores

variable {stores : Stores} {plan : RatePlan}

/-- Channels that have been found free are not those of another open plan. -/
theorem ChannelsFree.disjoint {roomType : Id} {self : Option Id} {terms : PlanTerms}
    (free : stores.ChannelsFree roomType self terms) (isPublic : terms.isPublic = true)
    (isActive : terms.isActive = true) {other : RatePlan} (member : other ∈ stores.plans)
    (opened : other.IsOpen) (same : other.roomType = roomType) (different : some other.id ≠ self) :
    terms.channelCodes.Disjoint other.channelCodes := by
  intro code claimed taken
  have claims : terms.claimsChannels = true := by
    rw [PlanTerms.claimsChannels, isPublic, isActive, Bool.true_and, Bool.true_and,
      Bool.not_eq_true', List.isEmpty_eq_false_iff]
    exact List.ne_nil_of_mem claimed
  have shown : other ∈ stores.publicPlans roomType := by
    rw [publicPlans, List.mem_filter, same, opened.isPublic, opened.isActive, opened.isLive]
    exact ⟨member, by rw [beq_self_eq_true]; rfl⟩
  have shared : other.sharesChannel terms.channelCodes = true :=
    List.any_eq_true.mpr ⟨code, taken, List.contains_iff_mem.mpr claimed⟩
  rw [free claims other shown different] at shared
  exact nomatch shared

/-- Every step of the registry keeps the channels of open plans apart. -/
theorem Apart.channels_step {before after : Stores} {event : Event}
    (identified : before.Identified) (apart : before.Apart RatePlan.ChannelsDiffer)
    (step : RegistryStep before event after) : after.Apart RatePlan.ChannelsDiffer := by
  cases step with
  | unmoved same => exact apart.unmoved same
  | made circumstance hotel request _ _ _ _ channelsFree =>
      apply apart.addPlan RatePlan.ChannelsDiffer.symm
      intro other member opened openedOther same
      exact channelsFree.disjoint opened.isPublic opened.isActive member openedOther same.symm
        (Option.some_ne_none other.id)
  | revised circumstance hotel id patch plan _ found _ _ channelsFree =>
      apply apart.changePlan identified found RatePlan.ChannelsDiffer.symm
      intro other member different opened openedOther same
      obtain ⟨present, _, rfl⟩ := of_plan? found
      cases claim : (patch.apply plan.toPlanTerms).sameClaim plan.toPlanTerms with
      | true =>
          -- The plan was as open before, and had the same channels.
          obtain ⟨channels, visibility, activity⟩ := PlanTerms.sameClaim_iff.mp claim
          have openedBefore : plan.IsOpen :=
            ⟨visibility.symm.trans opened.isPublic, activity.symm.trans opened.isActive,
              opened.isLive⟩
          change (patch.apply plan.toPlanTerms).channelCodes.Disjoint other.channelCodes
          rw [channels]
          exact apart plan present other member different.symm openedBefore openedOther same
      | false =>
          refine (channelsFree claim).disjoint opened.isPublic opened.isActive member openedOther
            same.symm fun itself => different ?_
          exact Option.some.inj itself
  | deleted circumstance hotel id plan found =>
      apply apart.changePlan identified found RatePlan.ChannelsDiffer.symm
      intro other _ _ opened
      exact nomatch opened.isActive

/-- A search for open plans on a channel finds at most one if channels are apart. -/
theorem applicablePlans_length_le_one (pairs : stores.plans.Pairwise RatePlan.ChannelsDiffer)
    (hotel roomType : Id) (checkIn : Date) (channel : String) :
    (stores.applicablePlans hotel roomType checkIn (some channel) (some true)).length ≤ 1 := by
  have found (plan : RatePlan)
      (member : plan ∈ stores.applicablePlans hotel roomType checkIn (some channel) (some true)) :
      plan.IsOpen ∧ plan.roomType = roomType ∧ channel ∈ plan.channelCodes := by
    obtain ⟨listed, isActive, _, _, offered, visible⟩ := mem_applicablePlans.mp member
    obtain ⟨_, live, housed⟩ := mem_plansOf.mp listed
    exact ⟨⟨visible true rfl, isActive, (isLiveIn_iff.mp live).2⟩, housed roomType rfl,
      offered channel rfl⟩
  have differ : (stores.applicablePlans hotel roomType checkIn (some channel)
      (some true)).Pairwise RatePlan.ChannelsDiffer :=
    applicablePlans_perm.symm.pairwise (pairs.sublist List.filter_sublist)
      RatePlan.ChannelsDiffer.symm
  generalize stores.applicablePlans hotel roomType checkIn (some channel) (some true) = plans
    at found differ
  match plans with
  | [] => exact Nat.zero_le 1
  | [_] => exact Nat.le_refl 1
  | one :: other :: rest =>
      obtain ⟨openOne, typeOne, onOne⟩ := found one List.mem_cons_self
      obtain ⟨openOther, typeOther, onOther⟩ :=
        found other (List.mem_cons_of_mem one List.mem_cons_self)
      have apart := List.rel_of_pairwise_cons differ List.mem_cons_self
      exact (apart openOne openOther (typeOne.trans typeOther.symm) onOne onOther).elim

end Stores

/-- **Channels have one seller.** In every history over a registry that was empty,
open plans of one room type share no channel, and a search for open plans on a
channel finds at most one. -/
theorem History.one_plan_per_channel (history : History) {start : Backend}
    (unplanned : start.stores.plans = []) :
    (history.after start).stores.plans.Pairwise RatePlan.ChannelsDiffer ∧
      ∀ hotel roomType checkIn channel,
        ((history.after start).stores.applicablePlans hotel roomType checkIn (some channel)
          (some true)).length ≤ 1 := by
  have apart := history.apart unplanned Stores.Apart.channels_step
  have pairs := (history.identified unplanned).pairwise apart
  exact ⟨pairs, Stores.applicablePlans_length_le_one pairs⟩

open Sample in
/-- The channel of a plan is refused to a second one until the first is deleted. -/
theorem History.one_plan_per_channel_after_deletion :
    let second := making "CORP" .zero ["WEB"]
    let history : History :=
      [making "BAR" .hundred ["WEB"], second,
        ⟨.deletePlan ⟨1⟩ backend.stores.supply.next, circumstance⟩, second]
    (history.after backend).stores.plans.map (fun plan => (plan.code, plan.isLive)) =
        [("BAR", false), ("CORP", true)] ∧
      (history.after backend).stores.plans.Pairwise RatePlan.ChannelsDiffer ∧
      ∀ hotel roomType checkIn channel,
        ((history.after backend).stores.applicablePlans hotel roomType checkIn (some channel)
          (some true)).length ≤ 1 := by
  intro second history
  exact ⟨by decide +kernel, history.one_plan_per_channel rfl⟩

end Lodging
