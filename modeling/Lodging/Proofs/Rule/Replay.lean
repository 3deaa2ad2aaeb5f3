import Lodging.Proofs.StableSort
import Lodging.Rule.Apply

/-! # Rules by priority

Rules that fire apply by priority, and those of one priority in the order of their list,
so how rules of different priorities are mixed in the list makes no difference
(`Lodging.Rule.firing_congr`). What they did can be replayed: a trail has one entry for
each of them, whose amount is what the rule gives for the rate reached so far, and the
amounts added up one after another lead to the rate in the end
(`Lodging.Rule.applyInOrder?_eq_some_iff`). There is no rate exactly if one of these steps
overflows (`Lodging.Rule.applyInOrder?_eq_none_iff`).
-/

namespace Lodging

namespace AppliedRule

/-- The rate that amounts on record lead to, added one after another. -/
def reach? (base : Decimal) (trail : List AppliedRule) : Option Decimal :=
  trail.foldlM (fun rate entry => rate.add? entry.amount) base

theorem reach?_cons (base : Decimal) (entry : AppliedRule) (rest : List AppliedRule) :
    reach? base (entry :: rest) = (base.add? entry.amount).bind fun next => reach? next rest := by
  rw [reach?, List.foldlM_cons]
  rfl

/-- One more entry is added to the rate that those before it lead to. -/
theorem reach?_take_succ {base : Decimal} {trail : List AppliedRule} {place : Nat}
    {entry : AppliedRule} (found : trail[place]? = some entry) :
    reach? base (trail.take (place + 1)) =
      (reach? base (trail.take place)).bind fun rate => rate.add? entry.amount := by
  rw [List.take_add_one, found, Option.toList_some, reach?, List.foldlM_append]
  simp only [List.foldlM_cons, List.foldlM_nil, bind_pure]
  rfl

end AppliedRule

namespace Rule

variable {one other rules order : List Rule} {context : RuleContext}

/-! ## The order in which rules apply -/

/-- For each priority, both lists have the same rules in the same order. -/
def SameByPriority (one other : List Rule) : Prop :=
  ∀ priority : Int, (one.filter fun rule => rule.priority == priority) =
    other.filter fun rule => rule.priority == priority

theorem SameByPriority.filter (same : SameByPriority one other) (passes : Rule → Bool) :
    SameByPriority (one.filter passes) (other.filter passes) := by
  intro priority
  have parts := congrArg (List.filter passes) (same priority)
  simpa only [List.filter_filter, Bool.and_comm] using parts

/-- Rules come before those of a lower priority. -/
def before (first second : Rule) : Bool :=
  second.priority ≤ first.priority

theorem before_trans (first second third : Rule) (left : before first second)
    (right : before second third) : before first third := by
  rw [before, decide_eq_true_eq] at left right ⊢
  exact Int.le_trans right left

theorem before_total (first second : Rule) : before first second || before second first := by
  rw [before, before, Bool.or_eq_true, decide_eq_true_eq, decide_eq_true_eq]
  exact Int.le_total _ _

/-- Rules are equals if they have one priority. -/
theorem equals_before (first : Rule) :
    StableSort.equals before first = fun second => second.priority == first.priority := by
  funext second
  rw [Bool.eq_iff_iff, StableSort.equals, Bool.and_eq_true, before, before, decide_eq_true_eq,
    decide_eq_true_eq, beq_iff_eq]
  exact Int.le_antisymm_iff.symm

theorem firing_eq (rules : List Rule) (context : RuleContext) :
    firing rules context =
      (rules.filter fun rule => rule.trigger.fires context).mergeSort before := rfl

/-- Only the order within each priority matters. -/
theorem firing_congr (same : SameByPriority one other) (context : RuleContext) :
    firing one context = firing other context := by
  rw [firing_eq, firing_eq]
  refine StableSort.mergeSort_congr before_trans before_total fun rule => ?_
  rw [equals_before]
  exact same.filter _ rule.priority

/-- The rules in the order in which they apply are those that fire, by priority, and in
their own order within one. -/
structure ByPriority (order rules : List Rule) (context : RuleContext) : Prop where
  perm : order.Perm (rules.filter fun rule => rule.trigger.fires context)
  descending : order.Pairwise fun one other => other.priority ≤ one.priority
  ties : SameByPriority order (rules.filter fun rule => rule.trigger.fires context)

theorem firing_byPriority (rules : List Rule) (context : RuleContext) :
    ByPriority (firing rules context) rules context where
  perm := List.mergeSort_perm _ _
  descending := by
    have sorted := List.pairwise_mergeSort before_trans before_total
      (rules.filter fun rule => rule.trigger.fires context)
    exact sorted.imp of_decide_eq_true
  ties := by
    intro priority
    refine StableSort.filter_mergeSort before_trans before_total ?_
    refine List.pairwise_filter.mpr (List.pairwise_of_forall fun first second left right => ?_)
    rw [beq_iff_eq] at left right
    exact decide_eq_true (Int.le_of_eq (right.trans left.symm))

/-! ## Trails -/

/-- The trail has one entry for each rule, with what the rule gives for the rate reached by
then, and leads to the final rate. -/
structure Replays (order : List Rule) (base : Decimal) (trail : List AppliedRule)
    (final : Decimal) : Prop where
  length : trail.length = order.length
  entry : ∀ place rule entry, order[place]? = some rule → trail[place]? = some entry →
    entry = rule.applied entry.amount ∧
      ∃ rate, AppliedRule.reach? base (trail.take place) = some rate ∧
        rule.adjustment.delta? rate = some entry.amount
  final : AppliedRule.reach? base trail = some final

/-- The rule has nothing to give for the rate, or the rate with it is out of range. -/
def Overflows (rule : Rule) (rate : Decimal) : Prop :=
  rule.adjustment.delta? rate = none ∨
    ∃ amount, rule.adjustment.delta? rate = some amount ∧ rate.add? amount = none

variable {rule : Rule} {base final : Decimal} {entry : AppliedRule} {trail : List AppliedRule}

theorem replays_nil : Replays [] base trail final ↔ trail = [] ∧ final = base := by
  constructor
  · intro replays
    obtain rfl := List.length_eq_zero_iff.mp replays.length
    exact ⟨rfl, (Option.some.inj replays.final).symm⟩
  · rintro ⟨rfl, rfl⟩
    exact ⟨rfl, fun _ _ _ inside => (nomatch inside), rfl⟩

/-- A trail starts with an entry of the first rule, and goes on from the rate after it. -/
theorem replays_cons : Replays (rule :: rules) base (entry :: trail) final ↔
    entry = rule.applied entry.amount ∧ rule.adjustment.delta? base = some entry.amount ∧
      ∃ next, base.add? entry.amount = some next ∧ Replays rules next trail final := by
  constructor
  · rintro ⟨length, entries, led⟩
    obtain ⟨own, _, here, given⟩ := entries 0 rule entry rfl rfl
    obtain rfl := Option.some.inj here
    rw [AppliedRule.reach?_cons, Option.bind_eq_some_iff] at led
    obtain ⟨next, added, led⟩ := led
    refine ⟨own, given, next, added, Nat.succ.inj length, ?_, led⟩
    intro place other later inside found
    obtain ⟨same, rate, reached, amount⟩ := entries (place + 1) other later inside found
    rw [List.take_succ_cons, AppliedRule.reach?_cons, added] at reached
    exact ⟨same, rate, reached, amount⟩
  · rintro ⟨own, given, next, added, length, entries, led⟩
    refine ⟨congrArg Nat.succ length, ?_, ?_⟩
    · rintro (_ | place) other later inside found
      · obtain rfl := Option.some.inj inside
        obtain rfl := Option.some.inj found
        exact ⟨own, base, rfl, given⟩
      · obtain ⟨same, rate, reached, amount⟩ := entries place other later inside found
        refine ⟨same, rate, ?_, amount⟩
        rw [List.take_succ_cons, AppliedRule.reach?_cons, added]
        exact reached
    · rw [AppliedRule.reach?_cons, added]
      exact led

theorem not_replays_cons_nil : ¬ Replays (rule :: rules) base [] final :=
  fun replays => nomatch replays.length

/-- **Trails replay.** Rules give a rate and a trail exactly if the trail replays them and
leads to the rate. -/
theorem applyInOrder?_eq_some_iff :
    applyInOrder? base order = some (final, trail) ↔ Replays order base trail final := by
  induction order generalizing base trail with
  | nil =>
      rw [applyInOrder?, replays_nil, Option.some.injEq, Prod.mk.injEq, and_comm, eq_comm,
        eq_comm (a := base)]
  | cons rule rules ih =>
      simp only [applyInOrder?, bind, Option.bind_eq_some_iff, Option.some.injEq]
      constructor
      · rintro ⟨amount, given, next, added, ⟨rate, rest⟩, applied, same⟩
        obtain ⟨rfl, rfl⟩ := Prod.mk.inj same
        exact replays_cons.mpr ⟨rfl, given, next, added, ih.mp applied⟩
      · intro replays
        cases trail with
        | nil => exact (not_replays_cons_nil replays).elim
        | cons entry trail =>
            obtain ⟨own, given, next, added, rest⟩ := replays_cons.mp replays
            exact ⟨entry.amount, given, next, added, (final, trail), ih.mpr rest,
              congrArg (fun entry => (final, entry :: trail)) own.symm⟩

/-- **Overflow.** Rules give no rate exactly if one of them overflows at the rate that the
rules before it lead to. -/
theorem applyInOrder?_eq_none_iff :
    applyInOrder? base order = none ↔
      ∃ place rule trail rate, order[place]? = some rule ∧
        Replays (order.take place) base trail rate ∧ rule.Overflows rate := by
  induction order generalizing base with
  | nil =>
      simp only [applyInOrder?, reduceCtorEq, List.getElem?_nil, false_and, exists_false]
  | cons first rules ih =>
      simp only [applyInOrder?, bind, Option.bind_eq_none_iff, reduceCtorEq, imp_false]
      constructor
      · intro failed
        cases given : first.adjustment.delta? base with
        | none => exact ⟨0, first, [], base, rfl, replays_nil.mpr ⟨rfl, rfl⟩, .inl given⟩
        | some amount =>
            cases added : base.add? amount with
            | none =>
                exact ⟨0, first, [], base, rfl, replays_nil.mpr ⟨rfl, rfl⟩,
                  .inr ⟨amount, given, added⟩⟩
            | some next =>
                have rest : applyInOrder? next rules = none :=
                  Option.eq_none_iff_forall_ne_some.mpr (failed amount given next added)
                obtain ⟨place, rule, trail, rate, inside, replays, overflows⟩ := ih.mp rest
                exact ⟨place + 1, rule, first.applied amount :: trail, rate, inside,
                  replays_cons.mpr ⟨rfl, given, next, added, replays⟩, overflows⟩
      · rintro ⟨place, rule, trail, rate, inside, replays, overflows⟩ amount given next added
        apply Option.eq_none_iff_forall_ne_some.mp
        cases place with
        | zero =>
            obtain rfl := Option.some.inj inside
            obtain ⟨rfl, rfl⟩ := replays_nil.mp replays
            rcases overflows with missing | ⟨_, same, missing⟩
            · exact nomatch missing.symm.trans given
            · obtain rfl := Option.some.inj (same.symm.trans given)
              exact nomatch missing.symm.trans added
        | succ place =>
            rw [List.take_succ_cons] at replays
            cases trail with
            | nil => exact (not_replays_cons_nil replays).elim
            | cons entry trail =>
                obtain ⟨_, givenToo, _, addedToo, rest⟩ := replays_cons.mp replays
                obtain rfl := Option.some.inj (givenToo.symm.trans given)
                obtain rfl := Option.some.inj (addedToo.symm.trans added)
                exact ih.mpr ⟨place, rule, trail, rate, inside, rest, overflows⟩

/-- **Rules apply by priority.** Lists with the same rules of each priority in the same
order do the same. The rules that fire are on record one by one, by priority, each with
what it gave for the rate reached by then; the amounts on record lead from the base to the
rate; and there is no rate exactly if a step overflows. -/
theorem applied_by_priority (base : Decimal) (context : RuleContext) :
    (∀ one other, SameByPriority one other →
      applyAll? base one context = applyAll? base other context) ∧
    ∀ rules, ∃ order, ByPriority order rules context ∧
      (∀ final trail, applyAll? base rules context = some (final, trail) ↔
        Replays order base trail final) ∧
      (applyAll? base rules context = none ↔
        ∃ place rule trail rate, order[place]? = some rule ∧
          Replays (order.take place) base trail rate ∧ rule.Overflows rate) := by
  constructor
  · intro one other same
    rw [applyAll?, applyAll?, firing_congr same]
  · intro rules
    exact ⟨firing rules context, firing_byPriority rules context,
      fun final trail => applyInOrder?_eq_some_iff, applyInOrder?_eq_none_iff⟩

end Rule

/-! ## Two lists of three rules -/

namespace Sample

/-- A rule that fires on every night. -/
def always (priority : Int) (kind : AdjustmentKind) (operation : AdjustmentOperation)
    (value : Decimal) : Rule where
  name := none
  trigger := .lengthOfStay 0 none
  adjustment := { kind, operation, value }
  priority

/-- A night of a stay of one night. -/
def oneNight : RuleContext where
  date := ⟨10⟩
  daysInAdvance := 0
  lengthOfStay := 1
  occupancyPercent := .zero

def ten : Decimal := Decimal.thousand.overPowerOfTen 2

/-- Ten percent are taken off before all else. -/
def cut : Rule := always 2 .percentage .subtract ten

def raised : Rule := always 1 .fixedAmount .add ten

def surcharged : Rule := always 1 .percentage .add ten

end Sample

open Sample in
/-- The rule of the higher priority comes first wherever it stands; of the two others, the
fixed amount is added before the percentage is. -/
theorem Rule.applied_by_priority_in_two_lists :
    SameByPriority [raised, cut, surcharged] [cut, raised, surcharged] ∧
    applyAll? .hundred [raised, cut, surcharged] oneNight =
      applyAll? .hundred [cut, raised, surcharged] oneNight ∧
    ∃ final trail,
      applyAll? .hundred [cut, raised, surcharged] oneNight = some (final, trail) ∧
      final.roundMoney = .ofHundredths 11000 ∧ trail.map (·.priority) = [2, 1, 1] ∧
      ∃ order, ByPriority order [cut, raised, surcharged] oneNight ∧
        Replays order .hundred trail final := by
  have same : SameByPriority [raised, cut, surcharged] [cut, raised, surcharged] := by
    intro priority
    by_cases higher : priority = 2
    · subst higher
      rfl
    · have lower : (cut.priority == priority) = false := beq_false_of_ne (Ne.symm higher)
      simp only [List.filter_cons, lower, Bool.false_eq_true, ↓reduceIte]
  have sorted : firing [cut, raised, surcharged] oneNight = [cut, raised, surcharged] :=
    List.mergeSort_of_pairwise (by decide)
  have computed : ((applyAll? .hundred [cut, raised, surcharged] oneNight).map fun applied =>
      (applied.1.roundMoney, applied.2.map (·.priority))) =
        some (.ofHundredths 11000, [2, 1, 1]) := by
    rw [applyAll?, sorted]
    decide +kernel
  obtain ⟨⟨final, trail⟩, success, outcome⟩ := Option.map_eq_some_iff.mp computed
  obtain ⟨rate, priorities⟩ := Prod.mk.inj outcome
  obtain ⟨congruent, replayed⟩ := applied_by_priority .hundred oneNight
  obtain ⟨order, byPriority, replays, _⟩ := replayed [cut, raised, surcharged]
  exact ⟨same, congruent _ _ same, final, trail, success, rate, priorities, order, byPriority,
    (replays final trail).mp success⟩

end Lodging
