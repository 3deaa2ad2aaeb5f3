import Lodging.Proofs.Service.Course
import Lodging.Proofs.Tenancy.Reach

/-! # Overrides replay their writes

The writes to the override of a plan on a date since it was removed last are all that it
depends on: each of its fields has the value that the last of them has carried, and its id
and the time of its creation are those of the first (`Lodging.RateOverride.IsReplayOf`).
This holds after every course of calls and for all plans and dates, however the writes
come, one by one or several in a request (`Lodging.Course.overrides_replayed`). So a write
may be repeated, and writes that do not set the same field may change places.
-/

namespace Lodging

open Journal

/-! ## What is noted of a write -/

/-- A write to the override of a plan on a date. -/
structure OverrideWrite where
  patch : OverridePatch
  /-- The time of the write. -/
  now : Instant
  /-- The id of the override, if there was none and the write makes it. -/
  id : Id

/-- How writes make an override. -/
def OverrideWrite.merging : Merging (Id × Date) OverrideWrite RateOverride where
  fresh key write := .blank write.id key.1 key.2 write.now
  change write row := write.patch.apply row write.now

/-- Several writes of one request, each with the id that it draws if it has to. -/
def Stores.overrideJournal (stores : Stores) (plan : Id) (now : Instant) :
    List OverridePatch → Journal (Id × Date) OverrideWrite
  | [] => []
  | patch :: rest =>
      .written (plan, patch.date) { patch, now, id := stores.supply.next } ::
        (stores.writeOverride plan patch now).2.overrideJournal plan now rest

/-- The writes to overrides that a call asks for, and the plan that they are for. -/
def Call.overrideWrites? : Call → Option (Id × List OverridePatch)
  | putOverride _ plan patch => some (plan, [patch])
  | putOverrides _ plan patches => some (plan, patches)
  | _ => none

/-- What a call does to overrides if it is accepted. -/
def Event.overrideJournal (event : Event) (backend : Backend) :
    Journal (Id × Date) OverrideWrite :=
  if event.isAccepted backend then
    match event.call with
    | .putOverride _ plan patch =>
        backend.stores.overrideJournal plan event.circumstance.now [patch]
    | .putOverrides _ plan patches =>
        backend.stores.overrideJournal plan event.circumstance.now patches
    | .deleteOverride _ plan date => [.removed (plan, date)]
    | _ => []
  else []

/-! ## The override after a call -/

namespace Stores

variable {stores : Stores} {plan : Id} {now : Instant}

theorem override?_writeOverride_eq_enter (stores : Stores) (plan : Id) (patch : OverridePatch)
    (now : Instant) (key : Id × Date) :
    (stores.writeOverride plan patch now).2.override? key.1 key.2 =
      OverrideWrite.merging.enter key (stores.override? key.1 key.2)
        (.written (plan, patch.date) { patch, now, id := stores.supply.next }) := by
  rw [override?_writeOverride, Merging.enter]
  split
  · rename_i own
    subst own
    rfl
  · rfl

theorem override?_writeOverrides (stores : Stores) (plan : Id) (patches : List OverridePatch)
    (now : Instant) (key : Id × Date) :
    (stores.writeOverrides plan patches now).override? key.1 key.2 =
      (stores.overrideJournal plan now patches).foldl (OverrideWrite.merging.enter key)
        (stores.override? key.1 key.2) := by
  induction patches generalizing stores with
  | nil => rfl
  | cons patch rest ih =>
      rw [overrideJournal, List.foldl_cons, ← override?_writeOverride_eq_enter]
      exact ih (stores.writeOverride plan patch now).2

theorem override?_deleteOverride (stores : Stores) (plan : Id) (date : Date) (key : Id × Date) :
    (stores.deleteOverride plan date).override? key.1 key.2 =
      OverrideWrite.merging.enter key (stores.override? key.1 key.2) (.removed (plan, date)) :=
  find?_filter_of_key (k := (plan, date)) isOverrideOf_iff key

end Stores

/-- A step leaves the overrides, or the call has asked for what it writes or removes. -/
theorem Step.overrides_cases {before after : Stores} {event : Event}
    (step : Step before event after) :
    after.overrides = before.overrides ∨
      (∃ plan patches, event.call.overrideWrites? = some (plan, patches) ∧
        after = before.writeOverrides plan patches event.circumstance.now) ∨
      ∃ hotel plan date, event.call = .deleteOverride hotel plan date ∧
        after = before.deleteOverride plan date := by
  cases step with
  | idle => exact .inl rfl
  | planned _ elsewhere =>
      rw [elsewhere]
      exact .inl rfl
  | overrideWritten circumstance hotel plan patch =>
      exact .inr (.inl ⟨plan, [patch], rfl, rfl⟩)
  | overridesWritten circumstance hotel plan patches =>
      exact .inr (.inl ⟨plan, patches, rfl, rfl⟩)
  | overrideRemoved circumstance hotel plan date =>
      exact .inr (.inr ⟨hotel, plan, date, rfl, rfl⟩)
  | inventoryWritten => exact .inl rfl
  | inventoriesWritten circumstance hotel roomType rooms patches =>
      rw [Stores.onlyInventoryDiffers_writeInventories before roomType patches rooms
        circumstance.now]
      exact .inl rfl
  | statusSet => exact .inl rfl

/-- Calls for other things leave all overrides. -/
theorem Step.overrides_eq {before after : Stores} {event : Event} (step : Step before event after)
    (unwritten : event.call.overrideWrites? = none)
    (unremoved : ∀ hotel plan date, event.call ≠ .deleteOverride hotel plan date) :
    after.overrides = before.overrides := by
  rcases step.overrides_cases with same | ⟨_, _, asked, _⟩ | ⟨hotel, plan, date, asked, _⟩
  · exact same
  · rw [unwritten] at asked
    exact nomatch asked
  · exact absurd asked (unremoved hotel plan date)

/-- Whether overrides can be written depends on the plans and on the stores that answer. -/
theorem Overrides.CanWrite.of_plans_eq {circumstance other : Circumstance}
    {backend elsewhere : Backend} {hotel plan : Id}
    (plans : elsewhere.stores.plans = backend.stores.plans)
    (reachable : other.reachable = circumstance.reachable)
    (able : CanWrite circumstance backend hotel plan) : CanWrite other elsewhere hotel plan := by
  rw [CanWrite, Stores.plan?, plans, reachable]
  exact able

namespace Event

variable {event other : Event} {backend : Backend} {plan : Id} {patches : List OverridePatch}

/-- What a call for writes does when it is accepted. -/
theorem after_of_overrideWrites (asked : event.call.overrideWrites? = some (plan, patches))
    (accepted : event.isAccepted backend = true) :
    event.after backend =
      { backend with
        stores := backend.stores.writeOverrides plan patches event.circumstance.now } := by
  obtain ⟨answer, outcome⟩ := of_isAccepted accepted
  obtain ⟨call, circumstance⟩ := event
  cases call with
  | putOverride hotel plan patch =>
      obtain ⟨rfl, rfl⟩ := Prod.mk.inj (Option.some.inj asked)
      exact (Overrides.run_put_ok.mp outcome).2.2
  | putOverrides hotel plan patches =>
      obtain ⟨rfl, rfl⟩ := Prod.mk.inj (Option.some.inj asked)
      exact (Overrides.run_putAll_ok.mp outcome).2.2
  | _ => exact nomatch asked

/-- A call for writes that is accepted is accepted on all stores with the same plans. -/
theorem isAccepted_of_plans_eq (asked : event.call.overrideWrites? = some (plan, patches))
    (accepted : event.isAccepted backend = true) {elsewhere : Backend}
    (same : elsewhere.stores.plans = backend.stores.plans) :
    event.isAccepted elsewhere = true := by
  obtain ⟨answer, outcome⟩ := of_isAccepted accepted
  obtain ⟨call, circumstance⟩ := event
  cases call with
  | putOverride hotel plan patch =>
      obtain ⟨⟨faultless, able⟩, _⟩ := Overrides.run_put_ok.mp outcome
      exact isAccepted_of_run
        (Overrides.run_put_ok.mpr ⟨⟨faultless, able.of_plans_eq same rfl⟩, rfl, rfl⟩)
  | putOverrides hotel plan patches =>
      obtain ⟨⟨listed, faultless, able⟩, _⟩ := Overrides.run_putAll_ok.mp outcome
      exact isAccepted_of_run
        (Overrides.run_putAll_ok.mpr ⟨⟨listed, faultless, able.of_plans_eq same rfl⟩, rfl, rfl⟩)
  | _ => exact nomatch asked

/-- A call that gives no answer leaves all overrides: it is refused, or it breaks off after
writes to the ledger. -/
theorem overrides_of_not_accepted (stopped : event.isAccepted backend = false) :
    (event.after backend).stores.overrides = backend.stores.overrides := by
  cases asked : event.call.inventoryWrites? with
  | none => rw [stores_of_not_accepted asked stopped]
  | some writes =>
      refine (event.step backend).overrides_eq ?_ fun hotel plan date other => ?_
      · cases called : event.call with
        | putInventory | putInventories => rfl
        | _ => exact absurd asked (called ▸ nofun)
      · rw [other] at asked
        exact nomatch asked

/-- The override of a plan on a date follows what is noted of the calls. -/
theorem override?_after (event : Event) (backend : Backend) (key : Id × Date) :
    (event.after backend).stores.override? key.1 key.2 =
      (event.overrideJournal backend).foldl (OverrideWrite.merging.enter key)
        (backend.stores.override? key.1 key.2) := by
  cases accepted : event.isAccepted backend with
  | false =>
      rw [overrideJournal, accepted, Stores.override?, Stores.override?,
        overrides_of_not_accepted accepted]
      rfl
  | true =>
      rw [overrideJournal, if_pos accepted]
      have step := event.step backend
      obtain ⟨call, circumstance⟩ := event
      cases call with
      | putOverride hotel plan patch =>
          rw [after_of_overrideWrites rfl accepted]
          exact Stores.override?_writeOverrides _ _ _ _ key
      | putOverrides hotel plan patches =>
          rw [after_of_overrideWrites rfl accepted]
          exact Stores.override?_writeOverrides _ _ _ _ key
      | deleteOverride hotel plan date =>
          obtain ⟨_, outcome⟩ := of_isAccepted accepted
          rw [(Overrides.delete_written outcome).2]
          exact Stores.override?_deleteOverride _ _ _ key
      | _ =>
          rw [Stores.override?, step.overrides_eq rfl fun _ _ _ => nofun]
          rfl

end Event

/-! ## The fields of an override -/

/-- The fields of an override that writes carry. -/
structure OverrideFields where
  rate : Option Decimal
  stopSell : Bool
  minStay : Option Int
  reason : Option String
deriving DecidableEq

def RateOverride.fields (row : RateOverride) : OverrideFields where
  rate := row.rate
  stopSell := row.stopSell
  minStay := row.minStay
  reason := row.reason

namespace OverrideFields

/-- The fields of an override that nothing has been written to. -/
def blank : OverrideFields where
  rate := none
  stopSell := false
  minStay := none
  reason := none

/-- Each field has the last value that writes carry for it, and else the one it had. -/
def writtenOver (patches : List OverridePatch) (before : OverrideFields) :
    OverrideFields where
  rate := (lastCarried? (·.rate) patches).or before.rate
  stopSell := (lastCarried? (·.stopSell) patches).getD before.stopSell
  minStay := (lastCarried? (·.minStay) patches).or before.minStay
  reason := (lastCarried? (·.reason) patches).or before.reason

/-- The fields that writes leave; the first one makes the row if there is none. -/
def after (patches : List OverridePatch) (stored : Option OverrideFields) :
    Option OverrideFields :=
  if patches = [] then stored else some (writtenOver patches (stored.getD blank))

variable {first second : List OverridePatch} {before : OverrideFields}

theorem writtenOver_writtenOver :
    writtenOver second (writtenOver first before) = writtenOver (first ++ second) before := by
  simp only [writtenOver, lastCarried?_append, Option.or_assoc, Option.getD_or]

theorem after_after (stored : Option OverrideFields) :
    after second (after first stored) = after (first ++ second) stored := by
  cases first with
  | nil => rfl
  | cons one rest =>
      cases second with
      | nil => rw [List.append_nil, after, if_pos rfl]
      | cons other others =>
          rw [after, after, after, if_neg (List.cons_ne_nil _ _), if_neg (List.cons_ne_nil _ _),
            if_neg (List.append_ne_nil_of_left_ne_nil (List.cons_ne_nil _ _) _),
            Option.getD_some, writtenOver_writtenOver]

/-- Writes that are repeated leave what they have left. -/
theorem after_self (patches : List OverridePatch) (stored : Option OverrideFields) :
    after patches (after patches stored) = after patches stored := by
  rw [after_after, after, after]
  cases patches with
  | nil => rfl
  | cons patch rest =>
      rw [if_neg (List.append_ne_nil_of_left_ne_nil (List.cons_ne_nil _ _) _),
        if_neg (List.cons_ne_nil _ _)]
      simp only [writtenOver, lastCarried?_append_self]

end OverrideFields

/-- No field is set by both writes. -/
structure OverridePatch.Apart (one other : OverridePatch) : Prop where
  rate : one.rate = none ∨ other.rate = none
  stopSell : one.stopSell = none ∨ other.stopSell = none
  minStay : one.minStay = none ∨ other.minStay = none
  reason : one.reason = none ∨ other.reason = none

/-- Writes that are apart may change places. -/
theorem OverrideFields.after_comm {first second : List OverridePatch}
    (apart : ∀ one ∈ first, ∀ other ∈ second, one.Apart other) (stored : Option OverrideFields) :
    after second (after first stored) = after first (after second stored) := by
  have same : writtenOver (first ++ second) = writtenOver (second ++ first) := by
    funext before
    simp only [writtenOver]
    rw [lastCarried?_append_comm fun one here other there => (apart one here other there).rate,
      lastCarried?_append_comm fun one here other there => (apart one here other there).stopSell,
      lastCarried?_append_comm fun one here other there => (apart one here other there).minStay,
      lastCarried?_append_comm fun one here other there => (apart one here other there).reason]
  rw [after_after, after_after, after, after, same]
  simp only [List.append_eq_nil_iff, and_comm]

theorem OverridePatch.fields_apply (patch : OverridePatch) (row : RateOverride) (now : Instant) :
    (patch.apply row now).fields = OverrideFields.writtenOver [patch] row.fields := by
  simp only [OverrideFields.writtenOver, lastCarried?_singleton]
  rfl

namespace Stores

/-- The fields of the override of a plan on a date. -/
def overrideFields? (stores : Stores) (plan : Id) (date : Date) : Option OverrideFields :=
  (stores.override? plan date).map (·.fields)

theorem overrideFields?_writeOverride (stores : Stores) (plan : Id) (patch : OverridePatch)
    (now : Instant) (key : Id × Date) :
    (stores.writeOverride plan patch now).2.overrideFields? key.1 key.2 =
      OverrideFields.after (if (plan, patch.date) = key then [patch] else [])
        (stores.overrideFields? key.1 key.2) := by
  rw [overrideFields?, override?_writeOverride_eq_enter, Merging.enter, overrideFields?]
  split
  · rw [OverrideFields.after, if_neg (List.cons_ne_nil _ _), Merging.write, Option.map_some]
    congr 1
    cases stores.override? key.1 key.2 with
    | none => exact OverridePatch.fields_apply _ _ _
    | some row => exact OverridePatch.fields_apply _ _ _
  · rfl

/-- Several writes leave the fields that those for the plan and the date leave. -/
theorem overrideFields?_writeOverrides (stores : Stores) (plan : Id)
    (patches : List OverridePatch) (now : Instant) (key : Id × Date) :
    (stores.writeOverrides plan patches now).overrideFields? key.1 key.2 =
      OverrideFields.after (patches.filter fun patch => (plan, patch.date) = key)
        (stores.overrideFields? key.1 key.2) := by
  induction patches generalizing stores with
  | nil => rfl
  | cons patch rest ih =>
      have later := ih (stores.writeOverride plan patch now).2
      rw [overrideFields?_writeOverride, OverrideFields.after_after] at later
      refine later.trans ?_
      rw [List.filter_cons]
      congr 1
      by_cases own : (plan, patch.date) = key
      · simp only [own, ↓reduceIte, decide_true, List.singleton_append]
      · simp only [own, ↓reduceIte, decide_false, List.nil_append, Bool.false_eq_true]

end Stores

/-! ## Courses -/

/-- The override is what the writes to it have made. -/
structure RateOverride.IsReplayOf (row : RateOverride) (writes : List OverrideWrite) : Prop where
  /-- The first of them has made it. -/
  made : ∃ first, writes.head? = some first ∧ row.id = first.id ∧ row.createdAt = first.now
  rate : row.rate = lastCarried? (·.patch.rate) writes
  stopSell : row.stopSell = (lastCarried? (·.patch.stopSell) writes).getD false
  minStay : row.minStay = lastCarried? (·.patch.minStay) writes
  reason : row.reason = lastCarried? (·.patch.reason) writes

theorem RateOverride.isReplayOf (key : Id × Date) (writes : List OverrideWrite)
    (row : RateOverride) (made : writes.foldl (OverrideWrite.merging.write key) none = some row) :
    row.IsReplayOf writes := by
  obtain ⟨first, head, _⟩ := Merging.of_foldl_write made
  constructor
  case made =>
    exact ⟨first, head, Merging.kept_of_made made head (·.id) fun _ _ => rfl,
      Merging.kept_of_made made head (·.createdAt) fun _ _ => rfl⟩
  case rate =>
    exact Merging.shown_of_made_or made head (·.patch.rate) (·.rate) (fun _ _ => rfl) rfl
  case stopSell =>
    exact Merging.shown_of_made made head (·.patch.stopSell) (·.stopSell) fun _ _ => rfl
  case minStay =>
    exact Merging.shown_of_made_or made head (·.patch.minStay) (·.minStay) (fun _ _ => rfl) rfl
  case reason =>
    exact Merging.shown_of_made_or made head (·.patch.reason) (·.reason) (fun _ _ => rfl) rfl

/-- The overrides are what a journal leads to. -/
def Stores.ReplaysOverrides (stores : Stores) (journal : Journal (Id × Date) OverrideWrite) :
    Prop :=
  journal.IsShownBy (·.plan) (·.date) RateOverride.IsReplayOf stores.overridesIn

/-- A step keeps one override for a plan and a date. -/
theorem Step.overridesApart {before after : Stores} {event : Event}
    (step : Step before event after) (apart : (before.overrides.map (·.key)).Nodup) :
    (after.overrides.map (·.key)).Nodup := by
  rcases step.overrides_cases with same | ⟨plan, patches, _, rfl⟩ | ⟨_, plan, date, _, rfl⟩
  · rw [same]
    exact apart
  · exact Stores.nodup_writeOverrides apart plan patches event.circumstance.now
  · exact apart.sublist (List.filter_sublist.map _)

/-- Two calls write overrides, and never the same field of the same override. -/
def Call.OverridesApart (one other : Call) : Prop :=
  ∃ plan patches otherPlan otherPatches,
    one.overrideWrites? = some (plan, patches) ∧
      other.overrideWrites? = some (otherPlan, otherPatches) ∧
        (plan = otherPlan → ∀ patch ∈ patches, ∀ otherPatch ∈ otherPatches,
          patch.date = otherPatch.date → patch.Apart otherPatch)

namespace Event

variable {one other : Event} {backend : Backend}

/-- The fields of an override after a call for writes that is accepted. -/
theorem overrideFields?_after {event : Event} {plan : Id} {patches : List OverridePatch}
    (asked : event.call.overrideWrites? = some (plan, patches))
    (accepted : event.isAccepted backend = true) (key : Id × Date) :
    (event.after backend).stores.overrideFields? key.1 key.2 =
      OverrideFields.after (patches.filter fun patch => (plan, patch.date) = key)
        (backend.stores.overrideFields? key.1 key.2) := by
  rw [after_of_overrideWrites asked accepted]
  exact Stores.overrideFields?_writeOverrides _ _ _ _ key

/-- A write that is repeated, be it accepted or not, changes no field any more. -/
theorem overrideFields?_repeated {plan : Id} {patches : List OverridePatch}
    (asked : one.call.overrideWrites? = some (plan, patches)) (same : other.call = one.call)
    (accepted : one.isAccepted backend = true) (key : Id × Date) :
    (other.after (one.after backend)).stores.overrideFields? key.1 key.2 =
      (one.after backend).stores.overrideFields? key.1 key.2 := by
  cases again : other.isAccepted (one.after backend) with
  | false =>
      rw [Stores.overrideFields?, Stores.overrideFields?, Stores.override?, Stores.override?,
        overrides_of_not_accepted again]
  | true =>
      rw [overrideFields?_after (same ▸ asked) again, overrideFields?_after asked accepted,
        OverrideFields.after_self]

/-- Writes that never set the same field of the same override may change places. -/
theorem overrideFields?_comm (apart : one.call.OverridesApart other.call)
    (first : one.isAccepted backend = true) (second : other.isAccepted backend = true)
    (key : Id × Date) :
    (other.after (one.after backend)).stores.overrideFields? key.1 key.2 =
      (one.after (other.after backend)).stores.overrideFields? key.1 key.2 := by
  obtain ⟨plan, patches, otherPlan, otherPatches, asked, askedToo, apart⟩ := apart
  have plans {event : Event} {id : Id} {written : List OverridePatch}
      (asked : event.call.overrideWrites? = some (id, written))
      (accepted : event.isAccepted backend = true) :
      (event.after backend).stores.plans = backend.stores.plans := by
    rw [after_of_overrideWrites asked accepted]
    exact (Stores.Unmoved.writeOverrides _ _ _ _).plans
  rw [overrideFields?_after askedToo (isAccepted_of_plans_eq askedToo second (plans asked first)),
    overrideFields?_after asked first,
    overrideFields?_after asked (isAccepted_of_plans_eq asked first (plans askedToo second)),
    overrideFields?_after askedToo second]
  refine OverrideFields.after_comm (fun patch here otherPatch there => ?_) _
  obtain ⟨present, own⟩ := List.mem_filter.mp here
  obtain ⟨presentToo, ownToo⟩ := List.mem_filter.mp there
  obtain ⟨plans, dates⟩ :=
    Prod.mk.inj ((of_decide_eq_true own).trans (of_decide_eq_true ownToo).symm)
  exact apart plans patch present otherPatch presentToo dates

end Event

/-- **Overrides are a replay of their writes.** After every course of calls on a store
without overrides, they are those that the accepted writes and removals lead to. A write
that is repeated changes no field, and the order of two writes that never set the same
field of the same override does not matter. -/
theorem Course.overrides_replayed (course : Course) {start : Backend}
    (unwritten : start.stores.overrides = []) :
    (course.after start).stores.ReplaysOverrides (course.notes Event.overrideJournal start) ∧
    (∀ (write again : Event) (backend : Backend), write.call.overrideWrites?.isSome →
      again.call = write.call → write.isAccepted backend = true → ∀ plan date,
        (again.after (write.after backend)).stores.overrideFields? plan date =
          (write.after backend).stores.overrideFields? plan date) ∧
    (∀ (one other : Event) (backend : Backend), one.call.OverridesApart other.call →
      one.isAccepted backend = true → other.isAccepted backend = true → ∀ plan date,
        (other.after (one.after backend)).stores.overrideFields? plan date =
          (one.after (other.after backend)).stores.overrideFields? plan date) := by
  refine ⟨?_, ?_, ?_⟩
  · apply OverrideWrite.merging.isShownBy RateOverride.isReplayOf
    · apply course.invariant fun stores => (stores.overrides.map (·.key)).Nodup
      · exact fun event _ backend apart => (event.step backend).overridesApart apart
      · exact fun _ _ _ apart => apart
      · rw [unwritten]
        exact List.nodup_nil
    · intro key
      have followed := view_after (fun stores => stores.override? key.1 key.2)
        (fun event backend => event.override?_after backend key) (fun _ _ => rfl) course start
      have missing : start.stores.override? key.1 key.2 = none := by
        rw [Stores.override?, unwritten, List.find?_nil]
      rw [missing] at followed
      exact followed
  · intro write again backend asks same accepted plan date
    obtain ⟨asked, found⟩ := Option.isSome_iff_exists.mp asks
    exact Event.overrideFields?_repeated found same accepted (plan, date)
  · intro one other backend apart first second plan date
    exact Event.overrideFields?_comm apart first second (plan, date)

namespace Sample

/-- A night is stopped. -/
def closing : Event where
  call := .putOverride ⟨1⟩ bar { OverridePatch.forDate ⟨10⟩ with stopSell := some true }
  circumstance := circumstance

/-- The night gets a rate and a reason, one after the other, and the next one gets a
shortest stay. -/
def pricing : Event where
  call := .putOverrides ⟨1⟩ bar
    [{ OverridePatch.forDate ⟨10⟩ with rate := some .hundred },
      { OverridePatch.forDate ⟨11⟩ with minStay := some 2 },
      { OverridePatch.forDate ⟨10⟩ with rate := some .zero, reason := some "Gala" }]
  circumstance := circumstance

/-- The override of the night is removed. -/
def reopening : Event where
  call := .deleteOverride ⟨1⟩ bar ⟨10⟩
  circumstance := circumstance

end Sample

open Sample in
/-- After the override of a night has been removed, only what is written later counts; the
other night keeps its own. -/
theorem Course.overrides_replayed_after_removal :
    let course : Course := [.called pricing, .called reopening, .called closing]
    (course.after housed).stores.ReplaysOverrides (course.notes Event.overrideJournal housed) ∧
    (course.after housed).stores.overrideFields? bar ⟨10⟩ =
      some { OverrideFields.blank with stopSell := true } ∧
    (course.after housed).stores.overrideFields? bar ⟨11⟩ =
      some { OverrideFields.blank with minStay := some 2 } ∧
    pricing.isAccepted housed = true ∧ closing.isAccepted housed = true ∧
    (∀ plan date, (pricing.after (pricing.after housed)).stores.overrideFields? plan date =
      (pricing.after housed).stores.overrideFields? plan date) ∧
    ∀ plan date, (closing.after (pricing.after housed)).stores.overrideFields? plan date =
      (pricing.after (closing.after housed)).stores.overrideFields? plan date := by
  intro course
  have unwritten : housed.stores.overrides = [] := by decide +kernel
  have priced : pricing.isAccepted housed = true := by decide +kernel
  have closed : closing.isAccepted housed = true := by decide +kernel
  have apart : pricing.call.OverridesApart closing.call := by
    refine ⟨bar, _, bar, _, rfl, rfl, fun _ patch member other otherMember _ => ?_⟩
    obtain rfl := List.mem_singleton.mp otherMember
    simp only [List.mem_cons, List.not_mem_nil, or_false] at member
    rcases member with rfl | rfl | rfl <;> exact ⟨.inr rfl, .inl rfl, .inr rfl, .inr rfl⟩
  obtain ⟨replayed, repeated, commuting⟩ := overrides_replayed course unwritten
  exact ⟨replayed, by decide +kernel, by decide +kernel, priced, closed,
    repeated pricing pricing housed rfl rfl priced,
    commuting pricing closing housed apart priced closed⟩

end Lodging
