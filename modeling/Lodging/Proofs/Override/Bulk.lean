import Lodging.Proofs.Override.Replay

/-! # Several writes in one request

A request with several writes to overrides is checked as a whole before the first write is
made, while calls with one write each are checked in between. But a check looks at the write
and at the plan alone, and no write to overrides changes a plan. So the request is accepted
exactly if the calls are, all of them and one after another, and then it leaves the overrides
that they leave (`Lodging.Overrides.putAll_one_by_one`). Their ids and times are not the same,
since every call has its own time.
-/

namespace Lodging

/-! ## What overrides say -/

/-- What an override says, of which plan and date. Its id and the times of its writes are left
out. -/
abbrev OverrideContent := (Id × Date) × OverrideFields

def RateOverride.content (row : RateOverride) : OverrideContent :=
  (row.key, row.fields)

/-- The write to the override of a plan as one to what overrides say. -/
def OverridePatch.enter (plan : Id) (contents : List OverrideContent) (patch : OverridePatch) :
    List OverrideContent :=
  Stores.upsert (fun entry => entry.1.1 == plan && entry.1.2 == patch.date)
    ((plan, patch.date), .blank) (fun entry => (entry.1, .writtenOver [patch] entry.2)) contents

namespace Stores

variable {stores between after : Stores} {plan : Id}

/-- What all overrides say. -/
def overrideContents (stores : Stores) : List OverrideContent :=
  stores.overrides.map (·.content)

theorem overrideContents_writeOverride (stores : Stores) (plan : Id) (patch : OverridePatch)
    (now : Instant) :
    (stores.writeOverride plan patch now).2.overrideContents =
      patch.enter plan stores.overrideContents :=
  map_upsert (fun _ => rfl) (fun row => Prod.ext rfl (patch.fields_apply row now)) rfl

/-- What overrides say after several writes depends neither on the time nor on ids. -/
theorem overrideContents_writeOverrides (stores : Stores) (plan : Id)
    (patches : List OverridePatch) (now : Instant) :
    (stores.writeOverrides plan patches now).overrideContents =
      patches.foldl (OverridePatch.enter plan) stores.overrideContents := by
  induction patches generalizing stores with
  | nil => rfl
  | cons patch rest ih =>
      rw [List.foldl_cons, ← overrideContents_writeOverride stores plan patch now]
      exact ih (stores.writeOverride plan patch now).2

theorem OnlyOverridesDiffer.trans (later : after.OnlyOverridesDiffer between)
    (earlier : between.OnlyOverridesDiffer stores) : after.OnlyOverridesDiffer stores := by
  rw [OnlyOverridesDiffer, later, earlier]

end Stores

/-! ## Calls one after another -/

namespace History

variable {history : History} {hotel plan : Id} {patches : List OverridePatch}
  {circumstance : Circumstance} {backend : Backend}

/-- Each of the calls is accepted on what the earlier ones have left. -/
def isAccepted : History → Backend → Bool
  | [], _ => true
  | event :: rest, backend => event.isAccepted backend && isAccepted rest (event.after backend)

/-- Each of the calls makes one of the writes in its order, at some time, while the same stores
answer as in the circumstance. -/
def WritesSingly (history : History) (hotel plan : Id) (patches : List OverridePatch)
    (circumstance : Circumstance) : Prop :=
  List.Forall₂ (fun event patch => event.call = .putOverride hotel plan patch ∧
    event.circumstance.reachable = circumstance.reachable) history patches

end History

namespace Event

variable {event : Event} {hotel plan : Id} {patch : OverridePatch} {backend : Backend}

theorem isAccepted_putOverride_iff (asked : event.call = .putOverride hotel plan patch) :
    event.isAccepted backend = true ↔
      patch.faults = [] ∧ Overrides.CanWrite event.circumstance backend hotel plan := by
  obtain ⟨_, circumstance⟩ := event
  obtain rfl := asked
  constructor
  · intro accepted
    obtain ⟨_, outcome⟩ := of_isAccepted accepted
    exact (Overrides.run_put_ok.mp outcome).1
  · exact fun able => isAccepted_of_run (Overrides.run_put_ok.mpr ⟨able, rfl, rfl⟩)

theorem isAccepted_putOverrides_iff {circumstance : Circumstance} {patches : List OverridePatch} :
    (Event.mk (.putOverrides hotel plan patches) circumstance).isAccepted backend = true ↔
      patches ≠ [] ∧ (∀ patch ∈ patches, patch.faults = []) ∧
        Overrides.CanWrite circumstance backend hotel plan := by
  have listed : OverridePatch.listFaults patches = [] ↔ patches ≠ [] := by
    cases patches with
    | nil => exact ⟨nofun, fun some => absurd rfl some⟩
    | cons patch rest => exact ⟨fun _ => List.cons_ne_nil _ _, fun _ => rfl⟩
  rw [← listed]
  constructor
  · intro accepted
    obtain ⟨_, outcome⟩ := of_isAccepted accepted
    exact (Overrides.run_putAll_ok.mp outcome).1
  · exact fun able => isAccepted_of_run (Overrides.run_putAll_ok.mpr ⟨able, rfl, rfl⟩)

/-- A single write that is accepted. -/
theorem after_of_putOverride (asked : event.call = .putOverride hotel plan patch)
    (accepted : event.isAccepted backend = true) :
    event.after backend = { backend with
      stores := (backend.stores.writeOverride plan patch event.circumstance.now).2 } :=
  after_of_overrideWrites (congrArg Call.overrideWrites? asked) accepted

end Event

namespace History

variable {history : History} {hotel plan : Id} {patches : List OverridePatch}
  {circumstance : Circumstance} {backend : Backend}

/-- As long as overrides can be written, single writes are refused for their faults only. -/
theorem isAccepted_iff (singly : history.WritesSingly hotel plan patches circumstance)
    (able : Overrides.CanWrite circumstance backend hotel plan) :
    history.isAccepted backend = true ↔ ∀ patch ∈ patches, patch.faults = [] := by
  induction singly generalizing backend with
  | nil => exact ⟨fun _ _ member => (nomatch member), fun _ => rfl⟩
  | @cons event patch rest others own _ ih =>
      obtain ⟨asked, reachable⟩ := own
      have first : event.isAccepted backend = true ↔ patch.faults = [] := by
        rw [Event.isAccepted_putOverride_iff asked]
        exact and_iff_left (able.of_plans_eq rfl reachable)
      rw [isAccepted, Bool.and_eq_true, List.forall_mem_cons, first]
      refine and_congr_right fun faultless => ih ?_
      refine able.of_plans_eq ?_ rfl
      rw [Event.after_of_putOverride asked (first.mpr faultless)]
      rfl

/-- The first of the calls finds whether overrides can be written. -/
theorem canWrite_of_isAccepted (present : patches ≠ [])
    (singly : history.WritesSingly hotel plan patches circumstance)
    (accepted : history.isAccepted backend = true) :
    Overrides.CanWrite circumstance backend hotel plan := by
  cases singly with
  | nil => exact absurd rfl present
  | cons own _ =>
      rw [isAccepted, Bool.and_eq_true, Event.isAccepted_putOverride_iff own.1] at accepted
      exact accepted.1.2.of_plans_eq rfl own.2.symm

/-- What single writes leave that are accepted. -/
theorem after_of_isAccepted (singly : history.WritesSingly hotel plan patches circumstance)
    (accepted : history.isAccepted backend = true) :
    (history.after backend).stores.OnlyOverridesDiffer backend.stores ∧
      (history.after backend).stores.overrideContents =
        patches.foldl (OverridePatch.enter plan) backend.stores.overrideContents := by
  induction singly generalizing backend with
  | nil => exact ⟨rfl, rfl⟩
  | @cons event patch rest others own _ ih =>
      rw [isAccepted, Bool.and_eq_true] at accepted
      obtain ⟨first, later⟩ := accepted
      obtain ⟨differ, contents⟩ := ih later
      have written := Event.after_of_putOverride own.1 first
      constructor
      · refine differ.trans ?_
        rw [written]
        rfl
      · refine contents.trans ?_
        rw [written, List.foldl_cons, Stores.overrideContents_writeOverride]

end History

/-! ## Requests -/

namespace Overrides

open Service

/-- A request is accepted exactly if single calls are. -/
theorem isAccepted_iff_singles {hotel plan : Id} {patches : List OverridePatch}
    {circumstance : Circumstance} {singles : History} (present : patches ≠ [])
    (singly : singles.WritesSingly hotel plan patches circumstance) (backend : Backend) :
    (Event.mk (.putOverrides hotel plan patches) circumstance).isAccepted backend = true ↔
      singles.isAccepted backend = true := by
  rw [Event.isAccepted_putOverrides_iff]
  constructor
  · rintro ⟨_, faultless, able⟩
    exact (History.isAccepted_iff singly able).mpr faultless
  · intro accepted
    have able := History.canWrite_of_isAccepted present singly accepted
    exact ⟨present, (History.isAccepted_iff singly able).mp accepted, able⟩

/-- **Several writes in one request.** The request is accepted exactly if single calls are, one
after another on what the earlier ones leave. Then it gives the number of writes and leaves what
the calls leave: overrides that say the same, and everything else as it was. A request that is
not accepted leaves all stores as they were. -/
theorem putAll_one_by_one {hotel plan : Id} {patches : List OverridePatch}
    {circumstance : Circumstance} {singles : History} (present : patches ≠ [])
    (singly : singles.WritesSingly hotel plan patches circumstance) (backend : Backend) :
    let request : Event := ⟨.putOverrides hotel plan patches, circumstance⟩
    (request.isAccepted backend = true ↔ singles.isAccepted backend = true) ∧
    (singles.isAccepted backend = true →
      run (putAll hotel plan patches) circumstance backend =
        (.ok patches.length, request.after backend) ∧
      (request.after backend).stores.overrideContents =
        (singles.after backend).stores.overrideContents ∧
      (request.after backend).stores.OnlyOverridesDiffer backend.stores ∧
      (singles.after backend).stores.OnlyOverridesDiffer backend.stores) ∧
    (singles.isAccepted backend = false → (request.after backend).stores = backend.stores) := by
  intro request
  have asked : request.call.overrideWrites? = some (plan, patches) := rfl
  have same : request.isAccepted backend = true ↔ singles.isAccepted backend = true :=
    isAccepted_iff_singles present singly backend
  refine ⟨same, fun accepted => ?_, fun refused => ?_⟩
  · have taken := same.mpr accepted
    obtain ⟨count, outcome⟩ := Event.of_isAccepted taken
    obtain rfl := (run_putAll_ok.mp outcome).2.1
    obtain ⟨differ, contents⟩ := History.after_of_isAccepted singly accepted
    have written := Event.after_of_overrideWrites asked taken
    refine ⟨outcome, ?_, ?_, differ⟩
    · rw [contents, written, Stores.overrideContents_writeOverrides]
    · rw [written]
      exact Stores.onlyOverridesDiffer_writeOverrides _ _ _ _
  · refine Event.stores_of_not_accepted rfl (Bool.eq_false_iff.mpr fun taken => ?_)
    rw [same.mp taken] at refused
    exact nomatch refused

end Overrides

namespace Sample

/-- A night gets a rate and then another one with a reason, with a write to the next night in
between. -/
def gala : List OverridePatch :=
  [{ OverridePatch.forDate ⟨10⟩ with rate := some .hundred },
    { OverridePatch.forDate ⟨11⟩ with stopSell := some true },
    { OverridePatch.forDate ⟨10⟩ with rate := some .zero, reason := some "Gala" }]

/-- The second of two writes has a fault. -/
def faulty : List OverridePatch :=
  [{ OverridePatch.forDate ⟨10⟩ with rate := some .hundred },
    { OverridePatch.forDate ⟨11⟩ with minStay := some 0 }]

/-- Each write is made on the day for which it is. -/
def singly (patches : List OverridePatch) : History :=
  patches.map fun patch =>
    { call := .putOverride ⟨1⟩ bar patch
      circumstance := { circumstance with now := ⟨patch.date, 0, 0⟩ } }

theorem writesSingly_singly (patches : List OverridePatch) :
    (singly patches).WritesSingly ⟨1⟩ bar patches circumstance :=
  List.forall₂_map_left_iff.mpr (List.forall₂_same.mpr fun _ _ => ⟨rfl, rfl⟩)

end Sample

open Sample Service in
/-- Three writes to two nights leave two overrides, and other times if they are made one by
one. Of two writes the first is made if they are made one by one, but none in one request. -/
theorem Overrides.putAll_one_by_one_on_two_nights :
    let request (patches : List OverridePatch) : Event :=
      ⟨.putOverrides ⟨1⟩ bar patches, circumstance⟩
    run (putAll ⟨1⟩ bar gala) circumstance housed = (.ok 3, (request gala).after housed) ∧
    ((request gala).after housed).stores.overrideContents =
      [((bar, ⟨10⟩), { OverrideFields.blank with rate := some .zero, reason := some "Gala" }),
        ((bar, ⟨11⟩), { OverrideFields.blank with stopSell := true })] ∧
    ((request gala).after housed).stores.overrideContents =
      ((singly gala).after housed).stores.overrideContents ∧
    ((request gala).after housed).stores.overrides ≠
      ((singly gala).after housed).stores.overrides ∧
    (request faulty).isAccepted housed = false ∧
    ((request faulty).after housed).stores = housed.stores ∧
    ((singly faulty).after housed).stores.overrideContents =
      [((bar, ⟨10⟩), { OverrideFields.blank with rate := some .hundred })] := by
  intro request
  have accepted : (singly gala).isAccepted housed = true := by decide +kernel
  have refused : (singly faulty).isAccepted housed = false := by decide +kernel
  obtain ⟨_, made, _⟩ := putAll_one_by_one (List.cons_ne_nil _ _) (writesSingly_singly gala) housed
  obtain ⟨outcome, same, _⟩ := made accepted
  obtain ⟨both, _, untouched⟩ :=
    putAll_one_by_one (List.cons_ne_nil _ _) (writesSingly_singly faulty) housed
  refine ⟨outcome, by decide +kernel, same, by decide +kernel, ?_, untouched refused,
    by decide +kernel⟩
  exact Bool.eq_false_iff.mpr fun taken => Bool.eq_false_iff.mp refused (both.mp taken)

end Lodging
