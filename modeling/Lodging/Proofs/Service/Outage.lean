import Lodging.Proofs.Service.Atomic

/-! # Calls while no store answers

Every call asks a store before it gives an answer, and what it checks before that is read off
the request alone. So while no store answers a call fails: with the first flaw of the request
(`Lodging.Call.flaw?`) if there is one, and else with the store that it asks first
(`Lodging.Call.fails_of_outage`).
-/

namespace Lodging

/-! ## What is wrong with a request by itself -/

/-- The problem that fields fail their checks. -/
def Problem.ofFaults? (faults : FieldFaults) : Option Problem :=
  if faults.isEmpty then none else some (.invalidFields faults)

/-- The problem that a range of dates ends before it starts. -/
def Problem.ofRange? (first last : Date) : Option Problem :=
  if last < first then some .reversedRange else none

/-- The fields and the bounds of the terms of a new plan. -/
def NewPlan.flaw? (request : NewPlan) : Option Problem :=
  (Problem.ofFaults? request.faults).or (request.terms.reversedBounds?.map .reversedBounds)

/-- The fields and the bounds of a write to the ledger. -/
def InventoryPatch.flaw? (patch : InventoryPatch) : Option Problem :=
  (Problem.ofFaults? patch.faults).or (patch.reversedBounds?.map .reversedBounds)

namespace Call

/-- The first thing that is wrong with a request, as far as the request alone tells. -/
def flaw? : Call → Option Problem
  | createPlan _ request => request.flaw?
  | updatePlan _ _ patch => Problem.ofFaults? patch.faults
  | putOverride _ _ patch => Problem.ofFaults? patch.faults
  | putOverrides _ _ patches =>
      (Problem.ofFaults? (OverridePatch.listFaults patches)).or
        (patches.findSome? fun patch => Problem.ofFaults? patch.faults)
  | putInventory _ _ patch => patch.flaw?
  | putInventories _ _ patches =>
      (Problem.ofFaults? (InventoryPatch.listFaults patches)).or
        (patches.findSome? InventoryPatch.flaw?)
  | getOverrides _ _ first last | getInventory _ _ first last => Problem.ofRange? first last
  | deletePlan .. | getPlan .. | listPlans .. | applicablePlans .. | deleteOverride ..
  | checkAvailability .. | calculate .. | getReservation .. | setStatus .. => none

/-- The store that a call asks before all others. -/
def firstStore : Call → StoreName
  | createPlan .. | putInventory .. | putInventories .. | getInventory .. | checkAvailability ..
  | calculate .. => .directory
  | updatePlan .. | deletePlan .. | getPlan .. | listPlans .. | applicablePlans ..
  | putOverride .. | putOverrides .. | deleteOverride .. | getOverrides .. => .ratePlans
  | getReservation .. | setStatus .. => .reservations

end Call

/-- The problem is one that a request has by itself. -/
inductive Problem.IsFlaw : Problem → Prop where
  | invalidFields (faults : FieldFaults) : IsFlaw (.invalidFields faults)
  | reversedBounds (bounds : ReversedBounds) : IsFlaw (.reversedBounds bounds)
  | reversedRange : IsFlaw .reversedRange

namespace Problem

theorem ofFaults?_isFlaw {faults : FieldFaults} {problem : Problem}
    (flawed : ofFaults? faults = some problem) : problem.IsFlaw := by
  rw [ofFaults?] at flawed
  split at flawed
  · exact nomatch flawed
  · obtain rfl := Option.some.inj flawed
    exact .invalidFields faults

theorem ofRange?_isFlaw {first last : Date} {problem : Problem}
    (flawed : ofRange? first last = some problem) : problem.IsFlaw := by
  rw [ofRange?] at flawed
  split at flawed
  · obtain rfl := Option.some.inj flawed
    exact .reversedRange
  · exact nomatch flawed

/-- Fields come before bounds. -/
theorem isFlaw_of_or {faults : FieldFaults} {bounds : Option ReversedBounds} {problem : Problem}
    (flawed : (ofFaults? faults).or (bounds.map .reversedBounds) = some problem) :
    problem.IsFlaw := by
  rcases Option.or_eq_some_iff.mp flawed with invalid | ⟨_, reversed⟩
  · exact ofFaults?_isFlaw invalid
  · obtain ⟨bounds, _, rfl⟩ := Option.map_eq_some_iff.mp reversed
    exact .reversedBounds bounds

end Problem

theorem Call.flaw?_isFlaw {call : Call} {problem : Problem} (flawed : call.flaw? = some problem) :
    problem.IsFlaw := by
  cases call with
  | createPlan hotel request =>
      rw [flaw?, NewPlan.flaw?] at flawed
      exact Problem.isFlaw_of_or flawed
  | updatePlan hotel plan patch => exact Problem.ofFaults?_isFlaw flawed
  | putOverride hotel plan patch => exact Problem.ofFaults?_isFlaw flawed
  | putOverrides hotel plan patches =>
      rcases Option.or_eq_some_iff.mp flawed with invalid | ⟨_, listed⟩
      · exact Problem.ofFaults?_isFlaw invalid
      · obtain ⟨patch, _, invalid⟩ := List.exists_of_findSome?_eq_some listed
        exact Problem.ofFaults?_isFlaw invalid
  | putInventory hotel roomType patch => exact Problem.isFlaw_of_or flawed
  | putInventories hotel roomType patches =>
      rcases Option.or_eq_some_iff.mp flawed with invalid | ⟨_, listed⟩
      · exact Problem.ofFaults?_isFlaw invalid
      · obtain ⟨patch, _, flawed⟩ := List.exists_of_findSome?_eq_some listed
        exact Problem.isFlaw_of_or flawed
  | getOverrides hotel plan first last => exact Problem.ofRange?_isFlaw flawed
  | getInventory hotel roomType first last => exact Problem.ofRange?_isFlaw flawed
  | _ => exact nomatch flawed

/-! ## Checks of the request come down to one -/

namespace Service

variable {α β : Type} {circumstance : Circumstance}

theorem refuseFaults_eq (faults : FieldFaults) :
    refuseFaults faults = refuse (Problem.ofFaults? faults) := by
  cases faults <;> rfl

theorem refuse_bind_refuse (first second : Option Problem) :
    (refuse first >>= fun _ => refuse second) = refuse (first.or second) := by
  cases first <;> rfl

/-- Checks of several values fail with the first flaw. -/
theorem forM_refuse (flaw : α → Option Problem) (values : List α) :
    (values.forM fun value => refuse (flaw value)) = refuse (values.findSome? flaw) := by
  induction values with
  | nil => rfl
  | cons value rest ih =>
      change (refuse (flaw value) >>= fun _ => rest.forM fun value => refuse (flaw value)) = _
      rw [ih, refuse_bind_refuse, List.findSome?_cons]
      cases flaw value <;> rfl

/-! ## Calls that fail whatever is stored -/

/-- The call is refused with the problem, whatever is stored. -/
def Fails (circumstance : Circumstance) (call : Service α) (problem : Problem) : Prop :=
  ∀ backend, (run call circumstance backend).1 = .error (.refused problem)

theorem Fails.bind {first : Service α} {problem : Problem}
    (failing : Fails circumstance first problem) {next : α → Service β} :
    Fails circumstance (first >>= next) problem := by
  intro backend
  have failed := failing backend
  rw [run_bind]
  rcases outcome : run first circumstance backend with ⟨cause | value, between⟩
  · rw [outcome] at failed
    exact congrArg Except.error (Except.error.inj failed)
  · rw [outcome] at failed
    exact nomatch failed

/-- A check comes before what fails in any case. -/
theorem Fails.checked {next : Unit → Service α} {problem : Problem}
    (failing : Fails circumstance (next ()) problem) (flaw : Option Problem) :
    Fails circumstance (refuse flaw >>= next) (flaw.getD problem) := by
  intro backend
  cases flaw with
  | some flaw => rfl
  | none => exact failing backend

theorem Fails.counted {next : Unit → Service α} {problem : Problem}
    (failing : Fails circumstance (next ()) problem) (operation : Operation) :
    Fails circumstance (count operation >>= next) problem :=
  fun _ => failing _

/-- A store that does not answer is the problem. -/
theorem fails_consult {store : StoreName} (down : circumstance.reachable store = false)
    (ask : Stores → α) : Fails circumstance (consult store ask) (.unreachable store) := by
  intro backend
  rw [run_consult, if_neg (Bool.eq_false_iff.mp down)]

theorem fails_roomType (down : circumstance.reachable .directory = false) (hotel id : Id) :
    Fails circumstance (roomType hotel id) (.unreachable .directory) :=
  (fails_consult down _).bind

end Service

theorem RatePlans.fails_get {circumstance : Circumstance}
    (down : circumstance.reachable .ratePlans = false) (hotel id : Id) :
    Service.Fails circumstance (RatePlans.get hotel id) (.unreachable .ratePlans) :=
  (Service.fails_consult down _).bind

theorem Reservations.fails_get {circumstance : Circumstance}
    (down : circumstance.reachable .reservations = false) (hotel id : Id) :
    Service.Fails circumstance (Reservations.get hotel id) (.unreachable .reservations) :=
  (Service.fails_consult down _).bind

/-! ## All calls -/

theorem Inventory.checkPatch_eq (patch : InventoryPatch) :
    Inventory.checkPatch patch = Service.refuse patch.flaw? := by
  rw [Inventory.checkPatch, Service.refuseFaults_eq, Service.refuse_bind_refuse]
  rfl

open Service in
/-- While no store answers, a call fails with what is wrong with the request, or else with
the store that it asks first. -/
theorem Call.fails_of_outage (call : Call) {circumstance : Circumstance}
    (down : ∀ store, circumstance.reachable store = false) :
    Fails circumstance call.perform (call.flaw?.getD (.unreachable call.firstStore)) := by
  have plan := RatePlans.fails_get (down .ratePlans)
  have room := fails_roomType (down .directory)
  have reservation := Reservations.fails_get (down .reservations)
  cases call with
  | createPlan hotel request =>
      rw [perform, RatePlans.create, refuseFaults_eq, flaw?, NewPlan.flaw?, Option.getD_or]
      exact .checked (.checked (room hotel request.roomType).bind _) _
  | updatePlan hotel id patch =>
      rw [perform, RatePlans.update, refuseFaults_eq]
      exact .checked (plan hotel id).bind _
  | deletePlan hotel id => exact (plan hotel id).bind
  | getPlan hotel id => exact plan hotel id
  | listPlans hotel roomType =>
      rw [perform, RatePlans.list]
      exact fails_consult (down .ratePlans) _
  | applicablePlans hotel request =>
      rw [perform, RatePlans.applicable]
      exact fails_consult (down .ratePlans) _
  | putOverride hotel id patch =>
      rw [perform, Overrides.put, refuseFaults_eq]
      exact .checked (plan hotel id).bind _
  | putOverrides hotel id patches =>
      have each : (patches.forM fun patch => refuseFaults patch.faults) =
          refuse (patches.findSome? fun patch => Problem.ofFaults? patch.faults) := by
        simp only [refuseFaults_eq, forM_refuse]
      rw [perform, Overrides.putAll, refuseFaults_eq, each, flaw?, Option.getD_or]
      exact .checked (.checked (plan hotel id).bind _) _
  | deleteOverride hotel id date => exact (plan hotel id).bind
  | getOverrides hotel id first last =>
      rw [perform, Overrides.inRange, Overrides.checkRange]
      exact .checked (plan hotel id).bind _
  | putInventory hotel id patch =>
      rw [perform, Inventory.put, Inventory.checkPatch_eq]
      exact .checked (room hotel id).bind _
  | putInventories hotel id patches =>
      have each : patches.forM Inventory.checkPatch =
          refuse (patches.findSome? InventoryPatch.flaw?) := by
        rw [← forM_refuse, funext Inventory.checkPatch_eq]
      rw [perform, Inventory.putAll, refuseFaults_eq, each, flaw?, Option.getD_or]
      exact .checked (.checked (room hotel id).bind _) _
  | getInventory hotel id first last =>
      rw [perform, Inventory.inRange, Overrides.checkRange]
      exact .checked (room hotel id).bind _
  | checkAvailability hotel id stay => exact .counted (room hotel id).bind _
  | calculate hotel request => exact .counted (room hotel request.roomType).bind _
  | getReservation hotel id => exact reservation hotel id
  | setStatus hotel id status => exact (reservation hotel id).bind

end Lodging
