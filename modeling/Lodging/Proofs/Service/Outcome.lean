import Lodging.Service.Availability
import Lodging.Service.Inventory
import Lodging.Service.Quotes
import Lodging.Service.Reservations

/-! # What becomes of a call

A call that gives an answer has passed each of its checks, and its parts can be
taken apart again (`Lodging.Service.run_bind_ok`). A traversal fails with the first
problem (`Lodging.Service.problem?_filterMapM`). A *query* leaves the stores as
they are (`Lodging.Service.IsQuery`). A call that only asks before it makes one write
is *atomic*: it leaves them as they are when it stops (`Lodging.Service.IsAtomic`). One
that may break off after its write is still *traceless*: it leaves them as they are when
it is refused (`Lodging.Service.IsTraceless`). What is asked first keeps a call neither
from the one nor from the other.
-/

namespace Lodging.Service

variable {α β : Type} {circumstance : Circumstance} {backend after : Backend}

/-! ## Calls that give an answer -/

/-- A sequence gives an answer when both its parts do. -/
theorem run_bind_ok {first : Service α} {next : α → Service β} {answer : β} :
    run (first >>= next) circumstance backend = (.ok answer, after) ↔
      ∃ value between, run first circumstance backend = (.ok value, between) ∧
        run (next value) circumstance between = (.ok answer, after) := by
  rw [run_bind]
  rcases run first circumstance backend with ⟨stop | value, between⟩
  · simp only [Prod.mk.injEq, reduceCtorEq, false_and, exists_false]
  · simp only [Prod.mk.injEq, Except.ok.injEq]
    constructor
    · intro rest
      exact ⟨value, between, ⟨rfl, rfl⟩, rest⟩
    · rintro ⟨_, _, ⟨rfl, rfl⟩, rest⟩
      exact rest

/-- Whether a call gives an answer can be computed where answers can be compared. -/
theorem run_ok_of_toOption {call : Service α} {answer : α}
    (given : (run call circumstance backend).1.toOption = some answer) :
    run call circumstance backend = (.ok answer, (run call circumstance backend).2) := by
  rcases outcome : run call circumstance backend with ⟨stop | value, after⟩
  · rw [outcome] at given
    exact nomatch given
  · rw [outcome] at given
    obtain rfl := Option.some.inj given
    rfl

/-- The answer is the value, and nothing has happened. -/
theorem run_pure_ok {value answer : α} :
    run (pure value) circumstance backend = (.ok answer, after) ↔
      answer = value ∧ after = backend := by
  rw [run_pure, Prod.mk.injEq, Except.ok.injEq, eq_comm, eq_comm (a := backend)]

/-- What fails gives no answer. -/
theorem run_fail_ok {problem : Problem} {answer : α} :
    run (fail problem) circumstance backend = (.ok answer, after) ↔ False := by
  simp only [run_fail, Prod.mk.injEq, reduceCtorEq, false_and]

/-- A check passes when it has found no problem. -/
theorem run_refuse_ok {problem : Option Problem} {answer : Unit} :
    run (refuse problem) circumstance backend = (.ok answer, after) ↔
      problem = none ∧ after = backend := by
  cases problem with
  | none => simp only [refuse, run_pure_ok, true_and]
  | some problem => simp only [refuse, run_fail_ok, reduceCtorEq, false_and]

/-- Fields pass when they have no faults. -/
theorem run_refuseFaults_ok {faults : FieldFaults} {answer : Unit} :
    run (refuseFaults faults) circumstance backend = (.ok answer, after) ↔
      faults = [] ∧ after = backend := by
  cases faults with
  | nil => simp only [refuseFaults, List.isEmpty_nil, ↓reduceIte, run_pure_ok, true_and]
  | cons fault rest =>
      simp only [refuseFaults, List.isEmpty_cons, Bool.false_eq_true, ↓reduceIte, run_fail_ok,
        reduceCtorEq, false_and]

/-- The answer is the value that the check has given. -/
theorem run_accept_ok {ε : Type} {problem : ε → Problem} {checked : Except ε α} {answer : α} :
    run (accept problem checked) circumstance backend = (.ok answer, after) ↔
      checked = .ok answer ∧ after = backend := by
  cases checked with
  | error cause => simp only [accept, run_fail_ok, reduceCtorEq, false_and]
  | ok value => simp only [accept, run_pure_ok, Except.ok.injEq, eq_comm (a := answer)]

/-- The answer is what was looked up. -/
theorem run_require_ok {problem : Problem} {found : Option α} {answer : α} :
    run (require problem found) circumstance backend = (.ok answer, after) ↔
      found = some answer ∧ after = backend := by
  cases found with
  | none => simp only [require, run_fail_ok, reduceCtorEq, false_and]
  | some value => simp only [require, run_pure_ok, Option.some.injEq, eq_comm (a := answer)]

/-- A store that can be reached answers what it is asked. -/
theorem run_consult_ok {store : StoreName} {ask : Stores → α} {answer : α} :
    run (consult store ask) circumstance backend = (.ok answer, after) ↔
      circumstance.reachable store = true ∧ answer = ask backend.stores ∧ after = backend := by
  rw [run_consult]
  by_cases reached : circumstance.reachable store = true
  · simp only [reached, ↓reduceIte, Prod.mk.injEq, Except.ok.injEq, true_and, eq_comm]
  · simp only [reached, Bool.false_eq_true, ↓reduceIte, Prod.mk.injEq, reduceCtorEq, false_and]

/-- A write gives an answer when its store can be reached, and then it is made. -/
theorem run_write_ok {store : StoreName} {change : Stores → α × Stores} {answer : α} :
    run (write store change) circumstance backend = (.ok answer, after) ↔
      circumstance.reachable store = true ∧ answer = (change backend.stores).1 ∧
        after = { backend with stores := (change backend.stores).2 } := by
  rw [run_write]
  by_cases reached : circumstance.reachable store = true
  · simp only [reached, ↓reduceIte, Prod.mk.injEq, Except.ok.injEq, true_and, eq_comm]
  · simp only [reached, Bool.false_eq_true, ↓reduceIte, Prod.mk.injEq, reduceCtorEq, false_and]

/-- The time is that of the call. -/
theorem run_now_ok {answer : Instant} :
    run now circumstance backend = (.ok answer, after) ↔
      answer = circumstance.now ∧ after = backend := by
  change run (pure circumstance.now) circumstance backend = (.ok answer, after) ↔ _
  rw [run_pure_ok]

/-- A call knows its circumstance. -/
theorem run_read_ok {answer : Circumstance} :
    run read circumstance backend = (.ok answer, after) ↔
      answer = circumstance ∧ after = backend := by
  change run (pure circumstance) circumstance backend = (.ok answer, after) ↔ _
  rw [run_pure_ok]

/-- Counting a call changes nothing but the counters. -/
theorem run_count_ok {operation : Operation} {answer : Unit} :
    run (count operation) circumstance backend = (.ok answer, after) ↔
      after = { backend with metrics := backend.metrics.record operation 0 } := by
  change ((.ok (), { backend with metrics := _ }) : Except Stop Unit × Backend) = _ ↔ _
  rw [Prod.mk.injEq, Except.ok.injEq, eq_comm (b := after)]
  exact and_iff_right rfl

/-- A choice gives the answer of the part that is chosen. -/
theorem run_ite_ok {condition : Prop} [Decidable condition] {one other : Service α}
    {answer : α} :
    run (if condition then one else other) circumstance backend = (.ok answer, after) ↔
      (condition ∧ run one circumstance backend = (.ok answer, after)) ∨
        (¬ condition ∧ run other circumstance backend = (.ok answer, after)) := by
  by_cases holds : condition
  · simp only [holds, ↓reduceIte, true_and, not_true_eq_false, false_and, or_false]
  · simp only [holds, ↓reduceIte, false_and, not_false_eq_true, true_and, false_or]

/-! ## Calls that stop -/

/-- A sequence ends with a part that stops. -/
theorem run_bind_of_error {first : Service α} {next : α → Service β} {stop : Stop}
    (stopped : run first circumstance backend = (.error stop, after)) :
    run (first >>= next) circumstance backend = (.error stop, after) := by
  rw [run_bind, stopped]

/-- The nights of a stay are looked at without a store. -/
theorem run_nightsOf (stay : Stay) : run (nightsOf stay) circumstance backend =
    ((stay.nights circumstance.maxStayNights).mapError fun refusal => .refused (.stay refusal),
      backend) := by
  change run (accept .stay (stay.nights circumstance.maxStayNights)) circumstance backend = _
  cases stay.nights circumstance.maxStayNights <;> rfl

/-- Asking for the time neither stops nor changes anything. -/
theorem run_now : run now circumstance backend = (.ok circumstance.now, backend) := rfl

/-- Calls that change nothing are made one by one. -/
theorem run_filterMapM {part : α → Service (Option β)} {answer : α → Except Stop (Option β)}
    {values : List α}
    (parts : ∀ value, run (part value) circumstance backend = (answer value, backend)) :
    run (values.filterMapM part) circumstance backend = (values.filterMapM answer, backend) := by
  induction values with
  | nil => rfl
  | cons value rest ih =>
      rw [List.filterMapM_cons, List.filterMapM_cons, run_bind, parts]
      cases answer value with
      | error stop => rfl
      | ok found =>
          cases found with
          | none => exact ih
          | some found =>
              change run (rest.filterMapM part >>= fun results => pure (found :: results)) _ _ = _
              rw [run_bind, ih]
              cases rest.filterMapM answer <;> rfl

/-- The problem in place of an answer. -/
def problem? {ε : Type} : Except ε α → Option ε
  | .ok _ => none
  | .error problem => some problem

/-- The problem is there when the answer is that problem. -/
theorem problem?_eq_some_iff {ε : Type} {answer : Except ε α} {problem : ε} :
    problem? answer = some problem ↔ answer = .error problem := by
  cases answer with
  | ok value => exact iff_of_false nofun nofun
  | error cause => simp only [problem?, Option.some.injEq, Except.error.injEq]

section Traversal

variable {ε : Type} {answer other : α → Except ε (Option β)} {values : List α}

/-- A traversal fails with the first problem. -/
theorem problem?_filterMapM :
    problem? (values.filterMapM answer) = values.findSome? fun value => problem? (answer value) := by
  induction values with
  | nil => rfl
  | cons value rest ih =>
      rw [List.filterMapM_cons, List.findSome?_cons, ← ih]
      cases answer value with
      | error problem => rfl
      | ok found =>
          cases found with
          | none => rfl
          | some found => cases rest.filterMapM answer <;> rfl

/-- A traversal is the same for values that are answered the same. -/
theorem filterMapM_map {alter : α → α}
    (same : ∀ value ∈ values, other (alter value) = answer value) :
    (values.map alter).filterMapM other = values.filterMapM answer := by
  induction values with
  | nil => rfl
  | cons value rest ih =>
      obtain ⟨own, others⟩ := List.forall_mem_cons.mp same
      rw [List.map_cons, List.filterMapM_cons, List.filterMapM_cons, own, ih others]

end Traversal

/-! ## Queries -/

/-- The call leaves the stores as they are, and gives an answer or is refused. -/
structure IsQuery (call : Service α) : Prop where
  stores : ∀ circumstance backend, (run call circumstance backend).2.stores = backend.stores
  settles : ∀ circumstance backend, (run call circumstance backend).1 ≠ .error .overflow

/-- What is asked after a question is part of the query. -/
theorem IsQuery.bind {first : Service α} {next : α → Service β} (before : IsQuery first)
    (rest : ∀ value, IsQuery (next value)) : IsQuery (first >>= next) where
  stores circumstance backend := by
    have same := before.stores circumstance backend
    rw [run_bind]
    rcases outcome : run first circumstance backend with ⟨stop | value, between⟩
    · rwa [outcome] at same
    · rw [outcome] at same
      exact ((rest value).stores circumstance between).trans same
  settles circumstance backend := by
    have settled := before.settles circumstance backend
    rw [run_bind]
    rcases outcome : run first circumstance backend with ⟨stop | value, between⟩
    · rw [outcome] at settled
      exact fun broken => settled (congrArg Except.error (Except.error.inj broken))
    · exact (rest value).settles circumstance between

/-- Where a sequence changes the stores, its query has given an answer. -/
theorem IsQuery.ok_of_changed {first : Service α} {next : α → Service β}
    (before : IsQuery first)
    (changed : (run (first >>= next) circumstance backend).2.stores ≠ backend.stores) :
    ∃ value between, run first circumstance backend = (.ok value, between) := by
  have same := before.stores circumstance backend
  rw [run_bind] at changed
  rcases outcome : run first circumstance backend with ⟨stop | value, between⟩
  · rw [outcome] at changed same
    exact absurd same changed
  · exact ⟨value, between, rfl⟩

/-- A choice between queries is one. -/
theorem IsQuery.ite {condition : Prop} [Decidable condition] {one other : Service α}
    (left : IsQuery one) (right : IsQuery other) :
    IsQuery (if condition then one else other) := by
  split
  · exact left
  · exact right

/-- An answer alone asks nothing. -/
theorem isQuery_pure (value : α) : IsQuery (pure value) := ⟨fun _ _ => rfl, fun _ _ => nofun⟩

/-- A problem is a refusal. -/
theorem isQuery_fail (problem : Problem) : IsQuery (fail problem : Service α) :=
  ⟨fun _ _ => rfl, fun _ _ => nofun⟩

/-- Checks are queries. -/
theorem isQuery_refuse (problem : Option Problem) : IsQuery (refuse problem) := by
  cases problem with
  | none => exact isQuery_pure ()
  | some problem => exact isQuery_fail problem

/-- Checks of fields are queries. -/
theorem isQuery_refuseFaults (faults : FieldFaults) : IsQuery (refuseFaults faults) :=
  .ite (isQuery_pure ()) (isQuery_fail _)

/-- Taking the value of a check is a query. -/
theorem isQuery_accept {ε : Type} (problem : ε → Problem) (checked : Except ε α) :
    IsQuery (accept problem checked) := by
  cases checked with
  | error cause => exact isQuery_fail _
  | ok value => exact isQuery_pure value

/-- Taking what was looked up is a query. -/
theorem isQuery_require (problem : Problem) (found : Option α) :
    IsQuery (require problem found) := by
  cases found with
  | none => exact isQuery_fail problem
  | some value => exact isQuery_pure value

/-- Asking a store is a query. -/
theorem isQuery_consult (store : StoreName) (ask : Stores → α) : IsQuery (consult store ask) where
  stores circumstance backend := by
    rw [run_consult]
  settles circumstance backend := by
    rw [run_consult]
    split
    · exact nofun
    · exact nofun

/-- Counting a call is a query, as the counters are not stored. -/
theorem isQuery_count (operation : Operation) : IsQuery (count operation) :=
  ⟨fun _ _ => rfl, fun _ _ => nofun⟩

/-- Asking for the circumstance is a query. -/
theorem isQuery_read : IsQuery (read : Service Circumstance) :=
  ⟨fun _ _ => rfl, fun _ _ => nofun⟩

/-- Asking for the time is a query. -/
theorem isQuery_now : IsQuery now := ⟨fun _ _ => rfl, fun _ _ => nofun⟩

/-- Looking a room type up is a query. -/
theorem isQuery_roomType (hotel id : Id) : IsQuery (roomType hotel id) :=
  (isQuery_consult _ _).bind fun _ => isQuery_require _ _

/-- Counting the nights of a stay is a query. -/
theorem isQuery_nightsOf (stay : Stay) : IsQuery (nightsOf stay) :=
  isQuery_read.bind fun _ => isQuery_accept _ _

/-- A query of every value is a query. -/
theorem isQuery_forM {part : α → Service PUnit} (parts : ∀ value, IsQuery (part value))
    (values : List α) : IsQuery (values.forM part) := by
  induction values with
  | nil => exact isQuery_pure _
  | cons value rest ih => exact (parts value).bind fun _ => ih

/-- Collecting what queries give is a query. -/
theorem isQuery_filterMapM {part : α → Service (Option β)}
    (parts : ∀ value, IsQuery (part value)) (values : List α) :
    IsQuery (values.filterMapM part) := by
  induction values with
  | nil => exact isQuery_pure []
  | cons value rest ih =>
      rw [List.filterMapM_cons]
      refine (parts value).bind fun found => ?_
      cases found with
      | none => exact ih
      | some found => exact ih.bind fun _ => isQuery_pure _

/-! ## What a call keeps -/

/-- What holds of the stores before the call holds of them after it. -/
def Keeps (property : Stores → Prop) (call : Service α) : Prop :=
  ∀ circumstance backend, property backend.stores →
    property (run call circumstance backend).2.stores

/-- A query keeps everything. -/
theorem IsQuery.keeps {call : Service α} (query : IsQuery call) (property : Stores → Prop) :
    Keeps property call := by
  intro circumstance backend holds
  rw [query.stores]
  exact holds

/-- A sequence keeps what both its parts keep. -/
theorem Keeps.bind {property : Stores → Prop} {first : Service α} {next : α → Service β}
    (before : Keeps property first) (rest : ∀ value, Keeps property (next value)) :
    Keeps property (first >>= next) := by
  intro circumstance backend holds
  have between := before circumstance backend holds
  rw [run_bind]
  rcases outcome : run first circumstance backend with ⟨stop | value, after⟩
  · rwa [outcome] at between
  · rw [outcome] at between
    exact rest value circumstance after between

/-- A choice keeps what both its parts keep. -/
theorem Keeps.ite {property : Stores → Prop} {condition : Prop} [Decidable condition]
    {one other : Service α} (left : Keeps property one) (right : Keeps property other) :
    Keeps property (if condition then one else other) := by
  split
  · exact left
  · exact right

/-! ## Calls that stop before they write -/

/-- A call that stops has been refused, and leaves the stores as they are. -/
structure IsAtomic (call : Service α) : Prop where
  settles : ∀ circumstance backend, (run call circumstance backend).1 ≠ .error .overflow
  stores : ∀ circumstance backend stop, (run call circumstance backend).1 = .error stop →
    (run call circumstance backend).2.stores = backend.stores

/-- The call leaves the stores as they are when it is refused. -/
def IsTraceless (call : Service α) : Prop :=
  ∀ circumstance backend problem,
    (run call circumstance backend).1 = .error (.refused problem) →
      (run call circumstance backend).2.stores = backend.stores

/-- What changes nothing changes nothing when it stops. -/
theorem IsQuery.isAtomic {call : Service α} (query : IsQuery call) : IsAtomic call :=
  ⟨query.settles, fun circumstance backend _ _ => query.stores circumstance backend⟩

/-- To be refused is one way to stop. -/
theorem IsAtomic.isTraceless {call : Service α} (atomic : IsAtomic call) : IsTraceless call :=
  fun circumstance backend problem => atomic.stores circumstance backend (.refused problem)

/-- A sequence that stops has stopped with its first part, or goes on after it and stops
then. -/
theorem run_bind_error {first : Service α} {next : α → Service β} {stop : Stop}
    (stopped : (run (first >>= next) circumstance backend).1 = .error stop) :
    ((run first circumstance backend).1 = .error stop ∧
        run (first >>= next) circumstance backend =
          (.error stop, (run first circumstance backend).2)) ∨
      ∃ value, (run first circumstance backend).1 = .ok value ∧
        run (first >>= next) circumstance backend =
          run (next value) circumstance (run first circumstance backend).2 := by
  rw [run_bind] at stopped ⊢
  rcases ran : run first circumstance backend with ⟨cause | value, between⟩
  · rw [ran] at stopped
    obtain rfl := Except.error.inj stopped
    exact .inl ⟨rfl, rfl⟩
  · exact .inr ⟨value, rfl, rfl⟩

/-- What is asked before a call does not keep it from being atomic. -/
theorem IsQuery.bind_atomic {first : Service α} {next : α → Service β} (before : IsQuery first)
    (rest : ∀ value, IsAtomic (next value)) : IsAtomic (first >>= next) where
  settles circumstance backend broken := by
    rcases run_bind_error broken with ⟨stopped, _⟩ | ⟨value, _, on⟩
    · exact before.settles circumstance backend stopped
    · rw [on] at broken
      exact (rest value).settles _ _ broken
  stores circumstance backend stop stopped := by
    rw [← before.stores circumstance backend]
    rcases run_bind_error stopped with ⟨_, same⟩ | ⟨value, _, on⟩
    · rw [same]
    · rw [on] at stopped ⊢
      exact (rest value).stores _ _ stop stopped

/-- What is asked before a call does not keep it from being traceless. -/
theorem IsQuery.bind_traceless {first : Service α} {next : α → Service β}
    (before : IsQuery first) (rest : ∀ value, IsTraceless (next value)) :
    IsTraceless (first >>= next) := by
  intro circumstance backend problem refused
  rw [← before.stores circumstance backend]
  rcases run_bind_error refused with ⟨_, same⟩ | ⟨value, _, on⟩
  · rw [same]
  · rw [on] at refused ⊢
    exact rest value _ _ problem refused

/-- A choice between atomic calls is atomic. -/
theorem IsAtomic.ite {condition : Prop} [Decidable condition] {one other : Service α}
    (left : IsAtomic one) (right : IsAtomic other) :
    IsAtomic (if condition then one else other) := by
  split
  · exact left
  · exact right

/-- A choice between traceless calls is traceless. -/
theorem IsTraceless.ite {condition : Prop} [Decidable condition] {one other : Service α}
    (left : IsTraceless one) (right : IsTraceless other) :
    IsTraceless (if condition then one else other) := by
  split
  · exact left
  · exact right

/-- A single write is made as a whole or not at all. -/
theorem isAtomic_write (store : StoreName) (change : Stores → α × Stores) :
    IsAtomic (write store change) where
  settles circumstance backend := by
    rw [run_write]
    split
    · exact nofun
    · exact nofun
  stores circumstance backend stop stopped := by
    by_cases reached : circumstance.reachable store = true
    · simp only [run_write, reached, ↓reduceIte, reduceCtorEq] at stopped
    · rw [run_write, if_neg reached]

/-! ## What can no longer be refused -/

/-- The call gives an answer or breaks off. -/
def IsCommitted (call : Service α) : Prop :=
  ∀ circumstance backend problem, (run call circumstance backend).1 ≠ .error (.refused problem)

/-- An answer is not refused. -/
theorem isCommitted_pure (value : α) : IsCommitted (pure value) := fun _ _ _ => nofun

/-- A computation is not refused, whether it overflows or not. -/
theorem isCommitted_computed (value : Option α) : IsCommitted (computed value) := by
  intro circumstance backend problem
  cases value with
  | none => exact nofun
  | some value => exact nofun

/-- A sequence is not refused when none of its parts is. -/
theorem IsCommitted.bind {first : Service α} {next : α → Service β} (before : IsCommitted first)
    (rest : ∀ value, IsCommitted (next value)) : IsCommitted (first >>= next) := by
  intro circumstance backend problem refused
  rcases run_bind_error refused with ⟨stopped, _⟩ | ⟨value, _, on⟩
  · exact before _ _ problem stopped
  · rw [on] at refused
    exact rest value _ _ problem refused

/-- What is computed from a write leaves no trace when it is refused, as that was before the
write. -/
theorem IsTraceless.bind_committed {call : Service α} {next : α → Service β}
    (traceless : IsTraceless call) (rest : ∀ value, IsCommitted (next value)) :
    IsTraceless (call >>= next) := by
  intro circumstance backend problem refused
  rcases run_bind_error refused with ⟨stopped, same⟩ | ⟨value, _, on⟩
  · rw [same]
    exact traceless circumstance backend problem stopped
  · rw [on] at refused
    exact absurd refused (rest value _ _ problem)

/-! ## Calls that go on -/

/-- What has become of a call is not a refusal. -/
def Proceeds (outcome : Except Stop α) : Prop :=
  ∀ problem, outcome ≠ .error (.refused problem)

/-- What proceeds and does not break off is an answer. -/
theorem ok_of_proceeds {outcome : Except Stop α} (proceeds : Proceeds outcome)
    (settled : outcome ≠ .error .overflow) : ∃ answer, outcome = .ok answer := by
  rcases outcome with ⟨problem | _⟩ | answer
  · exact absurd rfl (proceeds problem)
  · exact absurd rfl settled
  · exact ⟨answer, rfl⟩

/-- What does not proceed is refused with a problem. -/
theorem refused_of_not_proceeds {outcome : Except Stop α} (stopped : ¬ Proceeds outcome) :
    ∃ problem, outcome = .error (.refused problem) := by
  rcases outcome with ⟨problem | _⟩ | answer
  · exact ⟨problem, rfl⟩
  · exact absurd (fun _ => nofun) stopped
  · exact absurd (fun _ => nofun) stopped

variable {outcome : Except Stop β}

/-- A sequence that proceeds has the answer of its query. -/
theorem IsQuery.of_run_bind {first : Service α} {next : α → Service β} (before : IsQuery first)
    (proceeds : Proceeds outcome)
    (ran : run (first >>= next) circumstance backend = (outcome, after)) :
    ∃ value between, run first circumstance backend = (.ok value, between) ∧
      run (next value) circumstance between = (outcome, after) := by
  have settled := before.settles circumstance backend
  rw [run_bind] at ran
  rcases first : run first circumstance backend with ⟨stop | value, between⟩
  · rw [first] at ran settled
    obtain ⟨rfl, rfl⟩ := Prod.mk.inj ran
    cases stop with
    | refused problem => exact absurd rfl (proceeds problem)
    | overflow => exact absurd rfl settled
  · rw [first] at ran
    exact ⟨value, between, rfl, ran⟩

/-- A sequence that proceeds has made its write. -/
theorem of_run_write_bind {store : StoreName} {change : Stores → α × Stores}
    {next : α → Service β} (proceeds : Proceeds outcome)
    (ran : run (write store change >>= next) circumstance backend = (outcome, after)) :
    run (next (change backend.stores).1) circumstance
      { backend with stores := (change backend.stores).2 } = (outcome, after) := by
  rw [run_bind, run_write] at ran
  by_cases reached : circumstance.reachable store = true
  · rw [if_pos reached] at ran
    exact ran
  · rw [if_neg reached] at ran
    obtain ⟨rfl, _⟩ := Prod.mk.inj ran
    exact absurd rfl (proceeds _)

end Lodging.Service
