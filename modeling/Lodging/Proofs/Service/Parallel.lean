import Lodging.Proofs.Service.Outcome

/-! # The same call on two stores

A call is run on two stores in the same circumstance. It is *parallel* when it stops on
both for the same reason or gives on both the same answer, up to a renaming, and
leaves stores that are related (`Lodging.Service.Parallel`). It is *steady* when it
gives the very same answer and leaves both stores as they are. What is asked first is
steady, and what is done with the answers only has to be parallel for answers that the
stores give (`Lodging.Service.Steady.bind_parallel`).
-/

namespace Lodging.Service

variable {α β : Type} {one other : Stores} {related middle : Stores → Stores → Prop}
  {rename : α → α}

/-- A value that the call can give on the stores. -/
def Gives (stores : Stores) (call : Service α) (value : α) : Prop :=
  ∃ circumstance backend after, backend.stores = stores ∧
    run call circumstance backend = (.ok value, after)

/-- The call does the same on both stores, up to a renaming of its answer, and leaves
related ones. -/
def Parallel (related : Stores → Stores → Prop) (rename : α → α) (one other : Stores)
    (call : Service α) : Prop :=
  ∀ circumstance left right, left.stores = one → right.stores = other →
    (run call circumstance right).1 = (run call circumstance left).1.map rename ∧
      related (run call circumstance left).2.stores (run call circumstance right).2.stores

/-- The call gives the same answer on both stores and leaves them as they are. -/
def Steady (one other : Stores) (call : Service α) : Prop :=
  Parallel (fun left right => left = one ∧ right = other) id one other call

/-! ## Sequences -/

/-- A sequence is parallel when its parts are, the second on all stores that the first
can leave and for the answers it can give. -/
theorem Parallel.bind {first : Service α} {next : α → Service β} {rename : β → β}
    (before : Parallel middle id one other first)
    (failed : ∀ left right, middle left right → related left right)
    (rest : ∀ value, Gives one first value → ∀ left right, middle left right →
      Parallel related rename left right (next value)) :
    Parallel related rename one other (first >>= next) := by
  intro circumstance left right atOne atOther
  obtain ⟨same, between⟩ := before circumstance left right atOne atOther
  rw [run_bind, run_bind]
  rcases ran : run first circumstance left with ⟨answer, leftAfter⟩
  rcases ranToo : run first circumstance right with ⟨answerToo, rightAfter⟩
  rw [ran, ranToo] at same between
  obtain rfl : answerToo = answer.map id := same
  cases answer with
  | error stop => exact ⟨rfl, failed _ _ between⟩
  | ok value =>
      have given : Gives one first value := ⟨circumstance, left, leftAfter, atOne, ran⟩
      exact rest value given _ _ between circumstance leftAfter rightAfter rfl rfl

/-- What is asked first leaves both stores, and is answered on both alike. -/
theorem Steady.bind_parallel {first : Service α} {next : α → Service β} {rename : β → β}
    (before : Steady one other first) (start : related one other)
    (rest : ∀ value, Gives one first value →
      Parallel related rename one other (next value)) :
    Parallel related rename one other (first >>= next) := by
  refine before.bind ?_ fun value given left right kept => ?_
  · rintro _ _ ⟨rfl, rfl⟩
    exact start
  · rw [kept.1, kept.2]
    exact rest value given

/-- Questions one after another are one question. -/
theorem Steady.bind {first : Service α} {next : α → Service β} (before : Steady one other first)
    (rest : ∀ value, Gives one first value → Steady one other (next value)) :
    Steady one other (first >>= next) :=
  before.bind_parallel ⟨rfl, rfl⟩ rest

/-- A choice between parallel calls is parallel. -/
theorem Parallel.ite {condition : Prop} [Decidable condition] {yes no : Service α}
    (left : Parallel related rename one other yes) (right : Parallel related rename one other no) :
    Parallel related rename one other (if condition then yes else no) := by
  split
  · exact left
  · exact right

/-- What is computed is the same up to the renaming, or overflows on both stores. -/
theorem Parallel.bind_computed {first : Service (Option α)}
    (before : Parallel related (Option.map rename) one other first) :
    Parallel related rename one other (first >>= computed) := by
  intro circumstance left right atOne atOther
  obtain ⟨same, after⟩ := before circumstance left right atOne atOther
  rw [run_bind, run_bind]
  rcases ran : run first circumstance left with ⟨answer, leftAfter⟩
  rcases ranToo : run first circumstance right with ⟨answerToo, rightAfter⟩
  rw [ran, ranToo] at same after
  obtain rfl : answerToo = answer.map (Option.map rename) := same
  cases answer with
  | error stop => exact ⟨rfl, after⟩
  | ok value => cases value <;> exact ⟨rfl, after⟩

/-- A call that leaves the stores leaves them related. -/
theorem Steady.parallel {call : Service α} (steady : Steady one other call)
    (start : related one other) : Parallel related id one other call := by
  intro circumstance left right atOne atOther
  obtain ⟨same, keptLeft, keptRight⟩ := steady circumstance left right atOne atOther
  refine ⟨same, ?_⟩
  rw [keptLeft, keptRight]
  exact start

/-- The answer to a question does not tell which of the stores was asked. -/
theorem Steady.answer {call : Service α} (steady : Steady one other call)
    (circumstance : Circumstance) {left right : Backend} (atOne : left.stores = one)
    (atOther : right.stores = other) :
    (run call circumstance right).1 = (run call circumstance left).1 := by
  have same := (steady circumstance left right atOne atOther).1
  rwa [Except.map_id] at same

/-! ## Parts -/

/-- An answer alone asks no store. -/
theorem steady_pure (value : α) : Steady one other (pure value) :=
  fun _ _ _ atOne atOther => ⟨rfl, atOne, atOther⟩

/-- A refusal alone asks no store. -/
theorem steady_fail (problem : Problem) : Steady one other (fail problem : Service α) :=
  fun _ _ _ atOne atOther => ⟨rfl, atOne, atOther⟩

/-- Where a call fails, nothing is left to be renamed. -/
theorem parallel_fail (problem : Problem) (start : related one other) :
    Parallel related rename one other (fail problem : Service α) := by
  rintro _ _ _ rfl rfl
  exact ⟨rfl, start⟩

/-- Checks are steady. -/
theorem steady_refuse (problem : Option Problem) : Steady one other (refuse problem) := by
  cases problem with
  | none => exact steady_pure ()
  | some problem => exact steady_fail problem

/-- Checks of fields are steady. -/
theorem steady_refuseFaults (faults : FieldFaults) : Steady one other (refuseFaults faults) :=
  .ite (steady_pure ()) (steady_fail _)

/-- Taking the value of a check is steady. -/
theorem steady_accept {ε : Type} (problem : ε → Problem) (checked : Except ε α) :
    Steady one other (accept problem checked) := by
  cases checked with
  | error cause => exact steady_fail _
  | ok value => exact steady_pure value

/-- Taking what was looked up is steady. -/
theorem steady_require (problem : Problem) (found : Option α) :
    Steady one other (require problem found) := by
  cases found with
  | none => exact steady_fail problem
  | some value => exact steady_pure value

/-- Computing is steady, as it breaks off on both stores. -/
theorem steady_computed (value : Option α) : Steady one other (computed value) := by
  cases value with
  | none => exact fun _ _ _ atOne atOther => ⟨rfl, atOne, atOther⟩
  | some value => exact steady_pure value

/-- A question is steady that both stores answer alike. -/
theorem steady_consult (store : StoreName) {ask : Stores → α} (same : ask one = ask other) :
    Steady one other (consult store ask) := by
  rintro circumstance left right rfl rfl
  rw [run_consult, run_consult, same]
  refine ⟨?_, rfl, rfl⟩
  split <;> rfl

/-- Counting a call is steady, as the counters are not stored. -/
theorem steady_count (operation : Operation) : Steady one other (count operation) :=
  fun _ _ _ atOne atOther => ⟨rfl, atOne, atOther⟩

/-- Both calls are made at the same time. -/
theorem steady_now : Steady one other now :=
  fun _ _ _ atOne atOther => ⟨rfl, atOne, atOther⟩

/-- Counting the nights of a stay asks no store. -/
theorem steady_nightsOf (stay : Stay) : Steady one other (nightsOf stay) :=
  fun circumstance => steady_accept _ (stay.nights circumstance.maxStayNights) circumstance

/-- Questions about each value are steady when each of them is. -/
theorem steady_forM {part : α → Service PUnit} (parts : ∀ value, Steady one other (part value))
    (values : List α) : Steady one other (values.forM part) := by
  induction values with
  | nil => exact steady_pure _
  | cons value rest ih => exact (parts value).bind fun _ _ => ih

/-- So are those whose answers are collected. -/
theorem steady_filterMapM {part : α → Service (Option β)} {values : List α}
    (parts : ∀ value ∈ values, Steady one other (part value)) :
    Steady one other (values.filterMapM part) := by
  induction values with
  | nil => exact steady_pure []
  | cons value rest ih =>
      obtain ⟨first, others⟩ := List.forall_mem_cons.mp parts
      rw [List.filterMapM_cons]
      refine first.bind fun found _ => ?_
      cases found with
      | none => exact ih others
      | some found => exact (ih others).bind fun _ _ => steady_pure _

/-- A write is parallel when it is the same for both stores. -/
theorem parallel_write (store : StoreName) {change : Stores → α × Stores}
    (start : related one other)
    (same : (change other).1 = rename (change one).1 ∧
      related (change one).2 (change other).2) :
    Parallel related rename one other (write store change) := by
  rintro circumstance left right rfl rfl
  rw [run_write, run_write]
  split
  · exact ⟨congrArg Except.ok same.1, same.2⟩
  · exact ⟨rfl, start⟩

/-- A store gives what it was asked for. -/
theorem eq_of_gives_consult {store : StoreName} {ask : Stores → α} {value : α}
    (given : Gives one (consult store ask) value) : value = ask one := by
  obtain ⟨_, _, _, rfl, outcome⟩ := given
  exact (run_consult_ok.mp outcome).2.1

end Lodging.Service
