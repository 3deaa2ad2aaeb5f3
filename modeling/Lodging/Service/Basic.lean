import Lodging.Metrics
import Lodging.Problem
import Lodging.Stores

/-! # Service calls

A service call reads and changes the stores under the circumstances it is made in
and gives an answer, unless it stops: it is refused with a problem, or it breaks off
because a sum overflows. What it has changed by then stays changed, so that a call
leaves no trace when it is refused is a property of each service, not of the calls as
such. Every access to a store goes through `Service.consult` or `Service.write`,
which fail when the store does not answer; how a call runs is said part by part
(`Service.run_bind`).
-/

namespace Lodging

/-- The stores and the counters of the system. -/
structure Backend where
  stores : Stores
  metrics : Metrics
deriving Repr, Inhabited

/-- What a call depends on besides the stores. -/
structure Circumstance where
  /-- The time of the call. -/
  now : Instant
  /-- Which stores answer. -/
  reachable : StoreName → Bool
  /-- The share of a subtotal that is due as tax. -/
  taxRate : Decimal
  /-- The most nights of a stay. -/
  maxStayNights : Nat

/-- Why a call gives no answer. -/
inductive Stop where
  /-- The request is refused. -/
  | refused (problem : Problem)
  /-- A sum leaves the range of its numbers, and the call breaks off. -/
  | overflow
deriving Repr

/-- A call that may stop. -/
abbrev Service := ReaderT Circumstance (ExceptT Stop (StateM Backend))

namespace Service

variable {α : Type}

/-- The answer of a call and the backend after it. -/
def run (service : Service α) (circumstance : Circumstance) (backend : Backend) :
    Except Stop α × Backend :=
  Id.run (((ReaderT.run service circumstance).run).run backend)

def fail (problem : Problem) : Service α :=
  throw (.refused problem)

/-- A value that has been computed; where its computation has overflowed, the call
breaks off. -/
def computed (value : Option α) : Service α :=
  match value with
  | some value => pure value
  | none => throw .overflow

/-- Fails when a check has found a problem. -/
def refuse (problem : Option Problem) : Service Unit :=
  match problem with
  | some problem => fail problem
  | none => pure ()

def refuseFaults (faults : FieldFaults) : Service Unit :=
  if faults.isEmpty then pure () else fail (.invalidFields faults)

/-- A value that a check gives, or the problem it has found. -/
def accept {ε : Type} (problem : ε → Problem) (checked : Except ε α) : Service α :=
  match checked with
  | .ok value => pure value
  | .error cause => fail (problem cause)

/-- A value that was looked up, or the problem that there is none. -/
def require (problem : Problem) (found : Option α) : Service α :=
  match found with
  | some value => pure value
  | none => fail problem

/-- Asks a store. -/
def consult (store : StoreName) (ask : Stores → α) : Service α := do
  if (← read).reachable store then
    let backend ← get
    pure (ask backend.stores)
  else fail (.unreachable store)

/-- Writes to a store. -/
def write (store : StoreName) (change : Stores → α × Stores) : Service α := do
  if (← read).reachable store then
    modifyGet fun backend =>
      let (answer, stores) := change backend.stores
      (answer, { backend with stores })
  else fail (.unreachable store)

/-- Counts a call, which takes no time of its own. -/
def count (operation : Operation) : Service Unit :=
  modify fun backend => { backend with metrics := backend.metrics.record operation 0 }

def now : Service Instant := do
  pure (← read).now

def roomType (hotel id : Id) : Service RoomType := do
  require (.notFound .roomType id.display) (← consult .directory (·.directory.roomType? hotel id))

/-- The nights of a stay that is not too long. -/
def nightsOf (stay : Stay) : Service Nat := do
  accept .stay (stay.nights (← read).maxStayNights)

/-! ## What the parts of a call do when it is run -/

variable {β : Type}

/-- A call that only gives an answer leaves the backend alone. -/
@[simp] theorem run_pure (answer : α) (circumstance : Circumstance) (backend : Backend) :
    run (pure answer) circumstance backend = (.ok answer, backend) := rfl

/-- A call goes on with the answer of its first part, unless that stops. -/
theorem run_bind (first : Service α) (next : α → Service β) (circumstance : Circumstance)
    (backend : Backend) :
    run (first >>= next) circumstance backend =
      match run first circumstance backend with
      | (.ok answer, after) => run (next answer) circumstance after
      | (.error stop, after) => (.error stop, after) := by
  simp only [run, ReaderT.run, ExceptT.run, StateT.run, Id.run, bind, ReaderT.bind,
    ExceptT.bind, ExceptT.mk, StateT.bind]
  rcases first circumstance backend with ⟨stop | answer, after⟩ <;> rfl

/-- A call that fails leaves the backend as it is by then. -/
@[simp] theorem run_fail (problem : Problem) (circumstance : Circumstance)
    (backend : Backend) :
    run (fail problem : Service α) circumstance backend = (.error (.refused problem), backend) :=
  rfl

/-- A call that breaks off leaves the backend as it is by then as well. -/
theorem run_computed (value : Option α) (circumstance : Circumstance) (backend : Backend) :
    run (computed value) circumstance backend =
      (match value with
        | some value => .ok value
        | none => .error .overflow, backend) := by
  cases value <;> rfl

/-- Asking a store changes nothing. -/
@[simp] theorem run_consult (store : StoreName) (ask : Stores → α)
    (circumstance : Circumstance) (backend : Backend) :
    run (consult store ask) circumstance backend =
      (if circumstance.reachable store then .ok (ask backend.stores)
        else .error (.refused (.unreachable store)), backend) := by
  rw [consult, run_bind]
  change run (if circumstance.reachable store then _ else _) circumstance backend = _
  split <;> rfl

/-- A write changes the stores only if its store answers. -/
theorem run_write (store : StoreName) (change : Stores → α × Stores)
    (circumstance : Circumstance) (backend : Backend) :
    run (write store change) circumstance backend =
      if circumstance.reachable store then
        (.ok (change backend.stores).1, { backend with stores := (change backend.stores).2 })
      else (.error (.refused (.unreachable store)), backend) := by
  rw [write, run_bind]
  change run (if circumstance.reachable store then _ else _) circumstance backend = _
  split <;> rfl

end Service

end Lodging
