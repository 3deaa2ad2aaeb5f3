import Lodging.Proofs.Journal
import Lodging.Proofs.Service.Step

/-! # Courses of events

A course is a history in which the directory may be revised between the calls, as it is
kept elsewhere: rooms are added and closed while the ledger is written. What each call
does can be noted (`Lodging.Course.notes`); where a view of the stores follows the notes of
every single call, it follows those of the whole course (`Lodging.Course.view_after`). A
course in which no call breaks off is unbroken (`Lodging.Course.IsUnbroken`).
-/

namespace Lodging

/-! ## What becomes of a call -/

namespace Event

/-- The call gives an answer. -/
def isAccepted (event : Event) (backend : Backend) : Bool :=
  (event.call.perform.run event.circumstance backend).1.toOption.isSome

/-- The call is refused with a problem. -/
def isRefused (event : Event) (backend : Backend) : Bool :=
  match (event.call.perform.run event.circumstance backend).1 with
  | .error (.refused _) => true
  | _ => false

/-- The call breaks off. -/
def breaksOff (event : Event) (backend : Backend) : Bool :=
  match (event.call.perform.run event.circumstance backend).1 with
  | .error .overflow => true
  | _ => false

variable {event : Event} {backend : Backend}

theorem of_isAccepted (accepted : event.isAccepted backend = true) :
    ∃ answer, event.call.perform.run event.circumstance backend =
      (.ok answer, event.after backend) := by
  obtain ⟨answer, given⟩ := Option.isSome_iff_exists.mp accepted
  exact ⟨answer, Service.run_ok_of_toOption given⟩

theorem isAccepted_of_run {answer : event.call.Answer} {after : Backend}
    (outcome : event.call.perform.run event.circumstance backend = (.ok answer, after)) :
    event.isAccepted backend = true := by
  rw [isAccepted, outcome]
  rfl

/-- A call that is not refused goes on. -/
theorem proceeds_of_not_refused (proceeding : event.isRefused backend = false) :
    Service.Proceeds (event.call.perform.run event.circumstance backend).1 := by
  intro problem refused
  rw [isRefused, refused] at proceeding
  exact nomatch proceeding

/-- A call that gives an answer is not refused. -/
theorem not_refused_of_isAccepted (accepted : event.isAccepted backend = true) :
    event.isRefused backend = false := by
  obtain ⟨answer, outcome⟩ := of_isAccepted accepted
  rw [isRefused, outcome]

/-- A call that gives an answer does not break off. -/
theorem not_breaksOff_of_isAccepted (accepted : event.isAccepted backend = true) :
    event.breaksOff backend = false := by
  obtain ⟨answer, outcome⟩ := of_isAccepted accepted
  rw [breaksOff, outcome]

/-- A call that is refused does not break off. -/
theorem not_breaksOff_of_refused (refused : event.isRefused backend = true) :
    event.breaksOff backend = false := by
  rw [isRefused] at refused
  split at refused
  next problem stopped => rw [breaksOff, stopped]
  next => exact nomatch refused

/-- Only calls that write to the ledger break off. -/
theorem not_breaksOff_of_unwritten (unwritten : event.call.inventoryWrites? = none) :
    event.breaksOff backend = false := by
  have settled := (event.call.isAtomic unwritten).settles event.circumstance backend
  rw [breaksOff]
  split
  next broken => exact absurd broken settled
  next => rfl

/-- A call that is refused leaves the stores as they were. -/
theorem stores_of_refused (refused : event.isRefused backend = true) :
    (event.after backend).stores = backend.stores := by
  rw [isRefused] at refused
  split at refused
  next problem stopped =>
    exact event.call.isTraceless event.circumstance backend problem stopped
  next => exact nomatch refused

/-- A call that writes nothing to the ledger leaves the stores as they were if it gives no
answer. -/
theorem stores_of_not_accepted (unwritten : event.call.inventoryWrites? = none)
    (stopped : event.isAccepted backend = false) :
    (event.after backend).stores = backend.stores := by
  have atomic := (event.call.isAtomic unwritten).stores event.circumstance backend
  rw [isAccepted] at stopped
  rw [after]
  rcases outcome : event.call.perform.run event.circumstance backend with ⟨stop | answer, after⟩
  · rw [outcome] at atomic
    exact atomic stop rfl
  · rw [outcome] at stopped
    exact nomatch stopped

end Event

/-! ## Courses -/

/-- What happens: the system is called, or the directory behind it is revised. -/
inductive Occurrence where
  | called (event : Event)
  | revised (directory : Directory)

/-- The backend after what has happened. -/
def Occurrence.after : Occurrence → Backend → Backend
  | called event, backend => event.after backend
  | revised directory, backend => { backend with stores := { backend.stores with directory } }

/-- What happens one after another. -/
abbrev Course := List Occurrence

namespace Course

variable {ν β : Type}

/-- The backend after a course. -/
def after (course : Course) (backend : Backend) : Backend :=
  course.foldl (fun backend occurrence => occurrence.after backend) backend

/-- What is noted of the calls of a course, each on what the earlier ones have left. -/
def notes (note : Event → Backend → List ν) : Course → Backend → List ν
  | [], _ => []
  | .called event :: rest, backend => note event backend ++ notes note rest (event.after backend)
  | .revised directory :: rest, backend =>
      notes note rest ((Occurrence.revised directory).after backend)

/-- What each call and each revision of a course keeps is kept by all of them. -/
theorem invariant (property : Stores → Prop) (course : Course)
    (called : ∀ event, .called event ∈ course → ∀ backend : Backend, property backend.stores →
      property (event.after backend).stores)
    (revised : ∀ directory, .revised directory ∈ course → ∀ stores : Stores, property stores →
      property { stores with directory })
    (start : Backend) (initial : property start.stores) :
    property (course.after start).stores := by
  induction course generalizing start with
  | nil => exact initial
  | cons occurrence rest ih =>
      apply ih
      · intro event member
        exact called event (List.mem_cons_of_mem occurrence member)
      · intro directory member
        exact revised directory (List.mem_cons_of_mem occurrence member)
      · cases occurrence with
        | called event => exact called event List.mem_cons_self start initial
        | revised directory => exact revised directory List.mem_cons_self start.stores initial

/-- What holds of all notes of a call on stores with a property that the course keeps holds
of all notes of the course. -/
theorem forall_notes {note : Event → Backend → List ν} {holds : ν → Prop}
    (property : Stores → Prop) (course : Course)
    (called : ∀ event, .called event ∈ course → ∀ backend : Backend, property backend.stores →
      property (event.after backend).stores ∧ ∀ entry ∈ note event backend, holds entry)
    (revised : ∀ directory, .revised directory ∈ course → ∀ stores : Stores, property stores →
      property { stores with directory })
    (start : Backend) (initial : property start.stores) :
    ∀ entry ∈ course.notes note start, holds entry := by
  induction course generalizing start with
  | nil => exact fun _ member => nomatch member
  | cons occurrence rest ih =>
      have later := ih (fun event member => called event (List.mem_cons_of_mem occurrence member))
        fun directory member => revised directory (List.mem_cons_of_mem occurrence member)
      cases occurrence with
      | called event =>
          obtain ⟨kept, noted⟩ := called event List.mem_cons_self start initial
          intro entry member
          rcases List.mem_append.mp member with own | other
          · exact noted entry own
          · exact later (event.after start) kept entry other
      | revised directory =>
          exact later _ (revised directory List.mem_cons_self start.stores initial)

/-- What is noted of each call alike, for all of its notes of the one and of the other kind,
is alike for all notes of the course. -/
theorem forall_notes_iff {α : Type} {note : Event → Backend → List ν} {holds : ν → Prop}
    {other : Event → Backend → List α} {holdsToo : α → Prop}
    (called : ∀ event backend,
      (∀ entry ∈ note event backend, holds entry) ↔ ∀ entry ∈ other event backend, holdsToo entry)
    (course : Course) (start : Backend) :
    (∀ entry ∈ course.notes note start, holds entry) ↔
      ∀ entry ∈ course.notes other start, holdsToo entry := by
  induction course generalizing start with
  | nil => exact iff_of_true (fun _ member => nomatch member) fun _ member => nomatch member
  | cons occurrence rest ih =>
      cases occurrence with
      | called event =>
          rw [notes, notes, List.forall_mem_append, List.forall_mem_append, called, ih]
      | revised directory => exact ih ((Occurrence.revised directory).after start)

/-- No call of the course breaks off. -/
def IsUnbroken (course : Course) (start : Backend) : Prop :=
  ∀ broken ∈ course.notes (fun event backend => [event.breaksOff backend]) start, broken = false

instance (course : Course) (start : Backend) : Decidable (course.IsUnbroken start) :=
  inferInstanceAs (Decidable (∀ broken ∈ _, _))

/-- A view that follows the notes of each call follows those of a course. -/
theorem view_after {note : Event → Backend → List ν} {enter : β → ν → β} (view : Stores → β)
    (called : ∀ (event : Event) (backend : Backend),
      view (event.after backend).stores = (note event backend).foldl enter (view backend.stores))
    (revised : ∀ (stores : Stores) (directory : Directory),
      view { stores with directory } = view stores)
    (course : Course) (start : Backend) :
    view (course.after start).stores =
      (course.notes note start).foldl enter (view start.stores) := by
  induction course generalizing start with
  | nil => rfl
  | cons occurrence rest ih =>
      cases occurrence with
      | called event =>
          rw [notes, List.foldl_append, ← called]
          exact ih (event.after start)
      | revised directory =>
          rw [notes, ← revised start.stores directory]
          exact ih ((Occurrence.revised directory).after start)

end Course

end Lodging
