import Mathlib.Data.List.Destutter
import Mathlib.Logic.Relation
import Lodging.Proofs.Reservation.DeletedPlans
import Lodging.Proofs.Service.Course

/-! # Reservations follow the workflow

Whatever is called, in whatever order and for whatever reservations, the statuses of one
reservation are a walk along the arrows of the workflow (`Lodging.ReservationStatus.IsWalk`), on
which it may stay for any time at each status. Every arrow brings a reservation nearer to its end
(`Lodging.ReservationStatus.Follows.stepsLeft_lt`), so there are three at most, and none leads
back to a status that holds rooms. A call changes at most the one reservation that it names, and
the time of change with the status only (`Lodging.Event.Moves`).
-/

namespace Lodging

namespace ReservationStatus

variable {one other third : ReservationStatus} {statuses : List ReservationStatus}

/-! ## The workflow -/

/-- The arrows of the workflow. -/
inductive Follows : ReservationStatus → ReservationStatus → Prop where
  | confirm : Follows .pending .confirmed
  | withdraw : Follows .pending .cancelled
  | checkIn : Follows .confirmed .checkedIn
  | cancel : Follows .confirmed .cancelled
  | miss : Follows .confirmed .noShow
  | checkOut : Follows .checkedIn .checkedOut

theorem leadsTo_iff : one.leadsTo other = true ↔ Follows one other := by
  constructor
  · intro leads
    cases one <;> cases other <;> first | constructor | exact nomatch leads
  · rintro (_ | _) <;> rfl

/-- A status that no arrow leaves. -/
def IsFinal (status : ReservationStatus) : Prop :=
  status = .checkedOut ∨ status = .cancelled ∨ status = .noShow

/-- The most arrows that there are from a status on. -/
def stepsLeft : ReservationStatus → Nat
  | .pending => 3
  | .confirmed => 2
  | .checkedIn => 1
  | .checkedOut | .cancelled | .noShow => 0

theorem Follows.stepsLeft_lt (follows : Follows one other) : other.stepsLeft < one.stepsLeft := by
  cases follows <;> decide

theorem Follows.ne (follows : Follows one other) : one ≠ other := by
  rintro rfl
  exact Nat.lt_irrefl _ follows.stepsLeft_lt

theorem IsFinal.not_follows (final : one.IsFinal) : ¬ Follows one other := by
  intro follows
  have fewer := follows.stepsLeft_lt
  rcases final with rfl | rfl | rfl <;> exact Nat.not_lt_zero _ fewer

/-- An arrow from a status that holds rooms leads to another one, or to an end. -/
theorem Follows.of_holdsInventory (follows : Follows one other)
    (holds : one.holdsInventory = true) : other.holdsInventory = true ∨ other.IsFinal := by
  cases follows with
  | confirm => exact nomatch holds
  | withdraw => exact nomatch holds
  | checkIn => exact .inl rfl
  | cancel => exact .inr (.inr (.inl rfl))
  | miss => exact .inr (.inr (.inr rfl))
  | checkOut => exact .inr (.inl rfl)

/-- Arrows lead from one status to another. -/
abbrev Reaches : ReservationStatus → ReservationStatus → Prop :=
  Relation.ReflTransGen Follows

theorem IsFinal.eq_of_reaches (final : one.IsFinal) (reaches : Reaches one other) :
    other = one := by
  induction reaches with
  | refl => rfl
  | tail _ follows same => exact absurd (same ▸ follows) final.not_follows

theorem Reaches.of_holdsInventory (reaches : Reaches one other)
    (holds : one.holdsInventory = true) : other.holdsInventory = true ∨ other.IsFinal := by
  induction reaches with
  | refl => exact .inl holds
  | tail _ follows before =>
      rcases before with held | final
      · exact follows.of_holdsInventory held
      · exact absurd follows final.not_follows

/-! ## Walks along the workflow -/

/-- Statuses with repetitions, one after another, that go along the workflow. -/
structure IsWalk (statuses : List ReservationStatus) : Prop where
  /-- Without the repetitions they are a path from the first of them. -/
  path : (statuses.destutter (· ≠ ·)).head? = statuses.head? ∧
    (statuses.destutter (· ≠ ·)).IsChain Follows
  /-- There are three changes at most. -/
  changes : (statuses.destutter (· ≠ ·)).length ≤ 4
  /-- An end is not left. -/
  ends : statuses.Pairwise fun earlier later => earlier.IsFinal → later = earlier
  /-- What has held rooms and does not any more, never does again. -/
  released : ∀ one other third, [one, other, third].Sublist statuses →
    one.holdsInventory = true → other.holdsInventory = false → third.holdsInventory = false

/-- Statuses of which each is the one before or follows it are a path without the
repetitions. -/
theorem destutter'_path (chain : (one :: statuses).IsChain fun one other =>
      other = one ∨ Follows one other) :
    ∃ rest, statuses.destutter' (· ≠ ·) one = one :: rest ∧ (one :: rest).IsChain Follows := by
  induction statuses generalizing one with
  | nil => exact ⟨[], rfl, .singleton one⟩
  | cons next others ih =>
      obtain ⟨goes, chain⟩ := List.isChain_cons_cons.mp chain
      obtain ⟨rest, path, follow⟩ := ih chain
      rcases goes with rfl | follows
      · rw [List.destutter'_cons_neg _ (not_not_intro rfl)]
        exact ⟨rest, path, follow⟩
      · rw [List.destutter'_cons_pos _ follows.ne, path]
        exact ⟨next :: rest, rfl, List.isChain_cons_cons.mpr ⟨follows, follow⟩⟩

/-- A path has at most as many arrows as there are from its first status on. -/
theorem length_le_stepsLeft (chain : (one :: statuses).IsChain Follows) :
    statuses.length ≤ one.stepsLeft := by
  induction statuses generalizing one with
  | nil => exact Nat.zero_le _
  | cons next others ih =>
      obtain ⟨follows, chain⟩ := List.isChain_cons_cons.mp chain
      exact Nat.lt_of_le_of_lt (ih chain) follows.stepsLeft_lt

theorem stepsLeft_le (status : ReservationStatus) : status.stepsLeft ≤ 3 := by
  cases status <;> decide

/-- Statuses of which each is the one before or follows it are a walk. -/
theorem isWalk_of_isChain
    (chain : statuses.IsChain fun one other => other = one ∨ Follows one other) :
    IsWalk statuses := by
  have reach : statuses.Pairwise Reaches := by
    refine List.isChain_iff_pairwise.mp (chain.imp fun one other goes => ?_)
    rcases goes with rfl | follows
    · exact .refl
    · exact .single follows
  have path : (statuses.destutter (· ≠ ·)).head? = statuses.head? ∧
      (statuses.destutter (· ≠ ·)).IsChain Follows ∧
        (statuses.destutter (· ≠ ·)).length ≤ 4 := by
    cases statuses with
    | nil => exact ⟨rfl, .nil, Nat.zero_le _⟩
    | cons one others =>
        obtain ⟨rest, path, follow⟩ := destutter'_path chain
        rw [List.destutter_cons', path]
        exact ⟨rfl, follow,
          Nat.succ_le_succ (Nat.le_trans (length_le_stepsLeft follow) one.stepsLeft_le)⟩
  refine ⟨⟨path.1, path.2.1⟩, path.2.2, ?_, ?_⟩
  · exact reach.imp fun reaches final => final.eq_of_reaches reaches
  · intro one other third among holds released
    have order := reach.sublist among
    obtain ⟨first, second⟩ := List.pairwise_cons.mp order
    have final := (first other List.mem_cons_self).of_holdsInventory holds
    rw [released] at final
    have last := (List.pairwise_cons.mp second).1 third (List.mem_singleton_self third)
    rw [(final.resolve_left Bool.false_ne_true).eq_of_reaches last, released]

end ReservationStatus

/-! ## Calls -/

open ReservationStatus in
/-- What a call makes of a reservation: it stays as it is, or it goes on to the status that is
asked for, and this is the time of its change. -/
inductive Event.Moves (event : Event) (entry : Reservation) : Reservation → Prop where
  | stays : Moves event entry entry
  | goes (status : ReservationStatus) (follows : Follows entry.status status)
      (asked : event.call = .setStatus entry.hotel entry.id status) :
      Moves event entry { entry with status, updatedAt := event.circumstance.now }

variable {hotel id : Id} {backend : Backend} {entry : Reservation}

/-- A change of one reservation is seen under its own hotel and id only. -/
theorem Stores.reservation?_changeReservation (stores : Stores) (changed : Reservation)
    (sameId : changed.id = id) (sameHotel : changed.hotel = hotel) (otherHotel other : Id) :
    (stores.changeReservation hotel id fun _ => changed).reservation? otherHotel other =
      (stores.reservation? otherHotel other).map fun entry =>
        if entry.id == id && entry.hotel == hotel then changed else entry := by
  refine Stores.find?_map_of_kept (fun entry matched => ?_) stores.reservations
  rw [Bool.and_eq_true, beq_iff_eq, beq_iff_eq] at matched
  rw [sameId, sameHotel, matched.1, matched.2]

/-- **Calls.** A call keeps a reservation where it is, as it is or one arrow further. -/
theorem Event.moves (event : Event)
    (found : backend.stores.reservation? hotel id = some entry) :
    ∃ later, (event.after backend).stores.reservation? hotel id = some later ∧
      event.Moves entry later := by
  rcases (event.step backend).reservations_eq with same | ⟨circumstance, otherHotel, other, status,
    reservation, rfl, there, leads, written⟩
  · refine ⟨entry, ?_, .stays⟩
    rw [Stores.reservation?, same]
    exact found
  · obtain ⟨_, rfl, rfl⟩ := Stores.of_reservation? there
    have seen := Stores.reservation?_changeReservation backend.stores
      { reservation with status, updatedAt := circumstance.now } rfl rfl hotel id
    rw [written, seen, found]
    refine ⟨_, rfl, ?_⟩
    dsimp only
    split
    · rename_i matched
      rw [Bool.and_eq_true, beq_iff_eq, beq_iff_eq] at matched
      obtain ⟨_, rfl, rfl⟩ := Stores.of_reservation? found
      rw [matched.1, matched.2, there] at found
      obtain rfl := Option.some.inj found
      exact .goes status (ReservationStatus.leadsTo_iff.mp leads) rfl
    · exact .stays

/-- A status that the reservation neither has nor can go on to is refused, and so is any status
where no reservation is found. -/
theorem Event.refused_of_not_allowed {status : ReservationStatus} (circumstance : Circumstance)
    (forbidden : ∀ entry, backend.stores.reservation? hotel id = some entry →
      entry.status ≠ status ∧ ¬ ReservationStatus.Follows entry.status status) :
    Event.isAccepted ⟨.setStatus hotel id status, circumstance⟩ backend = false := by
  rw [Bool.eq_false_iff]
  intro accepted
  obtain ⟨answer, given⟩ := Event.of_isAccepted accepted
  obtain ⟨_, stored, found, allowed, _⟩ := Reservations.run_setStatus_ok.mp given
  obtain ⟨different, apart⟩ := forbidden stored found
  rw [ReservationStatus.allows, Bool.or_eq_true, beq_iff_eq] at allowed
  rcases allowed with same | leads
  · exact different same
  · exact apart (ReservationStatus.leadsTo_iff.mp leads)

/-! ## Histories -/

namespace History

/-- The versions of a reservation, one after each call of a history. -/
def versions (hotel id : Id) : History → Backend → List Reservation
  | [], _ => []
  | event :: rest, backend =>
      ((event.after backend).stores.reservation? hotel id).toList ++
        versions hotel id rest (event.after backend)

/-- A reservation is found at all times, and each version is made from the one before. -/
theorem versions_isChain (history : History) {start : Backend} {first : Reservation}
    (found : start.stores.reservation? hotel id = some first) :
    (history.versions hotel id start).length = history.length ∧
      ((first :: history.versions hotel id start).map (·.status)).IsChain fun one other =>
        other = one ∨ ReservationStatus.Follows one other := by
  induction history generalizing start first with
  | nil => exact ⟨rfl, .singleton _⟩
  | cons event rest ih =>
      obtain ⟨later, there, moves⟩ := event.moves found
      obtain ⟨long, chain⟩ := ih there
      rw [versions, there, Option.toList_some, List.singleton_append]
      refine ⟨congrArg Nat.succ long, List.isChain_cons_cons.mpr ⟨?_, chain⟩⟩
      cases moves with
      | stays => exact .inl rfl
      | goes status follows => exact .inr follows

/-- **Reservations.** In every history the statuses of a reservation are a walk along the
workflow. Each call leaves it as it is, the time of its change included, or asks for its next
status and sets both; and a call that asks for a status that it neither has nor can go on to, or
for a reservation that the hotel does not have, is refused and changes nothing. -/
theorem follows_workflow (hotel id : Id) :
    (∀ (history : History) (start : Backend) (first : Reservation),
      start.stores.reservation? hotel id = some first →
        (history.versions hotel id start).length = history.length ∧
          ReservationStatus.IsWalk
            ((first :: history.versions hotel id start).map (·.status))) ∧
    (∀ (event : Event) (backend : Backend) (entry : Reservation),
      backend.stores.reservation? hotel id = some entry →
        ∃ later, (event.after backend).stores.reservation? hotel id = some later ∧
          event.Moves entry later) ∧
    ∀ (circumstance : Circumstance) (backend : Backend) (status : ReservationStatus),
      (∀ entry, backend.stores.reservation? hotel id = some entry →
        entry.status ≠ status ∧ ¬ ReservationStatus.Follows entry.status status) →
      Event.isAccepted ⟨.setStatus hotel id status, circumstance⟩ backend = false ∧
        (Event.after ⟨.setStatus hotel id status, circumstance⟩ backend).stores =
          backend.stores := by
  refine ⟨fun history start first found => ?_, fun event backend entry found => event.moves found,
    fun circumstance backend status forbidden => ?_⟩
  · obtain ⟨long, chain⟩ := history.versions_isChain found
    exact ⟨long, ReservationStatus.isWalk_of_isChain chain⟩
  · have refused := Event.refused_of_not_allowed circumstance forbidden
    exact ⟨refused, Event.stores_of_not_accepted rfl refused⟩

end History

/-! ## The way of a guest -/

namespace Sample

/-- The guest arrives and leaves. Some calls repeat a status, skip one or name another hotel. -/
def visit : History :=
  [⟨.setStatus ⟨1⟩ guest .checkedIn, circumstance⟩,
    ⟨.setStatus ⟨1⟩ guest .confirmed, circumstance⟩,
    ⟨.setStatus ⟨1⟩ guest .confirmed, circumstance⟩,
    ⟨.setStatus ⟨7⟩ guest .cancelled, circumstance⟩,
    ⟨.setStatus ⟨1⟩ guest .checkedIn, circumstance⟩,
    ⟨.setStatus ⟨1⟩ guest .checkedOut, circumstance⟩,
    ⟨.setStatus ⟨1⟩ guest .confirmed, circumstance⟩]

end Sample

open Sample ReservationStatus in
/-- The visit goes from the first status of the reservation to an end, by three changes. -/
theorem History.follows_workflow_of_a_guest :
    ∃ first, awaited.stores.reservation? ⟨1⟩ guest = some first ∧
      ((first :: visit.versions ⟨1⟩ guest awaited).map (·.status)) =
        [.pending, .pending, .confirmed, .confirmed, .confirmed, .checkedIn, .checkedOut,
          .checkedOut] ∧
      IsWalk ((first :: visit.versions ⟨1⟩ guest awaited).map (·.status)) ∧
      Event.isAccepted ⟨.setStatus ⟨7⟩ guest .cancelled, circumstance⟩ awaited = false := by
  obtain ⟨first, found, statuses⟩ : ∃ first, awaited.stores.reservation? ⟨1⟩ guest = some first ∧
      ((first :: visit.versions ⟨1⟩ guest awaited).map (·.status)) =
        [.pending, .pending, .confirmed, .confirmed, .confirmed, .checkedIn, .checkedOut,
          .checkedOut] := by
    decide +kernel
  have elsewhere : awaited.stores.reservation? ⟨7⟩ guest = none := by decide +kernel
  refine ⟨first, found, statuses, ((follows_workflow ⟨1⟩ guest).1 visit awaited first found).2,
    ((follows_workflow ⟨7⟩ guest).2.2 circumstance awaited .cancelled ?_).1⟩
  rw [elsewhere]
  exact fun entry found => nomatch found

end Lodging
