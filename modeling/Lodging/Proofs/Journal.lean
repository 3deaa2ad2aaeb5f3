import Mathlib.Data.List.Induction
import Mathlib.Data.List.TakeWhile
import Lodging.Proofs.Rows

/-! # Journals of rows

A journal says, in order, what has been done to rows that have a key: a row has been
written, field by field, or has been removed. All that a row depends on are the writes to
its key since its last removal (`Lodging.Journal.since`): whoever enters a journal step by
step keeps the row that these writes make (`Lodging.Merging.foldl_enter`). What such a row
shows in a field is the value that the last of them has carried for it, and else what the
row has started with (`Lodging.Merging.shown_of_made`). Rows that have an owner and a date
and follow a journal show it in every range of dates (`Lodging.Merging.isShownBy`).
-/

namespace Lodging

/-- What is done to the row of a key. -/
inductive JournalEntry (κ ω : Type) where
  | written (key : κ) (write : ω)
  | removed (key : κ)

/-- What has been done to rows, the first first. -/
abbrev Journal (κ ω : Type) := List (JournalEntry κ ω)

variable {κ ω α β : Type}

namespace JournalEntry

variable [DecidableEq κ]

/-- The write, if it is one to the row of the key. -/
def writeTo? (key : κ) : JournalEntry κ ω → Option ω
  | written own write => if own = key then some write else none
  | removed _ => none

/-- It is the row of the key that is removed. -/
def removes (key : κ) : JournalEntry κ ω → Bool
  | written _ _ => false
  | removed own => decide (own = key)

variable {key own : κ} {write : ω}

@[simp] theorem writeTo?_written :
    (written own write).writeTo? key = if own = key then some write else none := rfl

@[simp] theorem writeTo?_removed : (removed own : JournalEntry κ ω).writeTo? key = none := rfl

@[simp] theorem removes_written : (written own write).removes key = false := rfl

@[simp] theorem removes_removed :
    (removed own : JournalEntry κ ω).removes key = decide (own = key) := rfl

end JournalEntry

namespace Journal

/-! ## The writes that count -/

section Since

variable [DecidableEq κ]

/-- The writes to the row of a key since the row was removed last. -/
def since (journal : Journal κ ω) (key : κ) : List ω :=
  (journal.reverse.takeWhile fun entry => !entry.removes key).reverse.filterMap (·.writeTo? key)

theorem since_concat (journal : Journal κ ω) (entry : JournalEntry κ ω) (key : κ) :
    since (journal ++ [entry]) key =
      if entry.removes key then [] else since journal key ++ (entry.writeTo? key).toList := by
  rw [since, List.reverse_append, List.reverse_singleton, List.singleton_append,
    List.takeWhile_cons]
  cases removing : entry.removes key with
  | true => rfl
  | false =>
      simp only [Bool.not_false, ↓reduceIte, Bool.false_eq_true, List.reverse_cons,
        List.filterMap_append, since]
      cases wanted : entry.writeTo? key with
      | none => rw [List.filterMap_cons_none wanted, List.filterMap_nil, Option.toList_none]
      | some write => rw [List.filterMap_cons_some wanted, List.filterMap_nil, Option.toList_some]

end Since

/-! ## The last value of a field -/

/-- The value that the last write with a value for the field has carried. -/
def lastCarried? (field : ω → Option β) (writes : List ω) : Option β :=
  writes.reverse.findSome? field

variable {field : ω → Option β} {writes : List ω}

theorem lastCarried?_append (first second : List ω) :
    lastCarried? field (first ++ second) =
      (lastCarried? field second).or (lastCarried? field first) := by
  rw [lastCarried?, List.reverse_append, List.findSome?_append]
  rfl

theorem lastCarried?_singleton (write : ω) : lastCarried? field [write] = field write :=
  List.findSome?_singleton

theorem lastCarried?_cons (write : ω) (rest : List ω) :
    lastCarried? field (write :: rest) = (lastCarried? field rest).or (field write) := by
  rw [← List.singleton_append, lastCarried?_append, lastCarried?_singleton]

theorem mem_of_lastCarried? {value : β} (found : lastCarried? field writes = some value) :
    ∃ write ∈ writes, field write = some value := by
  obtain ⟨write, member, carried⟩ := List.exists_of_findSome?_eq_some found
  exact ⟨write, List.mem_reverse.mp member, carried⟩

/-- Writes that are made twice leave no other value than those made once. -/
theorem lastCarried?_append_self (writes : List ω) :
    lastCarried? field (writes ++ writes) = lastCarried? field writes := by
  rw [lastCarried?_append, Option.or_self]

/-- The order of writes does not matter to a field that not both of them carry. -/
theorem lastCarried?_append_comm {first second : List ω}
    (apart : ∀ one ∈ first, ∀ other ∈ second, field one = none ∨ field other = none) :
    lastCarried? field (first ++ second) = lastCarried? field (second ++ first) := by
  rw [lastCarried?_append, lastCarried?_append]
  cases carried : lastCarried? field first with
  | none => rw [Option.or_none, Option.none_or]
  | some value =>
      obtain ⟨one, member, given⟩ := mem_of_lastCarried? carried
      have absent : lastCarried? field second = none := by
        refine List.findSome?_eq_none_iff.mpr fun other there => ?_
        refine (apart one member other (List.mem_reverse.mp there)).resolve_left ?_
        rw [given]
        exact Option.some_ne_none value
      rw [absent, Option.or_none, Option.none_or]

/-- A field that takes what writes carry for it shows the last such value, and what it
showed before if there is none. -/
theorem shown_foldl {change : ω → α → α} {shown : α → β}
    (merged : ∀ write row, shown (change write row) = (field write).getD (shown row))
    (writes : List ω) (row : α) :
    shown (writes.foldl (fun row write => change write row) row) =
      (lastCarried? field writes).getD (shown row) := by
  induction writes generalizing row with
  | nil => rfl
  | cons write rest ih => rw [List.foldl_cons, ih, merged, lastCarried?_cons, Option.getD_or]

/-- The same holds of a field that may be empty. -/
theorem shown_foldl_or {change : ω → α → α} {shown : α → Option β}
    (merged : ∀ write row, shown (change write row) = (field write).or (shown row))
    (writes : List ω) (row : α) :
    shown (writes.foldl (fun row write => change write row) row) =
      (lastCarried? field writes).or (shown row) := by
  induction writes generalizing row with
  | nil => rfl
  | cons write rest ih => rw [List.foldl_cons, ih, merged, lastCarried?_cons, Option.or_assoc]

/-- What no write changes stays as it was. -/
theorem kept_foldl {change : ω → α → α} {shown : α → β}
    (kept : ∀ write row, shown (change write row) = shown row) (writes : List ω) (row : α) :
    shown (writes.foldl (fun row write => change write row) row) = shown row := by
  induction writes generalizing row with
  | nil => rfl
  | cons write rest ih => rw [List.foldl_cons, ih, kept]

end Journal

/-! ## Rows made by writes -/

/-- How writes make the row of a key. -/
structure Merging (κ ω α : Type) where
  /-- The row that a write starts from if there is none. -/
  fresh : κ → ω → α
  change : ω → α → α

namespace Merging

variable (merging : Merging κ ω α) {key : κ}

/-- The row of a key after a write to it. -/
def write (key : κ) (stored : Option α) (write : ω) : Option α :=
  some (merging.change write (stored.getD (merging.fresh key write)))

/-- The row of a key after an entry, which may be for another key. -/
def enter [DecidableEq κ] (key : κ) (stored : Option α) : JournalEntry κ ω → Option α
  | .written own write => if own = key then merging.write key stored write else stored
  | .removed own => if own = key then none else stored

/-- The row that a journal leads to is made by the writes since it was removed last. -/
theorem foldl_enter [DecidableEq κ] (journal : Journal κ ω) (key : κ) (stored : Option α) :
    journal.foldl (merging.enter key) stored =
      (journal.since key).foldl (merging.write key)
        (if journal.any (·.removes key) then none else stored) := by
  induction journal using List.reverseRecOn with
  | nil => rfl
  | append_singleton journal entry ih =>
      rw [List.foldl_append, List.foldl_cons, List.foldl_nil, ih, Journal.since_concat,
        List.any_append, List.any_cons, List.any_nil, Bool.or_false]
      cases entry with
      | written own write =>
          simp only [JournalEntry.removes_written, Bool.or_false, Bool.false_eq_true, ↓reduceIte,
            JournalEntry.writeTo?_written, enter]
          split
          · rw [Option.toList_some, List.foldl_append, List.foldl_cons, List.foldl_nil]
          · rw [Option.toList_none, List.append_nil]
      | removed own =>
          simp only [JournalEntry.removes_removed, JournalEntry.writeTo?_removed, enter,
            decide_eq_true_eq, Option.toList_none, List.append_nil]
          by_cases same : own = key
          · simp only [same, ↓reduceIte, decide_true, Bool.or_true, List.foldl_nil]
          · simp only [same, ↓reduceIte, decide_false, Bool.or_false]

theorem foldl_write_some (row : α) (writes : List ω) :
    writes.foldl (merging.write key) (some row) =
      some (writes.foldl (fun row write => merging.change write row) row) := by
  induction writes generalizing row with
  | nil => rfl
  | cons first rest ih => exact ih (merging.change first row)

/-- Writes to a key without a row change the fresh row of the first one. -/
theorem foldl_write_none (first : ω) (rest : List ω) :
    (first :: rest).foldl (merging.write key) none =
      some ((first :: rest).foldl (fun row write => merging.change write row)
        (merging.fresh key first)) :=
  merging.foldl_write_some (merging.change first (merging.fresh key first)) rest

section Made

variable {merging} {writes : List ω} {row : α}

/-- A row that writes have made has started from the fresh row of the first of them. -/
theorem of_foldl_write (made : writes.foldl (merging.write key) none = some row) :
    ∃ first, writes.head? = some first ∧
      row = writes.foldl (fun row write => merging.change write row) (merging.fresh key first) := by
  cases writes with
  | nil => exact nomatch made
  | cons first rest =>
      rw [foldl_write_none] at made
      exact ⟨first, rfl, (Option.some.inj made).symm⟩

variable (made : writes.foldl (merging.write key) none = some row) {first : ω}
  (head : writes.head? = some first)

include made head

/-- What no write changes is as the first one has made it. -/
theorem kept_of_made (shown : α → β)
    (kept : ∀ write row, shown (merging.change write row) = shown row) :
    shown row = shown (merging.fresh key first) := by
  obtain ⟨own, found, rfl⟩ := of_foldl_write made
  obtain rfl := Option.some.inj (found.symm.trans head)
  exact Journal.kept_foldl kept writes _

/-- A field is what the last write with a value for it has carried, and else what the first
one has started from. -/
theorem shown_of_made (field : ω → Option β) (shown : α → β)
    (merged : ∀ write row, shown (merging.change write row) = (field write).getD (shown row)) :
    shown row = (Journal.lastCarried? field writes).getD (shown (merging.fresh key first)) := by
  obtain ⟨own, found, rfl⟩ := of_foldl_write made
  obtain rfl := Option.some.inj (found.symm.trans head)
  exact Journal.shown_foldl merged writes _

/-- The same holds of a field that starts empty. -/
theorem shown_of_made_or (field : ω → Option β) (shown : α → Option β)
    (merged : ∀ write row, shown (merging.change write row) = (field write).or (shown row))
    (empty : shown (merging.fresh key first) = none) :
    shown row = Journal.lastCarried? field writes := by
  obtain ⟨own, found, rfl⟩ := of_foldl_write made
  obtain rfl := Option.some.inj (found.symm.trans head)
  rw [Journal.shown_foldl_or merged, empty, Option.or_none]

end Made

theorem isSome_foldl_write (writes : List ω) :
    (writes.foldl (merging.write key) none).isSome = true ↔ writes ≠ [] := by
  cases writes with
  | nil => exact ⟨fun made => (nomatch made), fun some => absurd rfl some⟩
  | cons first rest =>
      rw [foldl_write_none]
      exact ⟨fun _ => List.cons_ne_nil first rest, fun _ => rfl⟩

end Merging

/-! ## Rows with an owner and a date -/

/-- What can be read of the rows of an owner within a range of dates is what a journal leads
to: there is one row for each date that has been written since its row was removed last, in
the order of dates, and it is made by the writes since then. -/
structure Journal.IsShownBy (journal : Journal (Id × Date) ω) (owner : α → Id) (date : α → Date)
    (isMadeBy : α → List ω → Prop) (rowsIn : Id → Date → Date → List α) : Prop where
  ascending : ∀ id first last,
    (rowsIn id first last).Pairwise fun one other => date one < date other
  dates : ∀ id first last day, (∃ row ∈ rowsIn id first last, date row = day) ↔
    first ≤ day ∧ day ≤ last ∧ journal.since (id, day) ≠ []
  rows : ∀ id first last, ∀ row ∈ rowsIn id first last,
    owner row = id ∧ isMadeBy row (journal.since (id, date row))

section Dated

open Stores

variable {owner : α → Id} {date : α → Date} {rows : List α}

/-- Rows show a journal if each of them can be found by following it. -/
theorem Merging.isShownBy (merging : Merging (Id × Date) ω α) {journal : Journal (Id × Date) ω}
    {isMadeBy : α → List ω → Prop}
    (made : ∀ key writes row, writes.foldl (merging.write key) none = some row →
      isMadeBy row writes)
    (apart : (rows.map fun row => (owner row, date row)).Nodup)
    (found : ∀ key : Id × Date, (rows.find? fun row => owner row == key.1 && date row == key.2) =
      journal.foldl (merging.enter key) none) :
    journal.IsShownBy owner date isMadeBy fun id first last =>
      inRange date first last (rows.filter (owner · == id)) := by
  have replayed (key : Id × Date) :
      (rows.find? fun row => owner row == key.1 && date row == key.2) =
        (journal.since key).foldl (merging.write key) none := by
    rw [found, foldl_enter, ite_self]
  have ofRow {row : α} (member : row ∈ rows) :
      (journal.since (owner row, date row)).foldl (merging.write (owner row, date row)) none =
        some row :=
    (replayed (owner row, date row)).symm.trans
      (find?_eq_some_of_key apart member (isOwned_iff (owner row, date row)))
  constructor
  case ascending => exact fun id first last => inRange_ascending (nodup_dates apart id) first last
  case dates =>
    intro id first last day
    constructor
    · rintro ⟨row, member, rfl⟩
      obtain ⟨present, rfl, least, most⟩ := mem_inRange_of_owner.mp member
      have stored := Option.isSome_of_eq_some (ofRow present)
      exact ⟨least, most, (merging.isSome_foldl_write _).mp stored⟩
    · rintro ⟨least, most, written⟩
      have stored :
          ((journal.since (id, day)).foldl (merging.write (id, day)) none).isSome = true :=
        (merging.isSome_foldl_write _).mpr written
      rw [← replayed (id, day)] at stored
      obtain ⟨row, stored⟩ := Option.isSome_iff_exists.mp stored
      have matched := List.find?_some stored
      rw [isOwned_iff (id, day)] at matched
      obtain ⟨rfl, rfl⟩ := Prod.mk.inj matched
      have present := List.mem_of_find?_eq_some stored
      exact ⟨row, mem_inRange_of_owner.mpr ⟨present, rfl, least, most⟩, rfl⟩
  case rows =>
    intro id first last row member
    obtain ⟨present, rfl, _⟩ := mem_inRange_of_owner.mp member
    exact ⟨rfl, made _ _ _ (ofRow present)⟩

end Dated

end Lodging
