import Mathlib.Data.List.Find
import Mathlib.Data.List.Nodup
import Lodging.Proofs.StableSort
import Lodging.Stores

/-! # Rows with a key

Overrides and rows of the ledger have a key, and there is one row for a key. A write
changes the row of one key or adds it, so keys stay apart
(`Lodging.Stores.nodup_keys_upsert`), other rows stay as they are
(`Lodging.Stores.filter_upsert_of_neg`, `Lodging.Stores.find?_upsert_of_key`), and in
whatever order rows are kept, a write leaves the same rows (`Lodging.Stores.upsert_perm`)
and a search finds the same one (`Lodging.Stores.find?_eq_of_perm`). A range of rows of one
owner comes in the order of dates (`Lodging.Stores.inRange_ascending`).
-/

namespace Lodging.Stores

variable {α κ : Type} {key : α → κ} {k : κ} {isMatch : α → Bool} {fresh : α}
  {change : α → α} {rows others : List α}

/-! ## Writing a row -/

/-- A row is one of before, or the one that is written. -/
theorem mem_upsert_getD {row : α} (member : row ∈ upsert isMatch fresh change rows) :
    row ∈ rows ∨ row = change ((rows.find? isMatch).getD fresh) := by
  induction rows with
  | nil => exact .inr (List.mem_singleton.mp member)
  | cons head rest ih =>
      rw [upsert] at member
      split at member
      · rename_i matched
        rcases List.mem_cons.mp member with rfl | later
        · rw [List.find?_cons_of_pos matched]
          exact .inr rfl
        · exact .inl (List.mem_cons_of_mem head later)
      · rename_i unmatched
        rw [List.find?_cons_of_neg unmatched]
        rcases List.mem_cons.mp member with rfl | later
        · exact .inl List.mem_cons_self
        · exact (ih later).imp_left (List.mem_cons_of_mem head)

/-- The row that is written is new, or a change of one that matches. -/
theorem mem_upsert {row : α} (member : row ∈ upsert isMatch fresh change rows) :
    row ∈ rows ∨ (rows.find? isMatch = none ∧ row = change fresh) ∨
      ∃ old ∈ rows, isMatch old = true ∧ row = change old := by
  refine (mem_upsert_getD member).imp_right fun written => ?_
  cases found : rows.find? isMatch with
  | none =>
      rw [found] at written
      exact .inl ⟨rfl, written⟩
  | some old =>
      rw [found] at written
      exact .inr ⟨old, List.mem_of_find?_eq_some found, List.find?_some found, written⟩

/-- Writing a row that is there keeps all keys, writing another adds its key. -/
theorem map_key_upsert (kept : ∀ row, isMatch row = true → key (change row) = key row) :
    (upsert isMatch fresh change rows).map key =
      if rows.any isMatch then rows.map key else rows.map key ++ [key (change fresh)] := by
  induction rows with
  | nil => rfl
  | cons head rest ih =>
      rw [upsert, List.any_cons]
      by_cases matched : isMatch head = true
      · rw [if_pos matched, matched, Bool.true_or, if_pos rfl, List.map_cons, kept head matched,
          List.map_cons]
      · rw [if_neg matched, Bool.eq_false_iff.mpr matched, Bool.false_or, List.map_cons, ih]
        split <;> rfl

theorem nodup_keys_upsert (matched : ∀ row, isMatch row = true ↔ key row = k)
    (changed : ∀ row, key (change row) = key row) (new : key fresh = k)
    (nodup : (rows.map key).Nodup) : ((upsert isMatch fresh change rows).map key).Nodup := by
  rw [map_key_upsert fun row _ => changed row]
  split
  · exact nodup
  · rename_i missing
    refine List.nodup_append.mpr ⟨nodup, List.nodup_singleton _, ?_⟩
    intro one left other right same
    obtain ⟨row, member, rfl⟩ := List.mem_map.mp left
    rw [List.mem_singleton.mp right, changed, new] at same
    exact missing (List.any_eq_true.mpr ⟨row, member, (matched row).mpr same⟩)

/-- A write to a row that a filter lets through is a write to what it lets through. -/
theorem filter_upsert_of_pos {passes : α → Bool}
    (matched : ∀ row, isMatch row = true → passes row = true)
    (changed : ∀ row, isMatch row = true → passes (change row) = true)
    (new : passes (change fresh) = true) :
    (upsert isMatch fresh change rows).filter passes =
      upsert isMatch fresh change (rows.filter passes) := by
  induction rows with
  | nil => rw [upsert, List.filter_nil, upsert, List.filter_cons_of_pos new, List.filter_nil]
  | cons head rest ih =>
      rw [upsert]
      by_cases isHead : isMatch head = true
      · rw [if_pos isHead, List.filter_cons_of_pos (changed head isHead),
          List.filter_cons_of_pos (matched head isHead), upsert, if_pos isHead]
      · rw [if_neg isHead]
        by_cases through : passes head = true
        · rw [List.filter_cons_of_pos through, List.filter_cons_of_pos through, upsert,
            if_neg isHead, ih]
        · rw [List.filter_cons_of_neg through, List.filter_cons_of_neg through, ih]

/-- A write to a row that a filter holds back leaves what it lets through. -/
theorem filter_upsert_of_neg {passes : α → Bool}
    (matched : ∀ row, isMatch row = true → passes row = false)
    (changed : ∀ row, isMatch row = true → passes (change row) = false)
    (new : passes (change fresh) = false) :
    (upsert isMatch fresh change rows).filter passes = rows.filter passes := by
  have back {row : α} (held : passes row = false) : ¬ passes row = true :=
    Bool.eq_false_iff.mp held
  induction rows with
  | nil => rw [upsert, List.filter_cons_of_neg (back new)]
  | cons head rest ih =>
      rw [upsert]
      by_cases isHead : isMatch head = true
      · rw [if_pos isHead, List.filter_cons_of_neg (back (changed head isHead)),
          List.filter_cons_of_neg (back (matched head isHead))]
      · rw [if_neg isHead, List.filter_cons, List.filter_cons, ih]

/-- A view of what has been written is what is written to a view of the rows. -/
theorem map_upsert {β : Type} {view : α → β} {isSeen : β → Bool} {changeSeen : β → β} {other : β}
    (matched : ∀ row, isSeen (view row) = isMatch row)
    (changed : ∀ row, view (change row) = changeSeen (view row)) (new : view fresh = other) :
    (upsert isMatch fresh change rows).map view =
      upsert isSeen other changeSeen (rows.map view) := by
  induction rows with
  | nil => rw [upsert, List.map_singleton, changed, new, List.map_nil, upsert]
  | cons head rest ih =>
      rw [upsert, List.map_cons, upsert, matched]
      split
      · rw [List.map_cons, changed]
      · rw [List.map_cons, ih]

/-! ## Finding what has been written -/

/-- What is written to a row is found there. -/
theorem find?_upsert_self (kept : ∀ row, isMatch row = true → isMatch (change row) = true)
    (new : isMatch (change fresh) = true) :
    (upsert isMatch fresh change rows).find? isMatch =
      some (change ((rows.find? isMatch).getD fresh)) := by
  induction rows with
  | nil => exact List.find?_cons_of_pos new
  | cons head rest ih =>
      rw [upsert]
      by_cases matched : isMatch head = true
      · rw [if_pos matched, List.find?_cons_of_pos (kept head matched),
          List.find?_cons_of_pos matched, Option.getD_some]
      · rw [if_neg matched, List.find?_cons_of_neg matched, List.find?_cons_of_neg matched, ih]

/-- A search for other rows does not see the write. -/
theorem find?_upsert_of_neg {search : α → Bool}
    (matched : ∀ row, isMatch row = true → search row = false)
    (changed : ∀ row, isMatch row = true → search (change row) = false)
    (new : search (change fresh) = false) :
    (upsert isMatch fresh change rows).find? search = rows.find? search := by
  rw [← List.head?_filter, filter_upsert_of_neg matched changed new, List.head?_filter]

/-- A search by key finds what has been written there, and else what it found before. -/
theorem find?_upsert_of_key [DecidableEq κ] {search : κ → α → Bool}
    (matched : ∀ sought row, search sought row = true ↔ key row = sought)
    (changed : ∀ row, key (change row) = key row) (new : key (change fresh) = k) (sought : κ) :
    (upsert (search k) fresh change rows).find? (search sought) =
      if k = sought then some (change ((rows.find? (search sought)).getD fresh))
      else rows.find? (search sought) := by
  by_cases own : k = sought
  · subst own
    rw [if_pos rfl]
    refine find?_upsert_self (fun row here => ?_) ((matched k _).mpr new)
    exact (matched k _).mpr ((changed row).trans ((matched k row).mp here))
  · have elsewhere (row : α) (here : key row = k) : search sought row = false :=
      Bool.eq_false_iff.mpr fun there => own (here.symm.trans ((matched sought row).mp there))
    rw [if_neg own]
    refine find?_upsert_of_neg (fun row here => elsewhere row ((matched k row).mp here)) ?_
      (elsewhere _ new)
    exact fun row here => elsewhere _ ((changed row).trans ((matched k row).mp here))

/-- A search by key finds nothing where the row has been removed, and else what it found
before. -/
theorem find?_filter_of_key [DecidableEq κ] {search : κ → α → Bool}
    (matched : ∀ sought row, search sought row = true ↔ key row = sought) (sought : κ) :
    (rows.filter fun row => !search k row).find? (search sought) =
      if k = sought then none else rows.find? (search sought) := by
  rw [List.find?_filter]
  split
  · rename_i own
    subst own
    refine List.find?_eq_none.mpr fun row _ => ?_
    rw [Bool.not_eq_true, decide_eq_false_iff_not, Bool.not_eq_true']
    exact fun both => Bool.eq_false_iff.mp both.1 both.2
  · rename_i other
    refine List.find?_congr fun row _ => ?_
    rw [Bool.eq_iff_iff, decide_eq_true_eq, Bool.not_eq_true', Bool.eq_false_iff]
    refine ⟨And.right, fun there => ⟨fun here => other ?_, there⟩⟩
    exact ((matched k row).mp here).symm.trans ((matched sought row).mp there)

/-! ## Looking at some of the rows -/

theorem find?_filter_of_imp {passes : α → Bool}
    (through : ∀ row ∈ rows, isMatch row = true → passes row = true) :
    (rows.filter passes).find? isMatch = rows.find? isMatch := by
  rw [List.find?_filter]
  refine List.find?_congr fun row member => ?_
  rw [Bool.eq_iff_iff, decide_eq_true_eq]
  exact ⟨And.right, fun matched => ⟨through row member matched, matched⟩⟩

theorem filter_filter_of_imp {passes : α → Bool}
    (through : ∀ row ∈ rows, isMatch row = true → passes row = true) :
    (rows.filter passes).filter isMatch = rows.filter isMatch := by
  rw [List.filter_filter]
  refine List.filter_congr fun row member => ?_
  rw [Bool.eq_iff_iff, Bool.and_eq_true]
  exact ⟨And.left, fun matched => ⟨matched, through row member matched⟩⟩

theorem any_filter_of_imp {passes : α → Bool}
    (through : ∀ row ∈ rows, isMatch row = true → passes row = true) :
    (rows.filter passes).any isMatch = rows.any isMatch := by
  rw [Bool.eq_iff_iff, List.any_eq_true, List.any_eq_true]
  constructor
  · rintro ⟨row, member, matched⟩
    exact ⟨row, List.mem_of_mem_filter member, matched⟩
  · rintro ⟨row, member, matched⟩
    exact ⟨row, List.mem_filter.mpr ⟨member, through row member matched⟩, matched⟩

/-- Rows may be changed before or after a filter that does not look at the change. -/
theorem filter_map_of_kept {passes : α → Bool} (kept : ∀ row, passes (change row) = passes row)
    (rows : List α) : (rows.map change).filter passes = (rows.filter passes).map change := by
  rw [List.filter_map]
  congr 1
  exact List.filter_congr fun row _ => kept row

/-- Rows that a filter holds back, before and after a change, may be held back before it. -/
theorem filter_map_filter {passes : α → Bool}
    (held : ∀ row, passes row = false → passes (change row) = false) (rows : List α) :
    ((rows.filter passes).map change).filter passes = (rows.map change).filter passes := by
  induction rows with
  | nil => rfl
  | cons row rest ih =>
      cases through : passes row with
      | true => rw [List.filter_cons_of_pos through, List.map_cons, List.map_cons, List.filter_cons,
          List.filter_cons, ih]
      | false =>
          rw [List.filter_cons_of_neg (Bool.eq_false_iff.mp through), List.map_cons,
            List.filter_cons_of_neg (Bool.eq_false_iff.mp (held row through)), ih]

/-- A search that finds a new row where it found the old one finds what it found before, or the
new row in its place. -/
theorem find?_map_of_kept {search : α → Bool} {new : α}
    (kept : ∀ row, isMatch row = true → search new = search row) (rows : List α) :
    (rows.map fun row => if isMatch row then new else row).find? search =
      (rows.find? search).map fun row => if isMatch row then new else row := by
  have same : (search ∘ fun row => if isMatch row then new else row) = search := by
    funext row
    dsimp only [Function.comp_apply]
    split
    · exact kept row ‹_›
    · rfl
  rw [List.find?_map, same]

/-- A change that leaves each of the rows leaves all of them. -/
theorem map_eq_self (same : ∀ row ∈ rows, change row = row) : rows.map change = rows :=
  (List.map_congr_left same).trans (List.map_id _)

/-! ## A range of dates -/

theorem date_le_trans (date : α → Date) (one other third : α)
    (first : decide (date one ≤ date other) = true)
    (second : decide (date other ≤ date third) = true) :
    decide (date one ≤ date third) = true := by
  rw [decide_eq_true_eq] at first second ⊢
  exact Int.le_trans first second

theorem date_le_total (date : α → Date) (one other : α) :
    (decide (date one ≤ date other) || decide (date other ≤ date one)) = true := by
  rw [Bool.or_eq_true, decide_eq_true_eq, decide_eq_true_eq]
  exact Int.le_total _ _

theorem mem_inRange {date : α → Date} {first last : Date} {row : α} :
    row ∈ inRange date first last rows ↔ row ∈ rows ∧ first ≤ date row ∧ date row ≤ last := by
  rw [inRange, List.mem_mergeSort, List.mem_filter, Bool.and_eq_true, decide_eq_true_eq,
    decide_eq_true_eq]

/-- A range of rows with different dates comes in the order of dates, each date once. -/
theorem inRange_ascending {date : α → Date} (dates : (rows.map date).Nodup)
    (first last : Date) :
    (inRange date first last rows).Pairwise fun one other => date one < date other := by
  have sorted : (inRange date first last rows).Pairwise
      fun one other => decide (date one ≤ date other) = true :=
    List.pairwise_mergeSort (date_le_trans date) (date_le_total date) _
  have apart : ((inRange date first last rows).map date).Nodup :=
    (((List.mergeSort_perm _ _).map date).nodup_iff).mpr (dates.sublist (List.filter_sublist.map _))
  refine (sorted.and (List.pairwise_map.mp apart)).imp fun {one other} both => ?_
  exact Int.lt_iff_le_and_ne.mpr
    ⟨of_decide_eq_true both.1, fun same => both.2 (congrArg Date.mk same)⟩

/-- A day within a range of dates has the row in the range that it has among all
rows. -/
theorem find?_inRange {date : α → Date} {first last day : Date} (least : first ≤ day)
    (most : day ≤ last) (rows : List α) :
    (inRange date first last rows).find? (fun row => date row == day) =
      rows.find? fun row => date row == day := by
  let within := rows.filter fun row => first ≤ date row && date row ≤ last
  -- Rows of one day are equals to the sorting, so it leaves them in their order.
  have onDay : ((inRange date first last rows).filter fun row => date row == day) =
      within.filter fun row => date row == day := by
    refine StableSort.filter_mergeSort (date_le_trans date) (date_le_total date) ?_
    refine List.pairwise_of_forall_mem_list fun one left other right => ?_
    have atOne := List.of_mem_filter left
    have atOther := List.of_mem_filter right
    rw [beq_iff_eq] at atOne atOther
    rw [decide_eq_true_eq, atOne, atOther]
    exact Int.le_refl _
  calc (inRange date first last rows).find? _
    _ = within.find? _ := by rw [← List.head?_filter, onDay, List.head?_filter]
    _ = rows.find? _ := find?_filter_of_imp fun row _ same => by
      rw [beq_iff_eq] at same
      rw [same, Bool.and_eq_true, decide_eq_true_eq, decide_eq_true_eq]
      exact ⟨least, most⟩

/-! ## Rows in whatever order -/

theorem eq_of_isMatch (nodup : (rows.map key).Nodup)
    (matched : ∀ row, isMatch row = true → key row = k) :
    ∀ one ∈ rows, ∀ other ∈ rows, isMatch one = true → isMatch other = true → one = other :=
  fun _ left _ right atOne atOther =>
    List.inj_on_of_nodup_map nodup left right ((matched _ atOne).trans (matched _ atOther).symm)

/-- A row is the one that is found for its key. -/
theorem find?_eq_some_of_key (nodup : (rows.map key).Nodup) {row : α} (member : row ∈ rows)
    (matched : ∀ other, isMatch other = true ↔ key other = key row) :
    rows.find? isMatch = some row := by
  cases found : rows.find? isMatch with
  | none => exact absurd ((matched row).mpr rfl) (List.find?_eq_none.mp found row member)
  | some other =>
      have same := (matched other).mp (List.find?_some found)
      rw [List.inj_on_of_nodup_map nodup (List.mem_of_find?_eq_some found) member same]

theorem find?_eq_of_perm (perm : rows.Perm others)
    (unique : ∀ one ∈ rows, ∀ other ∈ rows, isMatch one = true → isMatch other = true →
      one = other) :
    rows.find? isMatch = others.find? isMatch := by
  cases found : rows.find? isMatch with
  | none =>
      have missed := List.find?_eq_none.mp found
      exact (List.find?_eq_none.mpr fun row member => missed row (perm.mem_iff.mpr member)).symm
  | some row =>
      have present := List.mem_of_find?_eq_some found
      have matched := List.find?_some found
      cases search : others.find? isMatch with
      | none =>
          exact absurd matched (List.find?_eq_none.mp search row (perm.mem_iff.mp present))
      | some other =>
          have there := perm.mem_iff.mpr (List.mem_of_find?_eq_some search)
          rw [unique row present other there matched (List.find?_some search)]

theorem upsert_perm (perm : rows.Perm others)
    (unique : ∀ one ∈ rows, ∀ other ∈ rows, isMatch one = true → isMatch other = true →
      one = other) :
    (upsert isMatch fresh change rows).Perm (upsert isMatch fresh change others) := by
  induction perm with
  | nil => exact .refl _
  | cons row perm ih =>
      rw [upsert, upsert]
      split
      · exact perm.cons _
      · exact (ih fun one left other right =>
          unique one (List.mem_cons_of_mem _ left) other (List.mem_cons_of_mem _ right)).cons _
  | swap one other rest =>
      simp only [upsert]
      by_cases atOne : isMatch one = true
      · by_cases atOther : isMatch other = true
        · -- Both match, so they are one row and it does not matter which comes first.
          rw [unique one (.tail _ (.head _)) other (.head _) atOne atOther]
        · rw [if_neg atOther, if_pos atOne, if_pos atOne]
          exact .swap _ _ rest
      · rw [if_neg atOne, if_neg atOne]
        split <;> exact .swap _ _ _
  | trans first _ ihFirst ihSecond =>
      refine (ihFirst unique).trans (ihSecond fun one left other right => ?_)
      exact unique one (first.mem_iff.mpr left) other (first.mem_iff.mpr right)

/-- A range of rows with different dates does not depend on the order of the rows. -/
theorem inRange_eq_of_perm {date : α → Date} {first last : Date} (perm : rows.Perm others)
    (dates : (rows.map date).Nodup) :
    inRange date first last rows = inRange date first last others := by
  have sorted (list : List α) :
      (list.mergeSort fun one other => date one ≤ date other).Pairwise
        fun one other => decide (date one ≤ date other) = true :=
    List.pairwise_mergeSort (date_le_trans date) (date_le_total date) list
  have within := perm.filter fun row => first ≤ date row && date row ≤ last
  refine List.Perm.eq_of_pairwise ?_ (sorted _) (sorted _)
    ((List.mergeSort_perm _ _).trans (within.trans (List.mergeSort_perm _ _).symm))
  intro one other left right least most
  rw [decide_eq_true_eq] at least most
  have atOne := List.mem_of_mem_filter (List.mem_mergeSort.mp left)
  have atOther := perm.mem_iff.mpr (List.mem_of_mem_filter (List.mem_mergeSort.mp right))
  have same : date one = date other := congrArg Date.mk (Int.le_antisymm least most)
  exact List.inj_on_of_nodup_map dates atOne atOther same

/-! ## Rows with an owner and a date -/

section Owned

variable {owner : α → Id} {date : α → Date} {id : Id} {left right : α → Bool}

/-- The row is the one of an owner on a date. -/
theorem isOwned_iff (key : Id × Date) (row : α) :
    (owner row == key.1 && date row == key.2) = true ↔ (owner row, date row) = key := by
  rw [Bool.and_eq_true, beq_iff_eq, beq_iff_eq, Prod.ext_iff]

theorem mem_inRange_of_owner {first last : Date} {row : α} :
    row ∈ inRange date first last (rows.filter (owner · == id)) ↔
      row ∈ rows ∧ owner row = id ∧ first ≤ date row ∧ date row ≤ last := by
  rw [mem_inRange, List.mem_filter, beq_iff_eq, and_assoc]

/-- Where what filters let through is the same, and all rows of an owner are let
through, the row of the owner on a date is the same. -/
theorem find?_eq_of_owner (perm : (rows.filter left).Perm (others.filter right))
    (apart : (rows.map fun row => (owner row, date row)).Nodup)
    (throughLeft : ∀ row, owner row = id → left row = true)
    (throughRight : ∀ row, owner row = id → right row = true) (day : Date) :
    (rows.find? fun row => owner row == id && date row == day) =
      others.find? fun row => owner row == id && date row == day := by
  have matched (row : α) (own : (owner row == id && date row == day) = true) :
      owner row = id ∧ (owner row, date row) = (id, day) := by
    have key := (isOwned_iff (id, day) row).mp own
    exact ⟨(Prod.mk.inj key).1, key⟩
  calc rows.find? _
    _ = (rows.filter left).find? _ :=
      (find?_filter_of_imp fun row _ own => throughLeft row (matched row own).1).symm
    _ = (others.filter right).find? _ :=
      find?_eq_of_perm perm <| eq_of_isMatch (apart.sublist (List.filter_sublist.map _))
        fun row own => (matched row own).2
    _ = others.find? _ :=
      find?_filter_of_imp fun row _ own => throughRight row (matched row own).1

/-- The rows of one owner have different dates. -/
theorem nodup_dates (apart : (rows.map fun row => (owner row, date row)).Nodup) (id : Id) :
    ((rows.filter (owner · == id)).map date).Nodup := by
  have keys : ((rows.filter (owner · == id)).map fun row => (owner row, date row)) =
      ((rows.filter (owner · == id)).map date).map (Prod.mk id) := by
    rw [List.map_map]
    refine List.map_congr_left fun row member => ?_
    have own := (List.mem_filter.mp member).2
    rw [beq_iff_eq] at own
    exact Prod.ext own rfl
  have dates := apart.sublist (List.filter_sublist (p := (owner · == id)).map _)
  rw [keys] at dates
  exact dates.of_map _

/-- The rows of the owner in a range of dates are the same then, too. -/
theorem inRange_eq_of_owner (perm : (rows.filter left).Perm (others.filter right))
    (apart : (rows.map fun row => (owner row, date row)).Nodup)
    (throughLeft : ∀ row, owner row = id → left row = true)
    (throughRight : ∀ row, owner row = id → right row = true) (first last : Date) :
    inRange date first last (rows.filter (owner · == id)) =
      inRange date first last (others.filter (owner · == id)) := by
  have ownLeft : (rows.filter left).filter (owner · == id) = rows.filter (owner · == id) :=
    filter_filter_of_imp fun row _ own => throughLeft row (beq_iff_eq.mp own)
  have ownRight : (others.filter right).filter (owner · == id) = others.filter (owner · == id) :=
    filter_filter_of_imp fun row _ own => throughRight row (beq_iff_eq.mp own)
  have ownRows : (rows.filter (owner · == id)).Perm (others.filter (owner · == id)) := by
    rw [← ownLeft, ← ownRight]
    exact perm.filter _
  exact inRange_eq_of_perm ownRows (nodup_dates apart id)

end Owned

/-! ## Rows under other names -/

section Renamed

variable {owner : α → Id} {date : α → Date} {id : Id} {left right : α → Bool} {rename : α → α}

/-- Where what filters let through is the same up to names, so is the row of an owner on
a date. -/
theorem find?_map_of_owner (perm : ((rows.filter left).map rename).Perm (others.filter right))
    (kept : ∀ row, (owner (rename row), date (rename row)) = (owner row, date row))
    (keptLeft : ∀ row, left (rename row) = left row)
    (apart : (rows.map fun row => (owner row, date row)).Nodup)
    (throughLeft : ∀ row, owner row = id → left row = true)
    (throughRight : ∀ row, owner row = id → right row = true) (day : Date) :
    (rows.find? fun row => owner row == id && date row == day).map rename =
      others.find? fun row => owner row == id && date row == day := by
  have apartToo : ((rows.map rename).map fun row => (owner row, date row)).Nodup := by
    rw [List.map_map]
    exact (List.map_congr_left fun row _ => kept row) ▸ apart
  have search : ((fun row => owner row == id && date row == day) ∘ rename) =
      fun row => owner row == id && date row == day := by
    funext row
    have same := Prod.mk.inj (kept row)
    dsimp only [Function.comp_apply]
    rw [same.1, same.2]
  rw [← filter_map_of_kept keptLeft] at perm
  rw [← find?_eq_of_owner perm apartToo throughLeft throughRight day, List.find?_map, search]

/-- What is written to a row, be it stored or fresh, is the same up to its name. -/
theorem change_getD (change rename : α → α) {stored : Option α} {other : α}
    (changed : ∀ row, rename (change row) = change (rename row)) (new : rename fresh = other) :
    change ((stored.map rename).getD other) = rename (change (stored.getD fresh)) := by
  rw [changed]
  cases stored with
  | none => exact congrArg change new.symm
  | some row => rfl

/-- The same write to rows that are the same up to names leaves such rows. -/
theorem upsert_map_perm {other : α}
    (perm : ((rows.filter left).map rename).Perm (others.filter right))
    (kept : ∀ row, key (rename row) = key row) (apart : (rows.map key).Nodup)
    (matched : ∀ row, isMatch row = true → key row = k)
    (named : ∀ row, isMatch (rename row) = isMatch row)
    (changed : ∀ row, rename (change row) = change (rename row)) (new : rename fresh = other) :
    ((upsert isMatch fresh change (rows.filter left)).map rename).Perm
      (upsert isMatch other change (others.filter right)) := by
  rw [map_upsert named changed new]
  refine upsert_perm perm (eq_of_isMatch ?_ matched)
  rw [List.map_map]
  refine (List.map_congr_left fun row _ => ?_) ▸ apart.sublist (List.filter_sublist.map key)
  exact (kept row).symm

end Renamed

end Lodging.Stores
