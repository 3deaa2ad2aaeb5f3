/-! # Sorting that keeps the order of equals

Plans are listed by base rate and offers by total, and equals stay in the order
in which they came. That one element comes before another in a list is said by
the list of the two, which is then a part of the list. Sorting keeps it for
equals (`Lodging.StableSort.pairwise_mergeSort`), and in a list sorted without
equals nothing is left to choose. What a filter picks out is not moved at all where it
is in order already (`Lodging.StableSort.filter_mergeSort`). So the order of elements
that are not equals does not matter (`Lodging.StableSort.mergeSort_congr`).
-/

namespace Lodging.StableSort

variable {α : Type} {le : α → α → Bool}

/-- The element at an earlier place comes before the one at a later place. -/
theorem pair_sublist {list : List α} {one other : α} {first second : Nat}
    (earlier : first < second) (left : list[first]? = some one)
    (right : list[second]? = some other) : [one, other].Sublist list := by
  obtain ⟨inside, rfl⟩ := List.getElem?_eq_some_iff.mp left
  have rest : other ∈ list.drop (first + 1) := by
    apply List.mem_of_getElem? (i := second - (first + 1))
    rw [List.getElem?_drop, Nat.add_sub_cancel' earlier]
    exact right
  have pair : [list[first], other].Sublist (list.drop first) := by
    rw [List.drop_eq_getElem_cons inside]
    exact (List.singleton_sublist.mpr rest).cons_cons _
  exact pair.trans (List.drop_sublist first list)

/-- **Stability.** In a sorted list the elements ascend, and equals come in the
order in which they came before. -/
theorem pairwise_mergeSort (trans : ∀ a b c, le a b → le b c → le a c)
    (total : ∀ a b, le a b || le b a) (list : List α) :
    (list.mergeSort le).Pairwise fun one other =>
      le one other ∧ (le other one → [one, other].Sublist list) := by
  -- The list is sorted together with its places, which break all ties.
  let sorted := list.zipIdx.mergeSort (List.zipIdxLE le)
  have perm : sorted.Perm list.zipIdx := List.mergeSort_perm _ _
  have ordered : sorted.Pairwise fun one other => List.zipIdxLE le one other :=
    List.pairwise_mergeSort (List.zipIdxLE_trans trans) (List.zipIdxLE_total total) _
  have placesDiffer : sorted.Pairwise fun one other => one.2 ≠ other.2 := by
    have places : (sorted.map (·.2)).Nodup := by
      rw [(perm.map (·.2)).nodup_iff, List.zipIdx_map_snd]
      exact List.nodup_range'
    exact List.pairwise_map.mp places
  rw [← List.mergeSort_zipIdx, List.pairwise_map]
  refine (ordered.and placesDiffer).imp_of_mem ?_
  rintro ⟨one, first⟩ ⟨other, second⟩ left right ⟨least, different⟩
  have atFirst := List.mk_mem_zipIdx_iff_getElem?.mp (perm.mem_iff.mp left)
  have atSecond := List.mk_mem_zipIdx_iff_getElem?.mp (perm.mem_iff.mp right)
  simp only [List.zipIdxLE] at least
  by_cases ascends : le one other = true
  · refine ⟨ascends, fun equal => ?_⟩
    rw [if_pos ascends, if_pos equal, decide_eq_true_eq] at least
    exact pair_sublist (Nat.lt_of_le_of_ne least different) atFirst atSecond
  · rw [if_neg ascends] at least
    exact nomatch least

/-- What a filter lets through of a list is let through in the same order after
sorting, if it was in order before. -/
theorem filter_mergeSort (trans : ∀ a b c, le a b → le b c → le a c)
    (total : ∀ a b, le a b || le b a) {list : List α} {passes : α → Bool}
    (sorted : (list.filter passes).Pairwise fun one other => le one other) :
    (list.mergeSort le).filter passes = list.filter passes := by
  have kept : (list.filter passes).Sublist (list.mergeSort le) :=
    List.sublist_mergeSort trans total sorted List.filter_sublist
  have picked : (list.filter passes).Sublist ((list.mergeSort le).filter passes) := by
    have through := kept.filter passes
    rwa [List.filter_filter, List.filter_congr fun _ _ => Bool.and_self _] at through
  have counts : (list.filter passes).length = ((list.mergeSort le).filter passes).length :=
    ((List.mergeSort_perm list le).filter passes).length_eq.symm
  exact (picked.eq_of_length counts).symm

/-- Both elements come before each other, so that sorting does not tell them apart. -/
def equals (le : α → α → Bool) (one other : α) : Bool :=
  le one other && le other one

theorem pairwise_filter_equals (trans : ∀ a b c, le a b → le b c → le a c) (list : List α)
    (one : α) : (list.filter (equals le one)).Pairwise fun first second => le first second := by
  refine List.pairwise_iff_forall_sublist.mpr fun {first second} pair => ?_
  have left := (List.mem_filter.mp (pair.subset List.mem_cons_self)).2
  have right := (List.mem_filter.mp (pair.subset (.tail _ List.mem_cons_self))).2
  rw [equals, Bool.and_eq_true] at left right
  exact trans first one second left.2 right.1

theorem equals_self (refl : ∀ a, le a a) (one : α) : equals le one one = true := by
  rw [equals, refl, Bool.and_self]

/-- Lists with the same equals have the same elements. -/
theorem mem_iff_of_filter_equals (refl : ∀ a, le a a) {list other : List α}
    (same : ∀ a, list.filter (equals le a) = other.filter (equals le a)) (one : α) :
    one ∈ list ↔ one ∈ other := by
  have members : one ∈ list.filter (equals le one) ↔ one ∈ other.filter (equals le one) := by
    rw [same]
  simpa only [List.mem_filter, equals_self refl, and_true] using members

/-- Two sorted lists are the same if they have the same equals in the same order. -/
theorem eq_of_filter_equals (refl : ∀ a, le a a) {list other : List α}
    (sorted : list.Pairwise fun one other => le one other)
    (sortedToo : other.Pairwise fun one other => le one other)
    (same : ∀ a, list.filter (equals le a) = other.filter (equals le a)) : list = other := by
  induction list generalizing other with
  | nil =>
      cases other with
      | nil => rfl
      | cons head rest =>
          exact nomatch (mem_iff_of_filter_equals refl same head).mpr List.mem_cons_self
  | cons first rest ih =>
      have mem_iff := mem_iff_of_filter_equals refl same
      cases other with
      | nil => exact nomatch (mem_iff first).mp List.mem_cons_self
      | cons head others =>
          -- Each head comes before the other one, as that is in its list.
          have before : le first head = true := by
            rcases List.mem_cons.mp ((mem_iff head).mpr List.mem_cons_self) with rfl | later
            · exact refl head
            · exact List.rel_of_pairwise_cons sorted later
          have after : le head first = true := by
            rcases List.mem_cons.mp ((mem_iff first).mp List.mem_cons_self) with rfl | later
            · exact refl first
            · exact List.rel_of_pairwise_cons sortedToo later
          have tied : equals le first head = true := by
            rw [equals, before, after, Bool.and_self]
          have heads := same first
          rw [List.filter_cons_of_pos (equals_self refl first),
            List.filter_cons_of_pos tied] at heads
          obtain rfl : first = head := (List.cons.inj heads).1
          have rests (a : α) : rest.filter (equals le a) = others.filter (equals le a) := by
            have parts := same a
            by_cases passes : equals le a first = true
            · rw [List.filter_cons_of_pos passes, List.filter_cons_of_pos passes] at parts
              exact (List.cons.inj parts).2
            · rwa [List.filter_cons_of_neg passes, List.filter_cons_of_neg passes] at parts
          rw [ih sorted.of_cons sortedToo.of_cons rests]

/-- Sorting gives the same for lists that have the same equals in the same order. -/
theorem mergeSort_congr (trans : ∀ a b c, le a b → le b c → le a c)
    (total : ∀ a b, le a b || le b a) {list other : List α}
    (same : ∀ a, list.filter (equals le a) = other.filter (equals le a)) :
    list.mergeSort le = other.mergeSort le := by
  have refl (a : α) : le a a = true := by
    simpa only [Bool.or_self] using total a a
  refine eq_of_filter_equals refl (List.pairwise_mergeSort trans total _)
    (List.pairwise_mergeSort trans total _) fun a => ?_
  rw [filter_mergeSort trans total (pairwise_filter_equals trans list a),
    filter_mergeSort trans total (pairwise_filter_equals trans other a), same]

end Lodging.StableSort
