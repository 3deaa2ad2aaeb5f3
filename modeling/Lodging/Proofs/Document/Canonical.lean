import Mathlib.Data.String.Basic
import Lodging.Document.Basic

/-! # The canonical form of a document

The canonical form has the entries of every record in the order of their names, each name
once. It is a form that stays as it is: to bring a document into it twice is the same as to do
so once (`Lodging.Document.canonical_canonical`).
-/

namespace Lodging.Document

variable {name : String} {value : Document} {entries sorted : List (String × Document)}

/-- The entries are in the order of their names, each name once, and their values are in
canonical form. -/
structure InOrder (entries : List (String × Document)) : Prop where
  ascending : entries.Pairwise fun one other => one.1 < other.1
  canonical : ∀ entry ∈ entries, entry.2.canonical = entry.2

theorem mem_putSorted {entry : String × Document} (member : entry ∈ putSorted name value entries) :
    entry = (name, value) ∨ entry ∈ entries := by
  induction entries with
  | nil => exact .inl (List.mem_singleton.mp member)
  | cons first rest ih =>
      rw [putSorted] at member
      split at member
      · exact List.mem_cons.mp member
      · split at member
        · rcases List.mem_cons.mp member with new | later
          · exact .inl new
          · exact .inr (List.mem_cons_of_mem _ later)
        · rcases List.mem_cons.mp member with own | later
          · exact .inr (own ▸ List.mem_cons_self)
          · exact (ih later).imp_right (List.mem_cons_of_mem _)

/-- An entry is put to its place. -/
theorem putSorted_ascending (ascending : entries.Pairwise fun one other => one.1 < other.1) :
    (putSorted name value entries).Pairwise fun one other => one.1 < other.1 := by
  induction entries with
  | nil => exact List.pairwise_singleton _ _
  | cons first rest ih =>
      obtain ⟨above, others⟩ := List.pairwise_cons.mp ascending
      rw [putSorted]
      split
      · rename_i before
        refine List.pairwise_cons.mpr ⟨fun entry member => ?_, ascending⟩
        rcases List.mem_cons.mp member with rfl | later
        · exact before
        · exact lt_trans before (above entry later)
      · rename_i notBefore
        split
        · rename_i same
          exact List.pairwise_cons.mpr ⟨fun entry member => same ▸ above entry member, others⟩
        · rename_i different
          refine List.pairwise_cons.mpr ⟨fun entry member => ?_, ih others⟩
          rcases mem_putSorted member with rfl | old
          · exact lt_of_le_of_ne (not_lt.mp notBefore) (Ne.symm different)
          · exact above entry old

theorem InOrder.putSorted (ordered : InOrder entries) (name : String)
    (fixed : value.canonical = value) : InOrder (putSorted name value entries) where
  ascending := putSorted_ascending ordered.ascending
  canonical := by
    intro entry member
    rcases mem_putSorted member with rfl | old
    · exact fixed
    · exact ordered.canonical entry old

/-- An entry whose name comes after all others is put to the end. -/
theorem putSorted_of_last (last : ∀ entry ∈ entries, entry.1 < name) :
    putSorted name value entries = entries ++ [(name, value)] := by
  induction entries with
  | nil => rfl
  | cons first rest ih =>
      obtain ⟨before, others⟩ := List.forall_mem_cons.mp last
      rw [putSorted, if_neg (lt_asymm before), if_neg (ne_of_gt before), ih others]
      rfl

/-- Entries that are in order are put one behind the other. -/
theorem canonicalEntries_of_inOrder (ordered : InOrder (sorted ++ entries)) :
    canonicalEntries sorted entries = sorted ++ entries := by
  induction entries generalizing sorted with
  | nil => rw [canonicalEntries, List.append_nil]
  | cons first rest ih =>
      obtain ⟨name, value⟩ := first
      have fixed : value.canonical = value :=
        ordered.canonical (name, value) (List.mem_append_right _ List.mem_cons_self)
      have last : ∀ entry ∈ sorted, entry.1 < name := fun entry member =>
        (List.pairwise_append.mp ordered.ascending).2.2 entry member _ List.mem_cons_self
      rw [List.append_cons] at ordered
      rw [canonicalEntries, fixed, putSorted_of_last last, ih ordered, ← List.append_cons]

/-- A record of entries in order is in canonical form. -/
theorem InOrder.canonical_record (ordered : InOrder entries) :
    (record entries).canonical = record entries := by
  have kept : canonicalEntries [] entries = [] ++ entries := canonicalEntries_of_inOrder ordered
  rw [Document.canonical, kept, List.nil_append]

/-- A list of elements in canonical form is in canonical form. -/
theorem canonical_list {elements : List Document}
    (fixed : ∀ element ∈ elements, element.canonical = element) :
    (list elements).canonical = list elements := by
  have same : canonicalElements elements = elements := by
    induction elements with
    | nil => rfl
    | cons first rest ih =>
        obtain ⟨own, others⟩ := List.forall_mem_cons.mp fixed
        rw [canonicalElements, own, ih others]
  rw [Document.canonical, same]

theorem inOrder_singleton (fixed : value.canonical = value) : InOrder [(name, value)] where
  ascending := List.pairwise_singleton _ _
  canonical := by
    intro entry member
    obtain rfl := List.mem_singleton.mp member
    exact fixed

mutual

/-- The canonical form is canonical. -/
theorem canonical_canonical (document : Document) :
    document.canonical.canonical = document.canonical := by
  match document with
  | .null | .bool _ | .integer _ | .real _ | .text _ => rfl
  | .list elements => simp only [canonical, canonicalElements_canonicalElements elements]
  | .record entries =>
      exact (inOrder_canonicalEntries entries
        ⟨.nil, fun _ member => nomatch member⟩).canonical_record

theorem canonicalElements_canonicalElements (elements : List Document) :
    canonicalElements (canonicalElements elements) = canonicalElements elements := by
  match elements with
  | [] => rfl
  | element :: rest =>
      simp only [canonicalElements, canonical_canonical element,
        canonicalElements_canonicalElements rest]

/-- Whatever is put into entries in order leaves them in order. -/
theorem inOrder_canonicalEntries (entries : List (String × Document))
    {sorted : List (String × Document)} (ordered : InOrder sorted) :
    InOrder (canonicalEntries sorted entries) := by
  match entries with
  | [] => exact ordered
  | (name, value) :: rest =>
      exact inOrder_canonicalEntries rest (ordered.putSorted name (canonical_canonical value))

end

end Lodging.Document
