import Lodging.Proofs.Document.Decode

/-! # Reading what has been written

A decoder reads a document as a value (`Lodging.Decoder.Reads`). A record of entries with
different names, each of them that of a field and with a document that the field reads, is read
as the value that the fields make of the entries (`Lodging.Fields.reads_record`); what they
make is told field by field (`Lodging.Fields.Makes.seq`).
-/

namespace Lodging

variable {α β : Type}

/-! ## Single values -/

namespace Decoder

/-- The decoder reads the document as the value. -/
def Reads (decoder : Decoder α) (document : Document) (value : α) : Prop :=
  decoder document = .ok value

theorem reads_text (value : String) : text.Reads (.text value) value := rfl

theorem reads_bounded {least most value : Int} (lower : least ≤ value) (upper : value ≤ most) :
    (bounded least most).Reads (.integer value) value :=
  if_pos ⟨lower, upper⟩

/-- Any document is read in canonical form. -/
theorem reads_any (document : Document) : any.Reads document document.canonical := by
  rw [Reads, any, Draft.toDocument?_ofDocument]

theorem reads_choice {choices : List (String × α)} {fallback : Option α} {name : String}
    {value : α} (chosen : (choices.lookup name).or fallback = some value) :
    (choice choices fallback).Reads (.text name) value := by
  simp only [Reads, choice, Draft.ofDocument, chosen]

/-- What may be absent is read like what it is when it is there. -/
theorem Reads.nullable {decoder : Decoder α} {document : Document} {value : α}
    (read : decoder.Reads document value) (present : document ≠ .null) :
    (nullable decoder).Reads document (some value) := by
  have written : decoder.nullable document = (decoder document).map some := by
    cases document with
    | null => exact absurd rfl present
    | _ => rfl
  rw [Reads, written, read]
  rfl

/-- A list is read element by element. -/
theorem reads_listOf {element : Decoder α} {write : α → Document} {values : List α}
    (each : ∀ value ∈ values, element.Reads (write value) value) :
    (listOf element).Reads (.list (values.map write)) values := by
  change (Draft.ofElements (values.map write)).mapM element = .ok values
  induction values with
  | nil => rfl
  | cons value rest ih =>
      obtain ⟨first, others⟩ := List.forall_mem_cons.mp each
      rw [List.map_cons, Draft.ofElements, List.mapM_cons, first, ih others]
      rfl

end Decoder

/-! ## Records -/

namespace Fields

variable {entries : List (String × Document)}

/-- The fields make the value of the entries. -/
def Makes (fields : Fields α) (entries : List (String × Document)) (value : α) : Prop :=
  fields.ofEntries (fun name => (Document.entry? name entries).map Draft.ofDocument) = .ok value

/-- Two fields in sequence make what the one makes of the other. -/
theorem Makes.seq {first : Fields (α → β)} {last : Fields α} {make : α → β} {value : α}
    (made : first.Makes entries make) (given : last.Makes entries value) :
    (first <*> last).Makes entries (make value) :=
  bind_eq_ok.mpr ⟨make, made, bind_eq_ok.mpr ⟨value, given, rfl⟩⟩

theorem Makes.map {first : Fields α} {value : α} (given : first.Makes entries value)
    (make : α → β) : (make <$> first).Makes entries (make value) :=
  have start : Makes (Pure.pure make : Fields (α → β)) entries make := rfl
  start.seq given

section Field

variable {name : String} {decoder : Decoder α} {absent missing : Except DecodeError α} {value : α}

/-- A field makes what is read of the entry with its name. -/
theorem makes_of_present {document : Document}
    (present : Document.entry? name entries = some document)
    (read : decoder.Reads document value) :
    (field name decoder absent missing).Makes entries value := by
  rw [Makes, field]
  dsimp only
  rw [present]
  exact read

/-- A field without an entry makes its default. -/
theorem makes_of_absent (absence : Document.entry? name entries = none) :
    (field name decoder (.ok value) missing).Makes entries value := by
  rw [Makes, field]
  dsimp only
  rw [absence]
  rfl

end Field

/-- The entry is that of a field, which accepts what is written there. -/
def Admits (fields : Fields α) (entry : String × Document) : Prop :=
  ∃ check, fields.checks.lookup entry.1 = some check ∧ check entry.2 = .ok ()

theorem admits_of_reads {fields : Fields α} {name : String} {decoder : Decoder β}
    {document : Document} {value : β}
    (known : fields.checks.lookup name = some fun draft => (decoder draft).map fun _ => ())
    (read : decoder.Reads document value) : fields.Admits (name, document) := by
  refine ⟨_, known, ?_⟩
  dsimp only
  rw [read]
  rfl

/-- Entries with names of their own pass if each is admitted for itself. -/
theorem checkEntries_of_admitted {fields : Fields α} {seen : List String}
    (apart : (entries.map (·.1)).Nodup) (unseen : ∀ entry ∈ entries, entry.1 ∉ seen)
    (admitted : ∀ entry ∈ entries, fields.Admits entry) :
    checkEntries fields.checks seen (Draft.ofEntries entries) = .ok () := by
  induction entries generalizing seen with
  | nil => rfl
  | cons first rest ih =>
      obtain ⟨name, document⟩ := first
      obtain ⟨fresh, others⟩ := List.nodup_cons.mp apart
      obtain ⟨new, later⟩ := List.forall_mem_cons.mp unseen
      obtain ⟨⟨check, known, passed⟩, admittedRest⟩ := List.forall_mem_cons.mp admitted
      have unseenLater : ∀ entry ∈ rest, entry.1 ∉ name :: seen := by
        intro entry member repeated
        rcases List.mem_cons.mp repeated with same | old
        · exact fresh (List.mem_map.mpr ⟨entry, member, same⟩)
        · exact later entry member old
      have notSeen : seen.contains name = false :=
        Bool.eq_false_iff.mpr fun contained => new (List.contains_iff_mem.mp contained)
      dsimp only at known passed
      rw [Draft.ofEntries, checkEntries, known]
      dsimp only
      rw [notSeen, if_neg Bool.false_ne_true, passed]
      exact ih others unseenLater admittedRest

/-- **Records.** Entries of different names that are admitted are read as the value that the
fields make of them. -/
theorem reads_record {fields : Fields α} {value : α} (apart : (entries.map (·.1)).Nodup)
    (admitted : ∀ entry ∈ entries, fields.Admits entry) (made : fields.Makes entries value) :
    Decoder.Reads fields.decode (.record entries) value := by
  have checked : checkEntries fields.checks [] (Draft.ofEntries entries) = .ok () :=
    checkEntries_of_admitted apart (fun _ _ => List.not_mem_nil) admitted
  change (checkEntries fields.checks [] (Draft.ofEntries entries) >>= fun _ =>
    fields.ofEntries fun name => Draft.entry? name (Draft.ofEntries entries)) = _
  rw [checked, funext fun name => Draft.entry?_ofEntries name entries]
  exact made

/-- A record of one field is read if its field is. -/
theorem reads_required {name : String} {decoder : Decoder α} {document : Document} {value : α}
    (read : decoder.Reads document value) :
    Decoder.Reads (required name decoder).decode (.record [(name, document)]) value := by
  have known : (required name decoder).checks.lookup name =
      some fun draft => (decoder draft).map fun _ => () :=
    List.lookup_cons_self
  have present : Document.entry? name [(name, document)] = some document :=
    congrArg (Option.map Prod.snd) (List.find?_cons_of_pos (beq_self_eq_true name))
  refine reads_record (List.pairwise_singleton _ _) (List.forall_mem_singleton.mpr ?_) ?_
  · exact admits_of_reads known read
  · exact makes_of_present present read

end Fields

end Lodging
