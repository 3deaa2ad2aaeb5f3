import Lodging.Proofs.Document.Decode

/-! # What is sent for a field

A body is a record with an entry for a field, or a list with an element in its place
(`Lodging.Fields.sent`). A list that is accepted is read as the record would be that has its
elements under the names of the fields (`Lodging.Fields.ofEntries_sent`), so what a body makes of
a value is told in one way for both: field by field, by what is sent under its name.
-/

namespace Lodging

variable {α β : Type}

/-! ## Fields that may be absent -/

/-- What is sent for a field replaces its value. Nothing, or null, keeps it. -/
def Decoder.Replaces (decoder : Decoder α) (sent : Option Draft) (before after : α) : Prop :=
  match sent with
  | none | some .null => after = before
  | some draft => decoder draft = .ok after

/-- What is sent for a field replaces its value, and null takes it away. Nothing keeps it. -/
def Decoder.Revises (decoder : Decoder α) (sent : Option Draft) (before after : Option α) : Prop :=
  match sent with
  | none => after = before
  | some .null => after = none
  | some draft => ∃ value, decoder draft = .ok value ∧ after = some value

namespace Fields

/-- The names of the fields in the order of their declaration. -/
def names (fields : Fields α) : List String :=
  fields.checks.map (·.1)

/-- What a body has under the name of a field. -/
def sent (fields : Fields α) : Draft → String → Option Draft
  | .record entries, name => Draft.entry? name entries
  | .list elements, name => elements[fields.names.idxOf name]?
  | _, _ => none

/-- The fields make of a list what they make of the entries that the elements are, each under
the name in its place. -/
def IsPositional (fields : Fields α) : Prop :=
  ∀ elements value rest, fields.ofElements elements = .ok (value, rest) →
    rest = elements.drop fields.names.length ∧
      ∀ entries, (∀ (place : Nat) (name : String), fields.names[place]? = some name →
        entries name = elements[place]?) → fields.ofEntries entries = .ok value

theorem names_seq (first : Fields (α → β)) (last : Fields α) :
    (first <*> last).names = first.names ++ last.names :=
  List.map_append

theorem IsPositional.seq {first : Fields (α → β)} {last : Fields α} (before : first.IsPositional)
    (after : last.IsPositional) : (first <*> last).IsPositional := by
  intro elements value rest made
  obtain ⟨make, part, others, readMake, readPart, rfl⟩ := of_ofElements_seq made
  obtain ⟨rfl, makes⟩ := before elements make others readMake
  obtain ⟨rfl, parts⟩ := after _ part rest readPart
  rw [names_seq]
  refine ⟨by rw [List.drop_drop, List.length_append], fun entries placed => ?_⟩
  have early := makes entries fun place name named => by
    have within := (List.getElem?_eq_some_iff.mp named).1
    exact placed place name ((List.getElem?_append_left within).trans named)
  -- The names of the last fields stand behind those of the first, as their elements do.
  have late := parts entries fun place name named => by
    have shifted : (first.names ++ last.names)[first.names.length + place]? = some name := by
      rw [List.getElem?_append_right (Nat.le_add_right _ _), Nat.add_sub_cancel_left, named]
    rw [List.getElem?_drop]
    exact placed _ name shifted
  exact bind_eq_ok.mpr ⟨make, early, bind_eq_ok.mpr ⟨part, late, rfl⟩⟩

theorem IsPositional.map {first : Fields α} (given : first.IsPositional) (make : α → β) :
    (make <$> first).IsPositional := by
  have start : (Pure.pure make : Fields (α → β)).IsPositional := by
    intro elements value rest made
    obtain ⟨rfl, rfl⟩ := Prod.mk.inj (Except.ok.inj made)
    exact ⟨rfl, fun _ _ => rfl⟩
  exact start.seq given

/-- **Records and lists.** What the fields make of a body, they make of what is sent for
each. -/
theorem ofEntries_sent {fields : Fields α} (positional : fields.IsPositional)
    (distinct : fields.names.Nodup) {body : Draft} {value : α}
    (decoded : fields.decode body = .ok value) :
    fields.ofEntries (fields.sent body) = .ok value := by
  cases body with
  | record entries =>
      obtain ⟨_, _, made⟩ := bind_eq_ok.mp decoded
      exact made
  | list elements =>
      obtain ⟨⟨made, rest⟩, read, decoded⟩ := bind_eq_ok.mp decoded
      split at decoded
      · rename_i value heq
        obtain rfl := Except.ok.inj decoded
        rw [heq] at read
        refine (positional elements _ _ read).2 _ fun place name named => ?_
        obtain ⟨within, rfl⟩ := List.getElem?_eq_some_iff.mp named
        rw [sent, distinct.idxOf_getElem place within]
      · exact nomatch decoded
  | _ => exact nomatch decoded

/-! ## Single fields -/

section Field

variable {name : String} {decoder : Decoder α} {absent missing : Except DecodeError α}
  {entries : String → Option Draft}

/-- What may be missing from a list is the same when absent from a record. -/
theorem isPositional_field (same : ∀ value, missing = .ok value → absent = .ok value) :
    (field name decoder absent missing).IsPositional := by
  intro elements value rest made
  cases elements with
  | nil =>
      obtain ⟨value, missed, whole⟩ := map_eq_ok.mp made
      obtain ⟨rfl, rfl⟩ := Prod.mk.inj whole
      refine ⟨rfl, fun entries placed => ?_⟩
      have nothing : entries name = none := placed 0 name rfl
      simp only [field, nothing]
      exact same value missed
  | cons draft others =>
      obtain ⟨value, read, whole⟩ := map_eq_ok.mp made
      obtain ⟨rfl, rfl⟩ := Prod.mk.inj whole
      refine ⟨rfl, fun entries placed => ?_⟩
      have first : entries name = some draft := placed 0 name rfl
      simp only [field, first]
      exact read

theorem isPositional_optional : (optional name decoder).IsPositional :=
  isPositional_field nofun

theorem isPositional_omissible : (omissible name decoder).IsPositional :=
  isPositional_field fun _ same => same

/-- A field that may be null is read as what replaces a value. -/
theorem givesFrom_nullable {unlisted : Except DecodeError (Option α)} :
    (field name (Decoder.nullable decoder) (.ok none) unlisted).GivesFrom entries fun part =>
      ∀ before, decoder.Replaces (entries name) before (part.getD before) := by
  apply givesFrom_field
  · intro absence part made before
    obtain rfl := Except.ok.inj made
    rw [absence]
    rfl
  · intro draft present part made before
    rw [present]
    cases draft with
    | null =>
        obtain rfl := Except.ok.inj made
        rfl
    | _ =>
        obtain ⟨value, read, rfl⟩ := map_eq_ok.mp made
        exact read

end Field

end Fields

end Lodging
