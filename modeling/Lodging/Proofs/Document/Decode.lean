import Lodging.Document.Decode

/-! # What decoders promise

A decoder gives a property when every value that it accepts has it
(`Lodging.Decoder.Gives`). A record gives what its fields give: the property of
the whole is handed from field to field as one of the function that still waits
for the others (`Lodging.Fields.Gives.seq`), so a property that depends on one
field is shown from the decoder of that field alone. What holds of the values made of certain
entries is handed on in the same way (`Lodging.Fields.GivesFrom.seq`).
-/

namespace Lodging

variable {α β ε : Type}

theorem bind_eq_ok {first : Except ε α} {next : α → Except ε β} {answer : β} :
    (first >>= next) = .ok answer ↔ ∃ value, first = .ok value ∧ next value = .ok answer := by
  cases first with
  | error cause => simp only [bind, Except.bind, reduceCtorEq, false_and, exists_false]
  | ok value => simp only [bind, Except.bind, Except.ok.injEq, exists_eq_left']

theorem map_eq_ok {make : α → β} {result : Except ε α} {answer : β} :
    result.map make = .ok answer ↔ ∃ value, result = .ok value ∧ make value = answer := by
  cases result with
  | error cause => simp only [Except.map, reduceCtorEq, false_and, exists_false]
  | ok value => simp only [Except.map, Except.ok.injEq, exists_eq_left']

theorem mapError_eq_ok {δ : Type} {cause : ε → δ} {result : Except ε α} {answer : α} :
    result.mapError cause = .ok answer ↔ result = .ok answer := by
  cases result with
  | error problem => exact ⟨fun same => (nomatch same), fun same => (nomatch same)⟩
  | ok value =>
      exact ⟨fun same => congrArg Except.ok (Except.ok.inj same),
        fun same => congrArg Except.ok (Except.ok.inj same)⟩

/-- Whether a result is some value can be computed where values can be compared. -/
theorem eq_ok_of_toOption {result : Except ε α} {value : α}
    (given : result.toOption = some value) : result = .ok value := by
  cases result with
  | error cause => exact nomatch given
  | ok other => exact congrArg Except.ok (Option.some.inj given)

namespace Decoder

/-- Every value that is accepted has the property. -/
def Gives (decoder : Decoder α) (property : α → Prop) : Prop :=
  ∀ draft value, decoder draft = .ok value → property value

variable {decoder : Decoder α} {property : α → Prop}

theorem bounded_gives (least most : Int) :
    (bounded least most).Gives fun value => least ≤ value ∧ value ≤ most := by
  intro draft value accepted
  unfold bounded at accepted
  split at accepted
  · split at accepted
    · rename_i within
      obtain rfl := Except.ok.inj accepted
      exact within
    · exact nomatch accepted
  · exact nomatch accepted

theorem Gives.nullable (given : decoder.Gives property) :
    (nullable decoder).Gives fun value => ∀ present ∈ value, property present := by
  intro draft value accepted present member
  obtain rfl := Option.mem_def.mp member
  unfold Decoder.nullable at accepted
  split at accepted
  · exact nomatch accepted
  · obtain ⟨_, read, same⟩ := map_eq_ok.mp accepted
    obtain rfl := Option.some.inj same
    exact given _ _ read

theorem Gives.mapM (given : decoder.Gives property) (drafts : List Draft) {values : List α}
    (accepted : drafts.mapM decoder = .ok values) : ∀ value ∈ values, property value := by
  induction drafts generalizing values with
  | nil =>
      obtain rfl := Except.ok.inj accepted
      exact fun _ member => nomatch member
  | cons draft rest ih =>
      rw [List.mapM_cons, bind_eq_ok] at accepted
      obtain ⟨first, readFirst, accepted⟩ := accepted
      obtain ⟨others, readOthers, same⟩ := bind_eq_ok.mp accepted
      obtain rfl := Except.ok.inj same
      intro value member
      rcases List.mem_cons.mp member with rfl | later
      · exact given draft value readFirst
      · exact ih readOthers value later

theorem Gives.listOf (given : decoder.Gives property) :
    (listOf decoder).Gives fun values => ∀ value ∈ values, property value := by
  intro draft values accepted
  unfold Decoder.listOf at accepted
  split at accepted
  · exact given.mapM _ accepted
  · exact nomatch accepted

end Decoder

namespace Fields

/-- Every value made of the entries of a record or of the elements of a list has
the property. -/
structure Gives (fields : Fields α) (property : α → Prop) : Prop where
  entries : ∀ entries value, fields.ofEntries entries = .ok value → property value
  elements : ∀ elements value rest, fields.ofElements elements = .ok (value, rest) → property value

variable {property : β → Prop}

/-- A record gives what its fields give. -/
theorem Gives.decode {fields : Fields β} (given : fields.Gives property) :
    Decoder.Gives fields.decode property := by
  intro draft value accepted
  cases draft with
  | record entries =>
      obtain ⟨_, _, made⟩ := bind_eq_ok.mp accepted
      exact given.entries _ value made
  | list elements =>
      obtain ⟨⟨made, rest⟩, read, accepted⟩ := bind_eq_ok.mp accepted
      split at accepted
      · rename_i value heq
        obtain rfl := Except.ok.inj accepted
        rw [heq] at read
        exact given.elements elements _ _ read
      · exact nomatch accepted
  | _ => exact nomatch accepted

/-- What is made of entries is made of what the first fields and the last make of them. -/
theorem of_ofEntries_seq {first : Fields (α → β)} {last : Fields α}
    {entries : String → Option Draft} {value : β}
    (made : (first <*> last).ofEntries entries = .ok value) :
    ∃ make part, first.ofEntries entries = .ok make ∧ last.ofEntries entries = .ok part ∧
      make part = value := by
  obtain ⟨make, readMake, made⟩ := bind_eq_ok.mp made
  obtain ⟨part, readPart, same⟩ := bind_eq_ok.mp made
  exact ⟨make, part, readMake, readPart, Except.ok.inj same⟩

/-- The last field takes an element of those that the first fields leave. -/
theorem of_ofElements_seq {first : Fields (α → β)} {last : Fields α} {elements rest : List Draft}
    {value : β} (made : (first <*> last).ofElements elements = .ok (value, rest)) :
    ∃ make part others, first.ofElements elements = .ok (make, others) ∧
      last.ofElements others = .ok (part, rest) ∧ make part = value := by
  obtain ⟨⟨make, others⟩, readMake, made⟩ := bind_eq_ok.mp made
  obtain ⟨⟨part, left⟩, readPart, same⟩ := bind_eq_ok.mp made
  obtain ⟨whole, rfl⟩ := Prod.mk.inj (Except.ok.inj same)
  exact ⟨make, part, others, readMake, readPart, whole⟩

/-- A field that is required is there. -/
theorem of_ofEntries_required {name : String} {decoder : Decoder β}
    {entries : String → Option Draft} {value : β}
    (made : (required name decoder).ofEntries entries = .ok value) :
    ∃ draft, entries name = some draft ∧ decoder draft = .ok value := by
  dsimp only [required, field] at made
  split at made
  · exact ⟨_, ‹_›, made⟩
  · cases made

theorem of_ofElements_required {name : String} {decoder : Decoder β} {elements rest : List Draft}
    {value : β} (made : (required name decoder).ofElements elements = .ok (value, rest)) :
    ∃ draft, elements = draft :: rest ∧ decoder draft = .ok value := by
  cases elements with
  | nil => cases made
  | cons draft others =>
    obtain ⟨_, read, same⟩ := map_eq_ok.mp made
    obtain ⟨rfl, rfl⟩ := Prod.mk.inj same
    exact ⟨_, rfl, read⟩

/-- Whatever the fields make of the entries has the property. -/
def GivesFrom (fields : Fields β) (entries : String → Option Draft) (property : β → Prop) : Prop :=
  ∀ value, fields.ofEntries entries = .ok value → property value

theorem GivesFrom.seq {make : Fields (α → β)} {last : Fields α} {entries : String → Option Draft}
    {admitted : α → Prop}
    (made : make.GivesFrom entries fun make => ∀ value, admitted value → property (make value))
    (given : last.GivesFrom entries admitted) : (make <*> last).GivesFrom entries property := by
  intro value accepted
  obtain ⟨make, part, readMake, readPart, rfl⟩ := of_ofEntries_seq accepted
  exact made make readMake part (given part readPart)

theorem GivesFrom.map {make : α → β} {first : Fields α} {entries : String → Option Draft}
    {admitted : α → Prop}
    (made : ∀ value, admitted value → property (make value))
    (given : first.GivesFrom entries admitted) : (make <$> first).GivesFrom entries property := by
  have start : (Pure.pure make : Fields (α → β)).GivesFrom entries fun make =>
      ∀ value, admitted value → property (make value) :=
    fun _ read => Except.ok.inj read ▸ made
  exact start.seq given

theorem givesFrom_field {name : String} {value : Decoder β} {absent missing : Except DecodeError β}
    {entries : String → Option Draft}
    (whenAbsent : entries name = none → ∀ made, absent = .ok made → property made)
    (whenSent : ∀ draft, entries name = some draft →
      ∀ made, value draft = .ok made → property made) :
    (field name value absent missing).GivesFrom entries property := by
  intro made accepted
  dsimp only [field] at accepted
  split at accepted
  next draft present => exact whenSent draft present made accepted
  next absence => exact whenAbsent absence made accepted

/-- What is made has the property if it is made so of every value that the last
field gives. -/
theorem Gives.seq {make : Fields (α → β)} {last : Fields α} {admitted : α → Prop}
    (given : last.Gives admitted)
    (made : make.Gives fun make => ∀ value, admitted value → property (make value)) :
    (make <*> last).Gives property where
  entries := fun entries => GivesFrom.seq (made.entries entries) (given.entries entries)
  elements := by
    intro elements value rest accepted
    obtain ⟨make, part, others, readMake, readPart, rfl⟩ := of_ofElements_seq accepted
    exact made.elements elements make others readMake part
      (given.elements others part rest readPart)

/-- What is made has the property if it is made so of every value that the only field
gives. -/
theorem Gives.map {make : α → β} {first : Fields α} {admitted : α → Prop}
    (given : first.Gives admitted) (made : ∀ value, admitted value → property (make value)) :
    (make <$> first).Gives property := by
  have start : Gives (Pure.pure make : Fields (α → β)) fun make =>
      ∀ value, admitted value → property (make value) := by
    refine ⟨fun _ _ read => ?_, fun _ _ _ read => ?_⟩
    · exact Except.ok.inj read ▸ made
    · exact (Prod.mk.inj (Except.ok.inj read)).1 ▸ made
  exact .seq given start

/-- Nothing has to be known of a field that does not matter. -/
theorem Gives.any {fields : Fields α} : fields.Gives fun _ => True :=
  ⟨fun _ _ _ => trivial, fun _ _ _ _ => trivial⟩

/-- A field gives what its decoder gives, and what it is when it is not there. -/
theorem Gives.field {name : String} {value : Decoder β} {absent missing : Except DecodeError β}
    (given : value.Gives property) (whenAbsent : ∀ made, absent = .ok made → property made)
    (whenMissing : ∀ made, missing = .ok made → property made) :
    (field name value absent missing).Gives property where
  entries := fun entries => givesFrom_field (fun _ => whenAbsent) fun draft _ => given draft
  elements := by
    intro elements made rest accepted
    dsimp only [Fields.field] at accepted
    split at accepted
    · obtain ⟨value, read, same⟩ := map_eq_ok.mp accepted
      obtain ⟨rfl, _⟩ := Prod.mk.inj same
      exact whenMissing value read
    · obtain ⟨value, read, same⟩ := map_eq_ok.mp accepted
      obtain ⟨rfl, _⟩ := Prod.mk.inj same
      exact given _ value read

theorem Gives.optional {name : String} {value : Decoder β} (given : value.Gives property) :
    (optional name value).Gives fun made => ∀ present ∈ made, property present := by
  refine .field given.nullable (fun made absent => ?_) fun _ missing => nomatch missing
  obtain rfl := Except.ok.inj absent
  exact fun _ member => nomatch member

theorem Gives.defaulted {name : String} {value : Decoder β} {default : β}
    (given : value.Gives property) (fallback : property default) :
    (defaulted name value default).Gives property :=
  .field given (fun _ absent => Except.ok.inj absent ▸ fallback)
    fun _ missing => Except.ok.inj missing ▸ fallback

end Fields

end Lodging
