import Lodging.Http.Server
import Lodging.Proofs.Decimal.Text
import Lodging.Proofs.Decimal.Value
import Lodging.Proofs.Document.Canonical
import Lodging.Proofs.Document.Record
import Lodging.Proofs.Rule.Decode

/-! # Rules are read as they are written

A rule that has been read of a document is written as a document that is read as the same rule
again (`Lodging.Rule.round_trip`). Reading and writing are two analyses of the types of rules,
made apart from each other; they meet in what a rule is like that has been read
(`Lodging.Trigger.decode_gives`, `Lodging.RuleForm.decode_gives`): its numbers keep to their
bounds, so that they are accepted once more, and a condition that is not understood is in
canonical form, so that it is kept as it is. Of the decimals it is only supposed that they are
written exactly (`Lodging.MoneyForm.WritesExactly`), as all of them are in a text with all
their places (`Lodging.MoneyForm.asText_writesExactly`).
-/

namespace Lodging

/-! ## The same rule -/

/-- The adjustments are the same but for the places with which the value is written. -/
structure Adjustment.Same (one other : Adjustment) : Prop where
  kind : one.kind = other.kind
  operation : one.operation = other.operation
  value : one.value.value = other.value.value

/-- The triggers are the same but for the places with which a threshold is written. -/
inductive Trigger.Same : Trigger → Trigger → Prop where
  | itself (trigger : Trigger) : Same trigger trigger
  | threshold {one other : Decimal} (value : one.value = other.value) :
      Same (.occupancyBased one) (.occupancyBased other)

/-- The rules are the same, decimals being compared by their values. -/
structure Rule.Same (one other : Rule) : Prop where
  name : one.name = other.name
  trigger : one.trigger.Same other.trigger
  adjustment : one.adjustment.Same other.adjustment
  priority : one.priority = other.priority

theorem Trigger.Same.typeName {one other : Trigger} (same : one.Same other) :
    one.typeName = other.typeName := by
  cases same <;> rfl

namespace Adjustment

variable {one other : Adjustment}

/-- What is wrong with an adjustment does not depend on how its value is written. -/
theorem Same.faultless (same : one.Same other) (accepted : other.fault? = none) :
    one.fault? = none := by
  have limits : one.limit? = other.limit? := by
    rw [limit?, limit?, same.kind, same.operation]
  have sign : one.value.isNegative = other.value.isNegative := by
    rw [Bool.eq_iff_iff, ← Bool.not_eq_false, ← Bool.not_eq_false, ← Decimal.zero_le_iff,
      ← Decimal.zero_le_iff, Decimal.le_iff_value_le, Decimal.le_iff_value_le, same.value]
  have above (limit : Decimal) : limit < one.value ↔ limit < other.value := by
    rw [Decimal.lt_iff_value_lt, Decimal.lt_iff_value_lt, same.value]
  rw [fault?, sign, limits]
  rw [fault?] at accepted
  split at accepted
  · exact nomatch accepted
  · rename_i nonneg
    rw [if_neg nonneg]
    cases limited : other.limit? with
    | none => rfl
    | some limit =>
        rw [limited] at accepted
        dsimp only at accepted ⊢
        split at accepted
        · exact nomatch accepted
        · rename_i within
          rw [if_neg fun exceeds => within ((above limit).mp exceeds)]

end Adjustment

/-! ## Decimals that are written exactly -/

/-- What is written of an amount is read as an amount of the same value, of which the same is
written. -/
def MoneyForm.WritesExactly (money : MoneyForm) (amount : Decimal) : Prop :=
  ∃ same, Decoder.decimal.Reads (money amount) same ∧ same.value = amount.value ∧
    money same = money amount

/-- Amounts are written as text, with all their places. -/
def MoneyForm.asText : MoneyForm :=
  fun amount => .text amount.display

theorem MoneyForm.asText_writesExactly (amount : Decimal) : asText.WritesExactly amount := by
  refine ⟨amount, ?_, rfl, rfl⟩
  change (Decimal.read amount.display).mapError _ = .ok amount
  rw [Decimal.read_display]
  rfl

/-- The decimals of a trigger. -/
def Trigger.amounts : Trigger → List Decimal
  | .occupancyBased threshold => [threshold]
  | _ => []

/-- The decimals of a rule. -/
def Rule.amounts (rule : Rule) : List Decimal :=
  rule.adjustment.value :: rule.trigger.amounts

/-- A document that is read as a decimal has no entries to be put in order. -/
theorem Decoder.canonical_of_decimal {document : Document} {amount : Decimal}
    (read : decimal.Reads document amount) : document.canonical = document := by
  cases document with
  | list elements => exact nomatch read
  | record entries => exact nomatch read
  | _ => rfl

/-! ## Triggers -/

namespace Trigger

section Reads

variable {money : MoneyForm} {days : Int}

theorem reads_daysInAdvance (inRange : IsInt64 days) :
    decodeDaysInAdvance.Reads (.record [("daysInAdvance", .integer days)]) days :=
  Fields.reads_required (Decoder.reads_bounded inRange.1 inRange.2)

theorem reads_threshold {document : Document} {threshold : Decimal}
    (read : Decoder.decimal.Reads document threshold) :
    decodeThreshold.Reads (.record [("occupancyThreshold", document)]) threshold :=
  Fields.reads_required read

theorem reads_minNights {least : Int} (inRange : IsInt64 least) :
    decodeLengthOfStay.Reads (.record [("minNights", .integer least)])
      (.lengthOfStay least none) := by
  have read : Decoder.int64.Reads (.integer least) least :=
    Decoder.reads_bounded inRange.1 inRange.2
  refine Fields.reads_record (List.nodup_singleton _) (List.forall_mem_singleton.mpr ?_) ?_
  · exact Fields.admits_of_reads rfl read
  · exact .seq (.map (Fields.makes_of_present rfl read) _) (Fields.makes_of_absent rfl)

theorem reads_lengthOfStay {least most : Int} (lower : IsInt64 least) (upper : IsInt64 most) :
    decodeLengthOfStay.Reads
      (.record [("maxNights", .integer most), ("minNights", .integer least)])
      (.lengthOfStay least (some most)) := by
  have readLeast : Decoder.int64.Reads (.integer least) least :=
    Decoder.reads_bounded lower.1 lower.2
  have readMost : (Decoder.nullable Decoder.int64).Reads (.integer most) (some most) :=
    .nullable (Decoder.reads_bounded upper.1 upper.2) nofun
  refine Fields.reads_record (show ["maxNights", "minNights"].Nodup by decide)
    (List.forall_mem_cons.mpr ⟨?_, List.forall_mem_singleton.mpr ?_⟩) ?_
  · exact Fields.admits_of_reads rfl readMost
  · exact Fields.admits_of_reads rfl readLeast
  · exact .seq (.map (Fields.makes_of_present rfl readLeast) _)
      (Fields.makes_of_present rfl readMost)

theorem reads_daysOfWeek {days : List Nat} (within : ∀ day ∈ days, day ≤ 6) :
    decodeDaysOfWeek.Reads (.record [("daysOfWeek", .list (days.map .nat))]) days := by
  have each : ∀ day ∈ days, Decoder.nat32.Reads (.nat day) day := by
    intro day member
    have small : (day : Int) ≤ 6 := Int.ofNat_le.mpr (within day member)
    have read : (Decoder.bounded 0 (Nat.pow 2 32 - 1)).Reads (.integer day) day :=
      Decoder.reads_bounded (Int.natCast_nonneg day) (Int.le_trans small (by decide))
    rw [Decoder.Reads, Decoder.nat32, Document.nat, read]
    rfl
  refine bind_eq_ok.mpr ⟨days, Fields.reads_required (Decoder.reads_listOf each), ?_⟩
  have none : days.find? (6 < ·) = none := by
    refine List.find?_eq_none.mpr fun day member exceeds => ?_
    exact absurd (of_decide_eq_true exceeds) (Nat.not_lt.mpr (within day member))
  rw [none]

/-- What is written of a trigger is read, once in canonical form, as the same trigger. -/
theorem reads_condition {condition : Document} {trigger : Trigger}
    (canonical : condition.canonical = condition) (fits : trigger.Fits condition)
    (exact : ∀ amount ∈ trigger.amounts, money.WritesExactly amount) :
    ∃ again, decode trigger.typeName (trigger.condition money).canonical = .ok again ∧
      again.Same trigger ∧ again.condition money = trigger.condition money := by
  cases trigger with
  | earlyBird days =>
      refine ⟨_, ?_, .itself _, rfl⟩
      change ((decodeDaysInAdvance _).map Trigger.earlyBird).mapError _ = _
      rw [Trigger.condition, (Document.inOrder_singleton rfl).canonical_record,
        reads_daysInAdvance fits]
      rfl
  | lastMinute days =>
      refine ⟨_, ?_, .itself _, rfl⟩
      change ((decodeDaysInAdvance _).map Trigger.lastMinute).mapError _ = _
      rw [Trigger.condition, (Document.inOrder_singleton rfl).canonical_record,
        reads_daysInAdvance fits]
      rfl
  | lengthOfStay least most =>
      refine ⟨_, ?_, .itself _, rfl⟩
      obtain ⟨lower, upper⟩ := fits
      cases most with
      | none =>
          rw [Trigger.condition, (Document.inOrder_singleton rfl).canonical_record]
          change (decodeLengthOfStay _).mapError _ = _
          rw [reads_minNights lower]
          rfl
      | some most =>
          have sorted : (Document.record
              [("minNights", .integer least), ("maxNights", .integer most)]).canonical =
              .record [("maxNights", .integer most), ("minNights", .integer least)] := by
            rfl
          rw [Trigger.condition, sorted]
          change (decodeLengthOfStay _).mapError _ = _
          rw [reads_lengthOfStay lower (upper most rfl)]
          rfl
  | occupancyBased threshold =>
      obtain ⟨same, read, value, written⟩ := exact threshold (List.mem_singleton_self _)
      refine ⟨.occupancyBased same, ?_, .threshold value, congrArg
        (fun document => Document.record [("occupancyThreshold", document)]) written⟩
      change ((decodeThreshold _).map Trigger.occupancyBased).mapError _ = _
      rw [Trigger.condition, (Document.inOrder_singleton
        (Decoder.canonical_of_decimal read)).canonical_record, reads_threshold read]
      rfl
  | dayOfWeek days =>
      have fixed : (Document.list (days.map .nat)).canonical = .list (days.map .nat) := by
        refine Document.canonical_list fun element member => ?_
        obtain ⟨day, _, rfl⟩ := List.mem_map.mp member
        rfl
      refine ⟨_, ?_, .itself _, rfl⟩
      change ((decodeDaysOfWeek _).map Trigger.dayOfWeek).mapError _ = _
      rw [Trigger.condition, (Document.inOrder_singleton fixed).canonical_record,
        reads_daysOfWeek fits]
      rfl
  | other typeName kept =>
      obtain ⟨unknown, rfl⟩ := fits
      refine ⟨_, ?_, .itself _, rfl⟩
      rw [Trigger.condition, canonical]
      exact decode_unknown unknown kept

end Reads

end Trigger

/-! ## Adjustments and forms -/

namespace Adjustment

variable {money : MoneyForm}

theorem reads_kind (kind : AdjustmentKind) :
    AdjustmentKind.decode.Reads (.text kind.name) kind := by
  cases kind <;> exact Decoder.reads_choice rfl

theorem reads_operation (operation : AdjustmentOperation) :
    AdjustmentOperation.decode.Reads (.text operation.name) operation := by
  cases operation <;> exact Decoder.reads_choice rfl

/-- What is written of an adjustment is read with the value that is read of its value. -/
theorem reads_toDocument {adjustment : Adjustment} {same : Decimal}
    (read : Decoder.decimal.Reads (money adjustment.value) same) :
    decode.Reads (adjustment.toDocument money) { adjustment with value := same } := by
  have kind := reads_kind adjustment.kind
  have operation := reads_operation adjustment.operation
  refine Fields.reads_record (show ["type", "operation", "value"].Nodup by decide) ?_ ?_
  · refine List.forall_mem_cons.mpr ⟨?_, List.forall_mem_cons.mpr ⟨?_,
      List.forall_mem_singleton.mpr ?_⟩⟩
    · exact Fields.admits_of_reads rfl kind
    · exact Fields.admits_of_reads rfl operation
    · exact Fields.admits_of_reads rfl read
  · exact .seq (.seq (.map (Fields.makes_of_present rfl kind) _)
      (Fields.makes_of_present rfl operation)) (Fields.makes_of_present rfl read)

end Adjustment

namespace RuleForm

/-- The number is one of 32 bits. -/
def IsInt32 (value : Int) : Prop :=
  -Nat.pow 2 31 ≤ value ∧ value ≤ Nat.pow 2 31 - 1

/-- What is read of a form is in canonical form. -/
structure IsReadable (form : RuleForm) : Prop where
  condition : form.condition.canonical = form.condition
  priority : IsInt32 form.priority

theorem decode_gives : Decoder.Gives fields.decode IsReadable := by
  have canonical : Decoder.any.Gives fun document => document.canonical = document := by
    intro draft document accepted
    unfold Decoder.any at accepted
    split at accepted
    · obtain rfl := Except.ok.inj accepted
      exact Document.canonical_canonical _
    · exact nomatch accepted
  have condition : (Fields.defaulted "condition" Decoder.any .null).Gives
      fun document => document.canonical = document := .defaulted canonical rfl
  have priority : (Fields.defaulted "priority" Decoder.int32 0).Gives IsInt32 :=
    .defaulted (Decoder.bounded_gives _ _) ⟨by decide, by decide⟩
  refine Fields.Gives.decode ?_
  unfold fields
  repeat' with_reducible first
    | exact condition
    | exact priority
    | exact .any
    | apply Fields.Gives.map
    | apply Fields.Gives.seq
  intros
  constructor <;> assumption

/-- What is written of a form is read with its condition in canonical form and with the value
that is read of its value. -/
theorem reads_toDocument {money : MoneyForm} {form : RuleForm} {same : Decimal}
    (priority : IsInt32 form.priority)
    (read : Decoder.decimal.Reads (money form.adjustment.value) same) :
    Decoder.Reads fields.decode (form.toDocument money)
      { form with
        condition := form.condition.canonical
        adjustment := { form.adjustment with value := same } } := by
  have typeName := Decoder.reads_text form.typeName
  have condition := Decoder.reads_any form.condition
  have adjustment := Adjustment.reads_toDocument read
  have inRange : Decoder.int32.Reads (.integer form.priority) form.priority :=
    Decoder.reads_bounded priority.1 priority.2
  -- The last three entries are written of every form.
  have rest : ∀ entry ∈ [("condition", form.condition),
      ("adjustment", form.adjustment.toDocument money), ("priority", .integer form.priority)],
      fields.Admits entry := by
    refine List.forall_mem_cons.mpr ⟨?_, List.forall_mem_cons.mpr ⟨?_,
      List.forall_mem_singleton.mpr ?_⟩⟩
    · exact Fields.admits_of_reads rfl condition
    · exact Fields.admits_of_reads rfl adjustment
    · exact Fields.admits_of_reads rfl inRange
  obtain ⟨_, name, _, _, _⟩ := form
  cases name with
  | none =>
      refine Fields.reads_record
        (show ["type", "condition", "adjustment", "priority"].Nodup by decide)
        (List.forall_mem_cons.mpr ⟨Fields.admits_of_reads rfl typeName, rest⟩) ?_
      exact .seq (.seq (.seq (.seq (.map (Fields.makes_of_present rfl typeName) _)
        (Fields.makes_of_absent rfl)) (Fields.makes_of_present rfl condition))
        (Fields.makes_of_present rfl adjustment)) (Fields.makes_of_present rfl inRange)
  | some name =>
      have named : (Decoder.nullable Decoder.text).Reads (.text name) (some name) :=
        (Decoder.reads_text name).nullable nofun
      refine Fields.reads_record
        (show ["type", "name", "condition", "adjustment", "priority"].Nodup by decide)
        (List.forall_mem_cons.mpr ⟨Fields.admits_of_reads rfl typeName,
          List.forall_mem_cons.mpr ⟨Fields.admits_of_reads rfl named, rest⟩⟩) ?_
      exact .seq (.seq (.seq (.seq (.map (Fields.makes_of_present rfl typeName) _)
        (Fields.makes_of_present rfl named)) (Fields.makes_of_present rfl condition))
        (Fields.makes_of_present rfl adjustment)) (Fields.makes_of_present rfl inRange)

end RuleForm

/-! ## The type that a document names -/

/-- The text of the first field of a rule: the entry of a record or the first element of a
list. -/
def Draft.ruleType? : Draft → Option String
  | .record entries =>
      match entry? "type" entries with
      | some (.text name) => some name
      | _ => none
  | .list (.text name :: _) => some name
  | _ => none

theorem Decoder.of_text {draft : Draft} {value : String} (read : text draft = .ok value) :
    draft = .text value := by
  cases draft with
  | text other => exact congrArg Draft.text (Except.ok.inj read)
  | _ => exact nomatch read

/-- The type of a form is the one that is named in the document. -/
theorem RuleForm.typeName_of_decode {draft : Draft} {form : RuleForm}
    (read : fields.decode draft = .ok form) : draft.ruleType? = some form.typeName := by
  cases draft with
  | record entries =>
      obtain ⟨_, _, made⟩ := bind_eq_ok.mp read
      obtain ⟨_, _, upToAdjustment, _, rfl⟩ := Fields.of_ofEntries_seq made
      obtain ⟨_, _, upToCondition, _, rfl⟩ := Fields.of_ofEntries_seq upToAdjustment
      obtain ⟨_, _, upToName, _, rfl⟩ := Fields.of_ofEntries_seq upToCondition
      obtain ⟨_, _, upToType, _, rfl⟩ := Fields.of_ofEntries_seq upToName
      obtain ⟨_, typeName, start, given, rfl⟩ := Fields.of_ofEntries_seq upToType
      obtain rfl := Except.ok.inj start
      obtain ⟨entry, named, text⟩ := Fields.of_ofEntries_required given
      rw [Draft.ruleType?, named, Decoder.of_text text]
  | list elements =>
      obtain ⟨⟨made, rest⟩, taken, accepted⟩ := bind_eq_ok.mp read
      obtain ⟨_, _, _, upToAdjustment, _, rfl⟩ := Fields.of_ofElements_seq taken
      obtain ⟨_, _, _, upToCondition, _, rfl⟩ := Fields.of_ofElements_seq upToAdjustment
      obtain ⟨_, _, _, upToName, _, rfl⟩ := Fields.of_ofElements_seq upToCondition
      obtain ⟨_, _, _, upToType, _, rfl⟩ := Fields.of_ofElements_seq upToName
      obtain ⟨_, typeName, _, start, given, rfl⟩ := Fields.of_ofElements_seq upToType
      obtain ⟨rfl, rfl⟩ := Prod.mk.inj (Except.ok.inj start)
      obtain ⟨first, rfl, text⟩ := Fields.of_ofElements_required given
      cases rest with
      | nil =>
          obtain rfl := Except.ok.inj accepted
          rw [Decoder.of_text text]
          rfl
      | cons => exact nomatch accepted
  | _ => exact nomatch read

namespace Rule

variable {draft : Draft} {rule : Rule} {money : MoneyForm}

/-- What is written of a rule that has been read is read as the same rule, of which the same is
written. -/
theorem reads_toDocument (read : decode draft = .ok rule)
    (exact : ∀ amount ∈ rule.amounts, money.WritesExactly amount) :
    ∃ again, Decoder.Reads decode (rule.toDocument money) again ∧ again.Same rule ∧
      again.toDocument money = rule.toDocument money := by
  obtain ⟨form, formed, understood, faultless⟩ := decode_eq_ok.mp read
  obtain ⟨canonical, priority⟩ := RuleForm.decode_gives draft form formed
  obtain ⟨trigger, triggered, made⟩ := bind_eq_ok.mp understood
  obtain rfl := Except.ok.inj made
  obtain ⟨fits, _⟩ := Trigger.decode_gives triggered
  obtain ⟨exactAmount, exactThreshold⟩ := List.forall_mem_cons.mp exact
  obtain ⟨amount, readAmount, value, writtenAmount⟩ := exactAmount
  obtain ⟨other, readTrigger, sameTrigger, writtenTrigger⟩ :=
    Trigger.reads_condition canonical fits exactThreshold
  let again : Rule :=
    { name := form.name
      trigger := other
      adjustment := { form.adjustment with value := amount }
      priority := form.priority }
  have sameAdjustment : again.adjustment.Same form.adjustment := ⟨rfl, rfl, value⟩
  refine ⟨again, ?_, ⟨rfl, sameTrigger, sameAdjustment, rfl⟩, ?_⟩
  · refine decode_eq_ok.mpr ⟨_, RuleForm.reads_toDocument priority readAmount, ?_,
      sameAdjustment.faultless faultless⟩
    exact bind_eq_ok.mpr ⟨other, readTrigger, rfl⟩
  · simp only [toDocument, toForm, RuleForm.toDocument, Adjustment.toDocument, again,
      sameTrigger.typeName, writtenTrigger, writtenAmount]

/-- With amounts as text every rule that has been read is kept. -/
theorem reads_asText (read : decode draft = .ok rule) :
    ∃ again, Decoder.Reads decode (rule.toDocument .asText) again ∧ again.Same rule ∧
      again.toDocument .asText = rule.toDocument .asText :=
  reads_toDocument read fun amount _ => MoneyForm.asText_writesExactly amount

/-- A rule has the type that its document names, and does not understand it exactly if it is
none of those that are known. -/
theorem typeName_of_decode (read : decode draft = .ok rule) :
    draft.ruleType? = some rule.trigger.typeName ∧
      ((∃ name condition, rule.trigger = .other name condition) ↔
        rule.trigger.typeName ∉ Trigger.knownNames) := by
  obtain ⟨form, formed, understood, _⟩ := decode_eq_ok.mp read
  obtain ⟨trigger, triggered, made⟩ := bind_eq_ok.mp understood
  obtain rfl := Except.ok.inj made
  obtain ⟨fits, named⟩ := Trigger.decode_gives triggered
  refine ⟨named ▸ RuleForm.typeName_of_decode formed, ?_, fun unknown => ?_⟩
  · rintro ⟨name, condition, rfl⟩
    exact fits.1
  · dsimp only at unknown
    rw [named] at unknown
    rw [Trigger.decode_unknown unknown] at triggered
    exact ⟨_, _, (Except.ok.inj triggered).symm⟩

/-- **Round trip.** Every rule that has been read is written as a document that is read as the
same rule, and written once more the same document comes out, if its decimals are written
exactly. It is of an unknown type exactly if the document names none that is known. -/
theorem round_trip (read : decode draft = .ok rule)
    (exact : ∀ amount ∈ rule.amounts, money.WritesExactly amount) :
    (∃ again, decode (rule.toDocument money) = .ok again ∧ again.Same rule ∧
      again.toDocument money = rule.toDocument money) ∧
    draft.ruleType? = some rule.trigger.typeName ∧
      ((∃ name condition, rule.trigger = .other name condition) ↔
        rule.trigger.typeName ∉ Trigger.knownNames) :=
  ⟨reads_toDocument read exact, typeName_of_decode read⟩

end Rule

namespace Sample

/-- A tenth more for a house that is full by more than four fifths. The fields are in another
order than the one in which they are written. -/
def busy : Document :=
  .record
    [("condition", .record [("occupancyThreshold", .text "80.50")]),
      ("adjustment", .record [("value", .integer 10), ("type", .text "PERCENTAGE")]),
      ("type", .text "OCCUPANCY_BASED")]

/-- The threshold with the places that it is given. -/
def busyThreshold : Decimal := Decimal.ofHundredths 8050

/-- What is sent of both decimals of the rule is exact, though the threshold loses a place. -/
theorem exact_busy : ∀ amount ∈ [⟨10, 0, by decide, by decide⟩, busyThreshold],
    Http.money.WritesExactly amount := by
  refine List.forall_mem_cons.mpr ⟨?_, List.forall_mem_singleton.mpr ?_⟩
  · exact ⟨⟨10, 0, by decide, by decide⟩, eq_ok_of_toOption (by decide +kernel), rfl, rfl⟩
  · refine ⟨⟨805, 1, by decide, by decide⟩, eq_ok_of_toOption (by decide +kernel), ?_, ?_⟩
    · norm_num [Decimal.value, busyThreshold, Decimal.ofHundredths]
    · exact congrArg Document.real (by decide +kernel)

end Sample

open Sample in
/-- The rule is sent and read as the same rule, and is of a type that is known. -/
theorem Rule.round_trip_busy :
    ∃ rule again, Rule.decode busy = .ok rule ∧
      Rule.decode (rule.toDocument Http.money) = .ok again ∧ again.Same rule ∧
      again.toDocument Http.money = rule.toDocument Http.money ∧
      (Draft.ofDocument busy).ruleType? = some rule.trigger.typeName ∧
      ¬ ∃ name condition, rule.trigger = .other name condition := by
  have evaluated : (Rule.decode busy).toOption.map
      (fun rule => (rule.amounts, rule.trigger.typeName)) =
        some ([⟨10, 0, by decide, by decide⟩, busyThreshold], "OCCUPANCY_BASED") := by
    decide +kernel
  obtain ⟨rule, given, parts⟩ := Option.map_eq_some_iff.mp evaluated
  obtain ⟨amounts, named⟩ := Prod.mk.inj parts
  have read := eq_ok_of_toOption given
  obtain ⟨⟨again, readAgain, same, written⟩, typed, unknown⟩ :=
    Rule.round_trip read (amounts ▸ exact_busy)
  refine ⟨rule, again, read, readAgain, same, written, typed, fun other => ?_⟩
  exact unknown.mp other (named ▸ by decide)

end Lodging
