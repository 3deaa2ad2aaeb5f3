import Lodging.Proofs.Document.Decode
import Lodging.Rule.Document

/-! # What is read of a rule

A trigger that is read of a condition is of the type that it is read for, and its numbers keep
to their bounds; only a type that is not known keeps the condition
(`Lodging.Trigger.decode_gives`, `Lodging.Trigger.decode_unknown`). A rule is read when its form
can be read, its condition is understood and its adjustment is accepted
(`Lodging.Rule.decode_eq_ok`).
-/

namespace Lodging

namespace Trigger

/-- The names of the types of rules that are understood. -/
def knownNames : List String :=
  ["EARLY_BIRD", "LAST_MINUTE", "LENGTH_OF_STAY", "OCCUPANCY_BASED", "DAY_OF_WEEK"]

/-- The number is one of 64 bits. -/
def IsInt64 (value : Int) : Prop :=
  -Nat.pow 2 63 ≤ value ∧ value ≤ Nat.pow 2 63 - 1

/-- What a trigger is like that is read of a condition. -/
def Fits (condition : Document) : Trigger → Prop
  | .earlyBird days | .lastMinute days => IsInt64 days
  | .lengthOfStay least most => IsInt64 least ∧ ∀ nights ∈ most, IsInt64 nights
  | .occupancyBased _ => True
  | .dayOfWeek days => ∀ day ∈ days, day ≤ 6
  | .other typeName kept => typeName ∉ knownNames ∧ kept = condition

theorem int64_gives : Decoder.int64.Gives IsInt64 :=
  Decoder.bounded_gives _ _

theorem decodeDaysInAdvance_gives : decodeDaysInAdvance.Gives IsInt64 :=
  Fields.Gives.decode
    (.field int64_gives (fun _ absent => nomatch absent) fun _ missing => nomatch missing)

theorem decodeLengthOfStay_gives (condition : Document) : decodeLengthOfStay.Gives fun trigger =>
    trigger.Fits condition ∧ trigger.typeName = "LENGTH_OF_STAY" := by
  refine Fields.Gives.decode ?_
  have least : (Fields.defaulted "minNights" Decoder.int64 0).Gives IsInt64 :=
    .defaulted int64_gives ⟨by decide, by decide⟩
  have most : (Fields.omissible "maxNights" Decoder.int64).Gives
      fun most => ∀ nights ∈ most, IsInt64 nights :=
    .field int64_gives.nullable (fun _ absent => Except.ok.inj absent ▸ nofun)
      fun _ missing => Except.ok.inj missing ▸ nofun
  exact .seq most (.map least fun _ first _ second => ⟨⟨first, second⟩, rfl⟩)

/-- Days of the week are those from zero to six. -/
theorem decodeDaysOfWeek_gives : decodeDaysOfWeek.Gives fun days => ∀ day ∈ days, day ≤ 6 := by
  intro draft days accepted
  obtain ⟨read, _, accepted⟩ := bind_eq_ok.mp accepted
  split at accepted
  · exact nomatch accepted
  · rename_i within
    obtain rfl := Except.ok.inj accepted
    intro day member
    have small := List.find?_eq_none.mp within day member
    rw [decide_eq_true_eq] at small
    exact Nat.le_of_not_lt small

/-- A trigger that is read fits its condition and has the type that it was read for. -/
theorem decode_gives {typeName : String} {condition : Document} {trigger : Trigger}
    (read : decode typeName condition = .ok trigger) :
    trigger.Fits condition ∧ trigger.typeName = typeName := by
  unfold decode at read
  rw [mapError_eq_ok] at read
  split at read
  · obtain ⟨days, accepted, rfl⟩ := map_eq_ok.mp read
    exact ⟨decodeDaysInAdvance_gives _ days accepted, rfl⟩
  · obtain ⟨days, accepted, rfl⟩ := map_eq_ok.mp read
    exact ⟨decodeDaysInAdvance_gives _ days accepted, rfl⟩
  · split at read
    · exact decodeLengthOfStay_gives _ _ trigger read
    · exact decodeLengthOfStay_gives _ _ trigger read
  · obtain ⟨threshold, _, rfl⟩ := map_eq_ok.mp read
    exact ⟨trivial, rfl⟩
  · obtain ⟨days, accepted, rfl⟩ := map_eq_ok.mp read
    exact ⟨decodeDaysOfWeek_gives _ days accepted, rfl⟩
  · obtain rfl := Except.ok.inj read
    refine ⟨⟨fun known => ?_, rfl⟩, rfl⟩
    simp_all only [knownNames, List.mem_cons, List.not_mem_nil, or_false, imp_false]

/-- The condition of a type that is not known is kept. -/
theorem decode_unknown {typeName : String} (unknown : typeName ∉ knownNames)
    (condition : Document) : decode typeName condition = .ok (.other typeName condition) := by
  unfold decode
  split <;> first | rfl | exact absurd (by decide) unknown

end Trigger

namespace Rule

/-- A rule is read in three steps. -/
theorem decode_eq_ok {draft : Draft} {rule : Rule} :
    decode draft = .ok rule ↔ ∃ form, RuleForm.fields.decode draft = .ok form ∧
      form.toRule = .ok rule ∧ rule.adjustment.fault? = none := by
  simp only [decode, decodeStored, bind_eq_ok]
  constructor
  · rintro ⟨stored, ⟨form, read, understood⟩, accepted⟩
    split at accepted
    · exact nomatch accepted
    · obtain rfl := Except.ok.inj accepted
      exact ⟨form, read, understood, ‹_›⟩
  · rintro ⟨form, read, understood, faultless⟩
    refine ⟨rule, ⟨form, read, understood⟩, ?_⟩
    rw [faultless]

/-- The trigger of a rule that has been read fits the condition of which it was read. -/
theorem fits_of_decode {draft : Draft} {rule : Rule} (read : decode draft = .ok rule) :
    ∃ condition, rule.trigger.Fits condition := by
  obtain ⟨form, -, understood, -⟩ := decode_eq_ok.mp read
  obtain ⟨trigger, triggered, made⟩ := bind_eq_ok.mp understood
  obtain rfl := Except.ok.inj made
  exact ⟨form.condition, (Trigger.decode_gives triggered).1⟩

/-- A rule that has been read for days of the week has a list of them. -/
theorem daysOfWeek_of_decode {draft : Draft} {rule : Rule} (read : decode draft = .ok rule)
    (typed : rule.trigger.typeName = "DAY_OF_WEEK") :
    ∃ days, rule.trigger = .dayOfWeek days ∧ ∀ day ∈ days, day ≤ 6 := by
  obtain ⟨condition, fits⟩ := fits_of_decode read
  generalize rule.trigger = trigger at typed fits
  cases trigger with
  | dayOfWeek days => exact ⟨days, rfl, fits⟩
  | other typeName kept =>
      obtain rfl : typeName = "DAY_OF_WEEK" := typed
      exact absurd (by decide) fits.1
  | earlyBird | lastMinute | lengthOfStay | occupancyBased =>
      exact absurd typed (by rw [Trigger.typeName]; decide)

end Rule

end Lodging
