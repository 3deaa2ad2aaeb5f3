import Lodging.Decimal.Text
import Mathlib.Data.List.TakeWhile

/-! # Decimals are read as they are written

The text of a decimal with all its places is read as the same decimal, to the last place
(`Lodging.Decimal.read_display`). A scan multiplies by ten at every digit, so it is followed by
what the digits add to a number that is there (`Lodging.Text.followed`); on the way the number
only grows, so that a number in range is never refused before its end.
-/

namespace Lodging

namespace Text

/-- The number with the digits behind it. -/
def followed (value : Nat) (chars : List Char) : Nat :=
  chars.foldl (fun value c => 10 * value + (digitValue? c).getD 0) value

theorem followed_append (value : Nat) (chars others : List Char) :
    followed value (chars ++ others) = followed (followed value chars) others :=
  List.foldl_append

theorem le_followed (value : Nat) (chars : List Char) : value ≤ followed value chars := by
  induction chars generalizing value with
  | nil => exact Nat.le_refl _
  | cons c rest ih => exact Nat.le_trans (by omega) (ih (10 * value + (digitValue? c).getD 0))

theorem isDigit_digitChar {digit : Nat} (small : digit < 10) :
    isDigit (digitChar digit) = true := by
  rw [isDigit, digitValue?_digitChar small]
  rfl

theorem digits_areDigits (n : Nat) : ∀ c ∈ digits n, isDigit c = true := by
  induction n using Nat.strongRecOn with
  | ind n ih =>
      unfold digits
      split
      next small => exact List.forall_mem_singleton.mpr (isDigit_digitChar small)
      next large =>
        refine List.forall_mem_append.mpr ⟨ih (n / 10) (by omega), ?_⟩
        exact List.forall_mem_singleton.mpr (isDigit_digitChar (Nat.mod_lt n (by omega)))

theorem padded_areDigits (width n : Nat) : ∀ c ∈ padded width n, isDigit c = true := by
  refine List.forall_mem_append.mpr ⟨fun c member => ?_, digits_areDigits n⟩
  rw [List.eq_of_mem_replicate member]
  rfl

theorem length_padded (width n : Nat) : width ≤ (padded width n).length := by
  rw [padded, padLeft, List.length_append, List.length_replicate]
  omega

/-- Zeros in front of a number change nothing. -/
theorem followed_padded (width n : Nat) : followed 0 (padded width n) = n := by
  have zeros (count : Nat) : followed 0 (List.replicate count '0') = 0 := by
    induction count with
    | zero => rfl
    | succ count ih => exact ih
  rw [padded, padLeft, followed_append, zeros]
  exact valueOf_digits n

end Text

namespace Decimal

open Text

variable {negative : Bool} {gathered places : Nat} {chars rest : List Char}

/-! ## Scanning digits -/

/-- A digit is gathered if there is room for it. -/
theorem scan_digit {point started : Bool} {c : Char} (digit : isDigit c = true)
    (room : point = true → places < maxScale)
    (fits : followed gathered [c] < mantissaLimit) :
    scan negative point started gathered places (c :: rest) =
      scan negative point true (followed gathered [c]) (if point then places + 1 else 0) rest := by
  obtain ⟨value, known⟩ := Option.isSome_iff_exists.mp digit
  have next : followed gathered [c] = 10 * gathered + value := by
    rw [followed, List.foldl_cons, known]
    rfl
  rw [next] at fits ⊢
  rw [scan, if_neg fun full => Nat.not_lt.mpr full.2.2 (room full.1)]
  simp only [known, if_pos fits]

/-- The digits before the point are gathered without places. -/
theorem scan_whole (areDigits : ∀ c ∈ chars, isDigit c = true)
    (fits : followed gathered chars < mantissaLimit) :
    scan negative false true gathered 0 (chars ++ rest) =
      scan negative false true (followed gathered chars) 0 rest := by
  induction chars generalizing gathered with
  | nil => rfl
  | cons c others ih =>
      obtain ⟨digit, more⟩ := List.forall_mem_cons.mp areDigits
      have first : followed gathered [c] < mantissaLimit :=
        Nat.lt_of_le_of_lt (le_followed _ others) fits
      have room : false = true → 0 < maxScale := nofun
      rw [List.cons_append, scan_digit digit room first]
      exact ih more fits

/-- Every digit behind the point is a place. -/
theorem scan_places (areDigits : ∀ c ∈ chars, isDigit c = true)
    (room : places + chars.length ≤ maxScale)
    (fits : followed gathered chars < mantissaLimit) :
    scan negative true true gathered places chars =
      ofScan? negative (followed gathered chars) (places + chars.length) := by
  induction chars generalizing gathered places with
  | nil => rfl
  | cons c others ih =>
      obtain ⟨digit, more⟩ := List.forall_mem_cons.mp areDigits
      rw [List.length_cons] at room ⊢
      have first : followed gathered [c] < mantissaLimit :=
        Nat.lt_of_le_of_lt (le_followed _ others) fits
      rw [scan_digit digit (fun _ => by omega) first]
      refine (ih more ?_ fits).trans ?_
      · rw [if_pos rfl]
        omega
      · rw [if_pos rfl, Nat.add_right_comm, Nat.add_assoc]
        rfl

/-- A point is written if there are digits to stand behind it. -/
theorem scan_point (areDigits : ∀ c ∈ chars, isDigit c = true) (room : chars.length ≤ maxScale)
    (fits : followed gathered chars < mantissaLimit) :
    scan negative false true gathered 0 (if chars.length = 0 then [] else '.' :: chars) =
      ofScan? negative (followed gathered chars) chars.length := by
  cases chars with
  | nil => rfl
  | cons c others =>
      rw [if_neg (show (c :: others).length ≠ 0 from Nat.succ_ne_zero others.length)]
      change scan negative true true gathered 0 (c :: others) = _
      rw [scan_places areDigits (by rwa [Nat.zero_add]) fits, Nat.zero_add]

/-! ## Reading what is written -/

/-- The digits of a number stand on both sides of the point, at least one of them before it. -/
theorem fixedPoint_eq (magnitude scale : Nat) : ∃ first whole behind,
    Text.padded (scale + 1) magnitude = first :: (whole ++ behind) ∧ behind.length = scale ∧
      fixedPoint magnitude scale =
        first :: (whole ++ if behind.length = 0 then [] else '.' :: behind) := by
  have wide := length_padded (scale + 1) magnitude
  have long : (Text.padded (scale + 1) magnitude).length -
      ((Text.padded (scale + 1) magnitude).length - scale) = scale := by
    omega
  unfold fixedPoint
  generalize Text.padded (scale + 1) magnitude = all at wide long ⊢
  cases before : all.take (all.length - scale) with
  | nil =>
      have none := congrArg List.length before
      rw [List.length_take, List.length_nil] at none
      omega
  | cons first whole =>
      refine ⟨first, whole, all.drop (all.length - scale), ?_, ?_, ?_⟩
      · rw [← List.cons_append, ← before, List.take_append_drop]
      · rw [List.length_drop, long]
      · rw [List.length_drop, long]
        dsimp only
        rw [before]
        split
        · rw [List.append_nil]
        · rw [List.cons_append]

theorem isExponentMark_of_isDigit {c : Char} (digit : isDigit c = true) :
    isExponentMark c = false := by
  rw [isDigit, digitValue?] at digit
  split at digit
  · rename_i within
    rw [isExponentMark, Bool.or_eq_false_iff, beq_eq_false_iff_ne, beq_eq_false_iff_ne]
    constructor
    · rintro rfl
      exact absurd within.2 (by decide)
    · rintro rfl
      exact absurd within.2 (by decide)
  · exact nomatch digit

theorem fixedPoint_unmarked (magnitude scale : Nat) :
    ∀ c ∈ fixedPoint magnitude scale, isExponentMark c = false := by
  obtain ⟨first, whole, behind, all, -, written⟩ := fixedPoint_eq magnitude scale
  have areDigits := all ▸ padded_areDigits (scale + 1) magnitude
  obtain ⟨isFirst, others⟩ := List.forall_mem_cons.mp areDigits
  obtain ⟨isWhole, isBehind⟩ := List.forall_mem_append.mp others
  rw [written]
  refine List.forall_mem_cons.mpr ⟨isExponentMark_of_isDigit isFirst,
    List.forall_mem_append.mpr ⟨fun c member => isExponentMark_of_isDigit (isWhole c member), ?_⟩⟩
  split
  · exact fun _ member => nomatch member
  · exact List.forall_mem_cons.mpr ⟨rfl, fun c member =>
      isExponentMark_of_isDigit (isBehind c member)⟩

/-- A scan of a number that is written gathers the number with its places. -/
theorem scan_fixedPoint {magnitude scale : Nat} (fits : magnitude < mantissaLimit)
    (room : scale ≤ maxScale) :
    scan negative false false 0 0 (fixedPoint magnitude scale) =
      ofScan? negative magnitude scale := by
  obtain ⟨first, whole, behind, all, rfl, written⟩ := fixedPoint_eq magnitude scale
  have areDigits := all ▸ padded_areDigits _ magnitude
  obtain ⟨isFirst, others⟩ := List.forall_mem_cons.mp areDigits
  obtain ⟨isWhole, isBehind⟩ := List.forall_mem_append.mp others
  have value : followed (followed (followed 0 [first]) whole) behind = magnitude := by
    rw [← followed_append, ← followed_append, List.singleton_append, ← all, followed_padded]
  have fitsWhole : followed (followed 0 [first]) whole < mantissaLimit :=
    Nat.lt_of_le_of_lt (le_followed _ behind) (value.symm ▸ fits)
  have fitsFirst : followed 0 [first] < mantissaLimit :=
    Nat.lt_of_le_of_lt (le_followed _ whole) fitsWhole
  have unpointed : false = true → 0 < maxScale := nofun
  rw [written, scan_digit isFirst unpointed fitsFirst, if_neg Bool.false_ne_true,
    scan_whole isWhole fitsWhole, scan_point isBehind room (value.symm ▸ fits), value]

/-- A sign is read off, and a number without one begins with a digit. -/
theorem readPlain_signed (magnitude scale : Nat) :
    readPlain ((if negative then ['-'] else []) ++ fixedPoint magnitude scale) =
      scan negative false false 0 0 (fixedPoint magnitude scale) := by
  cases negative with
  | true => rfl
  | false =>
      obtain ⟨first, whole, behind, all, -, written⟩ := fixedPoint_eq magnitude scale
      have isFirst : isDigit first = true :=
        padded_areDigits (scale + 1) magnitude first (all ▸ List.mem_cons_self)
      rw [written, if_neg Bool.false_ne_true, List.nil_append]
      unfold readPlain
      split
      · contradiction
      · rename_i begins
        obtain rfl := (List.cons.inj begins).1
        exact absurd isFirst (by decide)
      · rename_i begins
        obtain rfl := (List.cons.inj begins).1
        exact absurd isFirst (by decide)
      · rfl

/-- The sign, the digits and the places of a decimal make the decimal. -/
theorem ofScan?_self (amount : Decimal) :
    ofScan? amount.isNegative amount.mantissa.natAbs amount.scale = .ok amount := by
  have signed : (if amount.isNegative then -(amount.mantissa.natAbs : Int)
      else amount.mantissa.natAbs) = amount.mantissa := by
    rw [isNegative]
    split
    · rename_i below
      rw [decide_eq_true_eq] at below
      omega
    · rename_i above
      rw [decide_eq_true_eq] at above
      omega
  rw [ofScan?, dif_pos ⟨amount.mantissa_lt, amount.scale_le⟩]
  simp only [signed]

/-- **Text.** What is written of a decimal with all its places is read as the decimal. -/
theorem read_display (amount : Decimal) : read amount.display = .ok amount := by
  have unmarked : ∀ c ∈ (if amount.isNegative then ['-'] else []) ++
      fixedPoint amount.mantissa.natAbs amount.scale, isExponentMark c = false := by
    refine List.forall_mem_append.mpr ⟨?_, fixedPoint_unmarked _ _⟩
    split
    · exact List.forall_mem_singleton.mpr rfl
    · exact fun _ member => nomatch member
  have unscaled : ((if amount.isNegative then ['-'] else []) ++
      fixedPoint amount.mantissa.natAbs amount.scale).dropWhile (!isExponentMark ·) = [] := by
    refine List.dropWhile_eq_nil_iff.mpr fun c member => ?_
    rw [unmarked c member, Bool.not_false]
  rw [read, display, String.toList_ofList, readChars, unscaled]
  dsimp only
  rw [readPlain_signed, scan_fixedPoint amount.mantissa_lt amount.scale_le, ofScan?_self]

end Decimal

end Lodging
