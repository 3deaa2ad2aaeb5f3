import Mathlib
import Lodging.Proofs.Decimal.Text
import Lodging.Text.Scanner

/-! # Scanning what is written

A scanner takes from the front of a text what it expects, whatever stands behind it: a given
character, or a number that is written with as many digits as the scanner takes
(`Lodging.Text.Scanner.fixedNumber_padded`). A text is freed of the blanks that were put around
it, and of nothing else, if it neither begins nor ends with one
(`Lodging.Text.trimChars_append`).
-/

namespace Lodging.Text

/-! ## Digits -/

variable {width n : Nat} {c : Char} {chars rest : List Char}

theorem length_digits_le (positive : 0 < width) (fits : n < 10 ^ width) :
    (digits n).length ≤ width := by
  induction width generalizing n with
  | zero => exact absurd positive (Nat.lt_irrefl 0)
  | succ width ih =>
      unfold digits
      split
      next small => exact Nat.le_add_left 1 width
      next large =>
        rw [Nat.pow_succ] at fits
        have more : 0 < width := by
          rcases Nat.eq_zero_or_pos width with rfl | more
          · rw [Nat.pow_zero, Nat.one_mul] at fits
            exact absurd fits large
          · exact more
        rw [List.length_append, List.length_singleton]
        exact Nat.succ_le_succ (ih more (by omega))

/-- A number that fits is written with exactly as many digits. -/
theorem length_padded_eq (positive : 0 < width) (fits : n < 10 ^ width) :
    (padded width n).length = width := by
  have short := length_digits_le positive fits
  rw [padded, padLeft, List.length_append, List.length_replicate]
  omega

theorem valueOf_padded (width n : Nat) : valueOf (padded width n) = n :=
  followed_padded width n

theorem padded_ne_nil (positive : 0 < width) : padded width n ≠ [] := by
  intro none
  have wide := length_padded width n
  rw [none, List.length_nil] at wide
  omega

theorem isBlank_of_isDigit (digit : isDigit c = true) : isBlank c = false := by
  rw [isDigit, digitValue?] at digit
  split at digit
  · rename_i within
    simp only [isBlank, Bool.or_eq_false_iff, Bool.and_eq_false_iff, beq_eq_false_iff_ne,
      decide_eq_false_iff_not]
    omega
  · cases digit

/-! ## Blanks -/

theorem dropWhile_of_head? {α : Type} {drops : α → Bool} {values : List α}
    (keeps : ∀ value ∈ values.head?, drops value = false) :
    values.dropWhile drops = values := by
  cases values with
  | nil => rfl
  | cons value others => exact List.dropWhile_cons_of_neg (Bool.eq_false_iff.mp (keeps value rfl))

/-- Digits do not begin with a blank. -/
theorem isBlank_head?_padded (positive : 0 < width) :
    ∀ c ∈ (padded width n ++ rest).head?, isBlank c = false := by
  intro c begins
  rw [List.head?_append_of_ne_nil _ (padded_ne_nil positive)] at begins
  exact isBlank_of_isDigit (padded_areDigits width n c (List.mem_of_mem_head? begins))

/-- Digits do not end with a blank. -/
theorem isBlank_getLast?_padded (positive : 0 < width) :
    ∀ c ∈ (chars ++ padded width n).getLast?, isBlank c = false := by
  intro c ends
  rw [List.getLast?_append_of_ne_nil _ (padded_ne_nil positive)] at ends
  exact isBlank_of_isDigit (padded_areDigits width n c (List.mem_of_mem_getLast? ends))

/-- Blanks around a text are taken off. -/
theorem trimChars_append {before after : List Char} (nonempty : chars ≠ [])
    (blankBefore : ∀ c ∈ before, isBlank c = true) (blankAfter : ∀ c ∈ after, isBlank c = true)
    (first : ∀ c ∈ chars.head?, isBlank c = false)
    (last : ∀ c ∈ chars.getLast?, isBlank c = false) :
    trimChars (before ++ chars ++ after) = chars := by
  have begins : ∀ c ∈ (chars ++ after).head?, isBlank c = false := by
    rwa [List.head?_append_of_ne_nil _ nonempty]
  have ends : ∀ c ∈ chars.reverse.head?, isBlank c = false := by
    rwa [List.head?_reverse]
  have blankReversed : ∀ c ∈ after.reverse, isBlank c = true :=
    fun c member => blankAfter c (List.mem_reverse.mp member)
  rw [trimChars, List.append_assoc, List.dropWhile_append_of_pos blankBefore,
    dropWhile_of_head? begins, List.reverse_append, List.dropWhile_append_of_pos blankReversed,
    dropWhile_of_head? ends, List.reverse_reverse]

/-! ## Scanners -/

namespace Scanner

variable {α β : Type}

/-- A scanner goes on behind what was taken first. -/
theorem bind_of_some {first : Scanner α} {next : α → Scanner β} {value : α}
    (taken : first chars = some (value, rest)) : (first >>= next) chars = next value rest := by
  change (first chars).bind (fun found => next found.1 found.2) = _
  rw [taken]
  rfl

theorem accept_cons {accepts : Char → Bool} (accepted : accepts c = true) :
    accept accepts (c :: rest) = some (c, rest) :=
  if_pos accepted

theorem expect_cons (c : Char) (rest : List Char) : expect c (c :: rest) = some ((), rest) :=
  bind_of_some (accept_cons (beq_self_eq_true c))

theorem skipBlanks_of_head? (begins : ∀ c ∈ chars.head?, isBlank c = false) :
    skipBlanks chars = some ((), chars) :=
  congrArg (fun left => some ((), left)) (dropWhile_of_head? begins)

/-- As many digits are taken as there are. -/
theorem allDigits_append (nonempty : chars ≠ []) (areDigits : ∀ c ∈ chars, isDigit c = true)
    (ends : isDigit c = false) :
    allDigits (chars ++ c :: rest) = some (chars, c :: rest) := by
  have span : spanDigits (chars ++ c :: rest) = (chars, c :: rest) := by
    have stops := Bool.eq_false_iff.mp ends
    rw [spanDigits, List.takeWhile_append_of_pos areDigits, List.dropWhile_append_of_pos areDigits,
      List.takeWhile_cons_of_neg stops, List.dropWhile_cons_of_neg stops, List.append_nil]
  rw [allDigits, span]
  cases chars with
  | nil => exact absurd rfl nonempty
  | cons first others => rfl

theorem skipBlanks_padded (positive : 0 < width) :
    skipBlanks (padded width n ++ rest) = some ((), padded width n ++ rest) :=
  skipBlanks_of_head? (isBlank_head?_padded positive)

/-- A number of a width is taken where at most as many digits are. -/
theorem shortNumber_padded (positive : 0 < width) (fits : n < 10 ^ width) :
    shortNumber width (padded width n ++ rest) = some (n, rest) := by
  have wide := length_padded_eq positive fits
  have taken : ((padded width n ++ rest).take width).takeWhile isDigit = padded width n := by
    rw [List.take_left' wide, List.takeWhile_eq_self_iff.mpr (padded_areDigits width n)]
  rw [shortNumber, taken]
  split
  next none => exact absurd none (padded_ne_nil positive)
  next => rw [valueOf_padded, List.drop_left]

/-- A number of a width is taken where exactly as many digits are. -/
theorem fixedNumber_padded (positive : 0 < width) (fits : n < 10 ^ width) :
    fixedNumber width (padded width n ++ rest) = some (n, rest) := by
  have wide := length_padded_eq positive fits
  have areDigits := List.all_eq_true.mpr (padded_areDigits width n)
  rw [fixedNumber, List.take_left' wide, List.drop_left' wide, valueOf_padded]
  exact if_pos ⟨wide, areDigits⟩

theorem boundedNumber_padded {most : Nat} (positive : 0 < width) (fits : n < 10 ^ width)
    (within : n ≤ most) : boundedNumber width most (padded width n ++ rest) = some (n, rest) := by
  rw [boundedNumber, bind_of_some (fixedNumber_padded positive fits), if_pos within]
  rfl

end Scanner

end Lodging.Text
