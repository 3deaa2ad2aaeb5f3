/-! # Rounding a quotient to a whole number

A quotient of natural numbers, rounded to the nearest whole number. The two
rules differ on a tie only: one goes to the even neighbour, the other up.
-/

namespace Lodging

/-- The whole number nearest to `n / d`; a tie goes to the even neighbour. -/
def roundHalfEven (n d : Nat) : Nat :=
  let quotient := n / d
  let twice := 2 * (n % d)
  if d < twice ∨ (twice = d ∧ quotient % 2 = 1) then quotient + 1 else quotient

/-- The whole number nearest to `n / d`; a tie goes up. -/
def roundHalfUp (n d : Nat) : Nat :=
  if d ≤ 2 * (n % d) then n / d + 1 else n / d

/-- A quotient by at least one, rounded up, does not exceed its numerator when
the remainder is not zero. -/
theorem div_add_one_le {n d : Nat} (rest : n % d ≠ 0) : n / d + 1 ≤ n := by
  have parts : d * (n / d) + n % d = n := Nat.div_add_mod n d
  match d with
  | 0 => rw [Nat.div_zero]; rw [Nat.mod_zero] at rest; omega
  | 1 => exact absurd (Nat.mod_one n) rest
  | d + 2 =>
      have grows : n / (d + 2) ≤ (d + 2) * (n / (d + 2)) :=
        Nat.le_mul_of_pos_left _ (Nat.succ_pos _)
      omega

/-- Rounding to the even neighbour does not lead above the numerator. -/
theorem roundHalfEven_le (n d : Nat) : roundHalfEven n d ≤ n := by
  simp only [roundHalfEven]
  split
  next up =>
    by_cases rest : n % d = 0
    · rw [rest] at up
      have zero : d = 0 := by omega
      subst zero
      rw [Nat.mod_zero] at rest
      subst rest
      simp at up
    · exact div_add_one_le rest
  next => exact Nat.div_le_self n d

/-- Rounding up does not lead above the numerator. -/
theorem roundHalfUp_le {n d : Nat} (positive : 0 < d) : roundHalfUp n d ≤ n := by
  simp only [roundHalfUp]
  split
  next up => exact div_add_one_le (by omega)
  next => exact Nat.div_le_self n d

end Lodging
