/-! # Decimal digits

Natural numbers as digits, and digits as natural numbers. Only the ten digits of
ASCII count, whatever other scripts offer. Reading what was written gives the
number back (`Lodging.Text.valueOf_digits`).
-/

namespace Lodging.Text

/-- The character of a digit below ten. -/
def digitChar (digit : Nat) : Char :=
  Char.ofNat (48 + digit)

def digitValue? (c : Char) : Option Nat :=
  if 48 ≤ c.toNat ∧ c.toNat ≤ 57 then some (c.toNat - 48) else none

/-- The character is one of the ten digits. -/
def isDigit (c : Char) : Bool :=
  (digitValue? c).isSome

/-- The digits of a number, most significant first; zero has one digit. -/
def digits (n : Nat) : List Char :=
  if n < 10 then [digitChar n] else digits (n / 10) ++ [digitChar (n % 10)]

/-- The number that the digits stand for; characters that are no digits count
as zero. -/
def valueOf (chars : List Char) : Nat :=
  chars.foldl (fun value c => 10 * value + (digitValue? c).getD 0) 0

/-- The characters after enough zeros to be `width` of them. -/
def padLeft (width : Nat) (chars : List Char) : List Char :=
  List.replicate (width - chars.length) '0' ++ chars

/-- The digits of a number, padded with zeros to a width. -/
def padded (width n : Nat) : List Char :=
  padLeft width (digits n)

/-- The text of an integer, with a minus sign when it is negative. -/
def ofInt (n : Int) : String :=
  String.ofList ((if n < 0 then ['-'] else []) ++ digits n.natAbs)

/-- The longest run of digits at the front, and what follows it. -/
def spanDigits (chars : List Char) : List Char × List Char :=
  (chars.takeWhile isDigit, chars.dropWhile isDigit)

/-- The character of a digit has the value of the digit. -/
theorem digitValue?_digitChar {digit : Nat} (small : digit < 10) :
    digitValue? (digitChar digit) = some digit := by
  match digit, small with
  | 0, _ | 1, _ | 2, _ | 3, _ | 4, _ | 5, _ | 6, _ | 7, _ | 8, _ | 9, _ => rfl

/-- One more digit multiplies what precedes it by ten. -/
theorem valueOf_append_digit (chars : List Char) (c : Char) :
    valueOf (chars ++ [c]) = 10 * valueOf chars + (digitValue? c).getD 0 := by
  simp only [valueOf, List.foldl_append, List.foldl_cons, List.foldl_nil]

/-- Reading the digits of a number gives the number back. -/
theorem valueOf_digits (n : Nat) : valueOf (digits n) = n := by
  induction n using Nat.strongRecOn with
  | ind n ih =>
      unfold digits
      split
      next small =>
        simp only [valueOf, List.foldl_cons, List.foldl_nil, digitValue?_digitChar small,
          Option.getD_some]
        omega
      next large =>
        rw [valueOf_append_digit, ih (n / 10) (by omega),
          digitValue?_digitChar (Nat.mod_lt n (by omega)), Option.getD_some]
        omega

end Lodging.Text
