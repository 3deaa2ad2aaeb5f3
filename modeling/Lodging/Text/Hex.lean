import Lodging.Text.Digits

/-! # Hexadecimal digits

Written in lower case and read in either. Reading a written digit gives its value
back (`Lodging.Text.hexValue?_hexDigit`).
-/

namespace Lodging.Text

/-- The character of a digit below sixteen. -/
def hexDigit (digit : Nat) : Char :=
  if digit < 10 then digitChar digit else Char.ofNat (87 + digit)

def hexValue? (c : Char) : Option Nat :=
  if 'a' ≤ c ∧ c ≤ 'f' then some (c.toNat - 87)
  else if 'A' ≤ c ∧ c ≤ 'F' then some (c.toNat - 55)
  else digitValue? c

/-- The number that hexadecimal digits stand for, if they all are such. -/
def hexNumber? (chars : List Char) : Option Nat := do
  let digits ← chars.mapM hexValue?
  some (digits.foldl (fun value digit => 16 * value + digit) 0)

/-- A written digit reads back as its value. -/
theorem hexValue?_hexDigit :
    ∀ digit < 16, hexValue? (hexDigit digit) = some digit := by
  decide

end Lodging.Text
