import Lodging.Text.Blank
import Lodging.Text.Digits

/-! # Reading text from the left

A scanner takes characters off the front of a text and fails where they are not
what it expects. `Scanner.read?` accepts a text only when nothing is left.
-/

namespace Lodging.Text

/-- A reader of a value from the front of a text. -/
abbrev Scanner (α : Type) := StateT (List Char) Option α

namespace Scanner

def accept (accepts : Char → Bool) : Scanner Char := fun chars =>
  match chars with
  | [] => none
  | c :: rest => if accepts c then some (c, rest) else none

def expect (c : Char) : Scanner Unit := do
  let _ ← accept (· == c)

/-- Takes one given character if it is there, and tells whether it was. -/
def optional (c : Char) : Scanner Bool := fun chars =>
  match chars with
  | [] => some (false, [])
  | d :: rest => if d == c then some (true, rest) else some (false, d :: rest)

def skipBlanks : Scanner Unit := fun chars =>
  some ((), chars.dropWhile isBlank)

/-- Takes as many digits as there are, at least one. -/
def allDigits : Scanner (List Char) := fun chars =>
  match spanDigits chars with
  | ([], _) => none
  | found => some found

/-- Takes a number of one digit, or of as many more as there are up to `most`. -/
def shortNumber (most : Nat) : Scanner Nat := fun chars =>
  match (chars.take most).takeWhile isDigit with
  | [] => none
  | found => some (valueOf found, chars.drop found.length)

/-- Takes a number of exactly `width` digits. -/
def fixedNumber (width : Nat) : Scanner Nat := fun chars =>
  let found := chars.take width
  if found.length = width ∧ found.all isDigit then some (valueOf found, chars.drop width) else none

/-- Takes a number of exactly `width` digits that is at most `most`. -/
def boundedNumber (width most : Nat) : Scanner Nat := do
  let value ← fixedNumber width
  if value ≤ most then pure value else failure

/-- The value of a text of which nothing is left over. -/
def read? {α : Type} (scanner : Scanner α) (chars : List Char) : Option α :=
  match scanner chars with
  | some (value, []) => some value
  | _ => none

end Scanner

end Lodging.Text
