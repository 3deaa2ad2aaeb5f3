import Lodging.Calendar.Instant
import Lodging.Text.Scanner

/-! # Dates as text

A date is given as a year, month and day, or as a timestamp with an offset from
universal time, which stands for the day of universal time it falls on
(`Date.read`). Blanks around either are ignored.
-/

namespace Lodging

namespace Date

open Text Text.Scanner

/-- Takes a year: up to four digits, or any number of them behind a sign. -/
def scanYear : Scanner Int := fun chars =>
  match chars with
  | '-' :: rest => do
      let (digits, rest) ← allDigits rest
      some (-(valueOf digits : Int), rest)
  | '+' :: rest => do
      let (digits, rest) ← allDigits rest
      some ((valueOf digits : Int), rest)
  | chars => do
      let (year, rest) ← shortNumber 4 chars
      some ((year : Int), rest)

/-- Takes a year, a month and a day with dashes between them. Blanks may precede
each number. -/
def scanCivil : Scanner Date := do
  skipBlanks
  let year ← scanYear
  expect '-'
  skipBlanks
  let month ← shortNumber 2
  expect '-'
  skipBlanks
  let day ← shortNumber 2
  match ofCivil? { year, month, day } with
  | some date => pure date
  | none => failure

end Date

namespace Instant

open Text Text.Scanner

/-- The nanoseconds that the digits of a fraction stand for; digits beyond the
ninth are left out. -/
def nanosOfFraction (digits : List Char) : Nat :=
  let kept := digits.take 9
  valueOf kept * Nat.pow 10 (9 - kept.length)

/-- Takes the fraction of a second, if a point announces one. -/
def scanFraction : Scanner Nat := do
  if ← optional '.' then
    let digits ← allDigits
    pure (nanosOfFraction digits)
  else pure 0

/-- The minus signs that may precede an offset. -/
def isMinus (c : Char) : Bool :=
  c == '-' || c == '\u2212'

/-- Takes an offset from universal time and gives it in seconds. -/
def scanOffset : Scanner Int := do
  let sign ← accept fun c => c == 'Z' || c == 'z' || c == '+' || isMinus c
  if sign == 'Z' || sign == 'z' then pure 0
  else
    let hours ← boundedNumber 2 23
    expect ':'
    let minutes ← boundedNumber 2 59
    let seconds : Int := 3600 * hours + 60 * minutes
    pure (if isMinus sign then -seconds else seconds)

/-- Takes a timestamp, in which every number has its full width. -/
def scan : Scanner Instant := do
  let year ← fixedNumber 4
  expect '-'
  let month ← fixedNumber 2
  expect '-'
  let day ← fixedNumber 2
  let _ ← accept fun c => c == 'T' || c == 't' || c == ' '
  let hour ← boundedNumber 2 23
  expect ':'
  let minute ← boundedNumber 2 59
  expect ':'
  let second ← boundedNumber 2 60
  let nanos ← scanFraction
  let ahead ← scanOffset
  match Date.ofCivil? { year, month, day } with
  | none => failure
  | some date =>
      let full := 3600 * hour + 60 * minute
      pure <|
        if second = 60 then ofLocal date (full + 59) (nanos + 1000000000) ahead
        else ofLocal date (full + second) nanos ahead

/-- The instant that a timestamp stands for. -/
def read? (text : String) : Option Instant :=
  scan.read? text.toList

end Instant

namespace Date

open Text

/-- A text that is no date, freed of the blanks around it. -/
structure Unreadable where
  text : String
deriving DecidableEq, Repr

def Unreadable.message (refused : Unreadable) : String :=
  s!"Invalid date '{refused.text}': expected YYYY-MM-DD or an RFC 3339 timestamp"

/-- The day that a date or a timestamp stands for. -/
def read (text : String) : Except Unreadable Date :=
  let chars := trimChars text.toList
  match scanCivil.read? chars with
  | some date => .ok date
  | none =>
      match Instant.scan.read? chars with
      | some instant => .ok instant.day
      | none => .error { text := String.ofList chars }

end Date

end Lodging
