import Lodging.Text.Digits

/-! # Days of the calendar

A date is a day of the Gregorian calendar, extended to all years before and
after. It is held as a count of days in which the first of January of the year
one is day one, a Monday, so arithmetic and weekdays need no calendar.
The year, month and day are computed from the count (`Date.civil`) and checked
on the way in (`Date.ofCivil?`).
-/

namespace Lodging

/-- A day of the calendar. -/
structure Date where
  /-- Days since the last day before the year one. -/
  number : Int
deriving DecidableEq, Repr, Inhabited

namespace Date

/-- Earlier dates are less. -/
instance : LE Date where
  le a b := a.number ≤ b.number

instance (a b : Date) : Decidable (a ≤ b) :=
  inferInstanceAs (Decidable (a.number ≤ b.number))

/-- Strict order of dates. -/
instance : LT Date where
  lt a b := a.number < b.number

instance (a b : Date) : Decidable (a < b) :=
  inferInstanceAs (Decidable (a.number < b.number))

/-- The date some days later, or earlier for a negative count. -/
def addDays (date : Date) (days : Int) : Date where
  number := date.number + days

/-- The days from one date to another. -/
def daysUntil (first second : Date) : Int :=
  second.number - first.number

/-- The day of the week, from zero for Sunday to six for Saturday. -/
def weekday (date : Date) : Nat :=
  (date.number % 7).toNat

/-- A year, a month from one to twelve and a day from one. -/
structure Civil where
  year : Int
  month : Nat
  day : Nat
deriving DecidableEq, Repr

/-- The first year that dates are read for. -/
def minYear : Int := -262143

/-- The last year that dates are read for. -/
def maxYear : Int := 262142

/-- The year has a 29th of February. -/
def isLeapYear (year : Int) : Bool :=
  year % 4 == 0 && (year % 100 != 0 || year % 400 == 0)

/-- The number of the last day before a year. -/
def daysBeforeYear (year : Int) : Int :=
  let past := year - 1
  365 * past + past / 4 - past / 100 + past / 400

/-- The days of a month; there are none outside of one to twelve. -/
def monthLength (leap : Bool) : (month : Nat) → Nat
  | 1 | 3 | 5 | 7 | 8 | 10 | 12 => 31
  | 4 | 6 | 9 | 11 => 30
  | 2 => if leap then 29 else 28
  | _ => 0

/-- The days of a year before a month. -/
def daysBeforeMonth (leap : Bool) : (month : Nat) → Nat
  | 0 => 0
  | month + 1 => daysBeforeMonth leap month + monthLength leap month

/-- The date of a year, month and day, if there is such a day and the year is
within the limits. -/
def ofCivil? (civil : Civil) : Option Date :=
  let leap := isLeapYear civil.year
  if minYear ≤ civil.year ∧ civil.year ≤ maxYear ∧
      1 ≤ civil.day ∧ civil.day ≤ monthLength leap civil.month then
    some
      { number := daysBeforeYear civil.year + daysBeforeMonth leap civil.month + civil.day }
  else none

/-- The year of a date. The average length of a year gives it up to one year. -/
def year (date : Date) : Int :=
  let guess := (date.number - 1) * 400 / 146097 + 1
  if date.number ≤ daysBeforeYear guess then guess - 1
  else if daysBeforeYear (guess + 1) < date.number then guess + 1
  else guess

/-- The month and day of a day of the year, among the first `months` months. -/
def monthAndDay (leap : Bool) (dayOfYear : Nat) : (months : Nat) → Nat × Nat
  | 0 => (1, dayOfYear)
  | month + 1 =>
      if daysBeforeMonth leap (month + 1) < dayOfYear then
        (month + 1, dayOfYear - daysBeforeMonth leap (month + 1))
      else monthAndDay leap dayOfYear month

/-- The year, month and day of a date. -/
def civil (date : Date) : Civil :=
  let year := date.year
  let dayOfYear := (date.number - daysBeforeYear year).toNat
  let (month, day) := monthAndDay (isLeapYear year) dayOfYear 12
  { year, month, day }

/-- The text of a date. Years of four digits are written bare; others carry a
sign. -/
def display (date : Date) : String :=
  let civil := date.civil
  let sign :=
    if civil.year < 0 then ['-'] else if 9999 < civil.year then ['+'] else []
  String.ofList
    (sign ++ Text.padded 4 civil.year.natAbs ++ '-' :: Text.padded 2 civil.month ++
      '-' :: Text.padded 2 civil.day)

instance : ToString Date := ⟨display⟩

end Date

end Lodging
