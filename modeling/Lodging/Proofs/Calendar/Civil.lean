import Lodging.Proofs.Calendar.Nights

/-! # Years, months and days

A date is held as a count of days, and its year, month and day are computed from the count.
They are those of the date (`Lodging.Date.ofCivil?_civil`): the year that is guessed from the
average length of a year is at most one off, and the month is the last one that begins before
the day. No other year, month and day have the same count (`Lodging.Date.civil_number`). Dates
of the calendar are those of the years that dates are read for (`Lodging.Date.inCalendar_iff`).
-/

namespace Lodging.Date

variable {date : Date} {civil : Civil} {leap : Bool} {dayOfYear months : Nat}

/-- A date comes after the last day before its year, and not after the last day of it. -/
theorem daysBeforeYear_year (date : Date) :
    daysBeforeYear date.year < date.number ∧ date.number ≤ daysBeforeYear (date.year + 1) := by
  have least : daysBeforeYear ((date.number - 1) * 400 / 146097 + 1 - 1) < date.number := by
    simp only [daysBeforeYear]
    omega
  have most : date.number ≤ daysBeforeYear ((date.number - 1) * 400 / 146097 + 1 + 1 + 1) := by
    simp only [daysBeforeYear]
    omega
  rw [year]
  generalize (date.number - 1) * 400 / 146097 + 1 = guess at least most ⊢
  split
  next before => exact ⟨least, (Int.sub_add_cancel guess 1).symm ▸ before⟩
  next notBefore =>
    split
    next after => exact ⟨after, most⟩
    next notAfter => exact ⟨Int.not_le.mp notBefore, Int.not_lt.mp notAfter⟩

/-- Dates of the calendar are those of its years. -/
theorem inCalendar_iff : date.InCalendar ↔ minYear ≤ date.year ∧ date.year ≤ maxYear := by
  obtain ⟨after, before⟩ := daysBeforeYear_year date
  change daysBeforeYear minYear + 1 ≤ date.number ∧ date.number ≤ daysBeforeYear (maxYear + 1) ↔ _
  constructor
  · rintro ⟨least, most⟩
    constructor
    · rcases Int.lt_or_le date.year minYear with early | late
      · have := daysBeforeYear_mono (Int.add_one_le_of_lt early)
        omega
      · exact late
    · rcases Int.lt_or_le maxYear date.year with late | early
      · have := daysBeforeYear_mono (Int.add_one_le_of_lt late)
        omega
      · exact early
  · rintro ⟨least, most⟩
    have := daysBeforeYear_mono least
    have := daysBeforeYear_mono (Int.add_le_add_right most 1)
    omega

/-- The days before the months behind the last one are those of the year. -/
theorem daysBeforeMonth_thirteen (leap : Bool) : daysBeforeMonth leap 13 = yearLength leap := by
  cases leap <;> rfl

/-- The month and the day make the day of the year, and the month has the day. -/
theorem daysBeforeMonth_monthAndDay (positive : 0 < dayOfYear)
    (within : dayOfYear ≤ daysBeforeMonth leap (months + 1)) :
    daysBeforeMonth leap (monthAndDay leap dayOfYear months).1 +
        (monthAndDay leap dayOfYear months).2 = dayOfYear ∧
      1 ≤ (monthAndDay leap dayOfYear months).2 ∧
      (monthAndDay leap dayOfYear months).2 ≤
        monthLength leap (monthAndDay leap dayOfYear months).1 := by
  induction months with
  | zero => exact absurd within (Nat.not_le_of_lt positive)
  | succ month ih =>
      rw [monthAndDay]
      split
      next begun =>
        rw [daysBeforeMonth] at within
        dsimp only
        omega
      next later => exact ih (Nat.le_of_not_lt later)

/-- The year, month and day of a date are a day of the calendar, and it is the same day. -/
theorem isDay_civil (date : Date) : date.civil.IsDay ∧ date.civil.number = date.number := by
  obtain ⟨after, before⟩ := daysBeforeYear_year date
  rw [daysBeforeYear_succ] at before
  have within : (date.number - daysBeforeYear date.year).toNat ≤
      daysBeforeMonth (isLeapYear date.year) (12 + 1) := by
    rw [daysBeforeMonth_thirteen]
    omega
  obtain ⟨whole, valid⟩ := daysBeforeMonth_monthAndDay (by omega) within
  rw [civil, Civil.number]
  refine ⟨valid, ?_⟩
  dsimp only
  omega

/-- **The calendar.** The year, month and day of a date are read as the date. -/
theorem ofCivil?_civil (inCalendar : date.InCalendar) : ofCivil? date.civil = some date :=
  ofCivil?_eq_some.mpr ⟨inCalendar_iff.mp inCalendar, isDay_civil date⟩

/-- A month and a day that are read have two digits at most. -/
theorem monthAndDay_of_ofCivil? (read : ofCivil? civil = some date) :
    civil.month ≤ 12 ∧ civil.day ≤ 31 := by
  obtain ⟨-, ⟨positive, within⟩, -⟩ := ofCivil?_eq_some.mp read
  exact le_of_le_monthLength positive within

/-! ## One day, one year, month and day -/

/-- A month ends before a later one begins. -/
theorem daysBeforeMonth_add_monthLength_le (leap : Bool) {month later : Nat}
    (earlier : month < later) :
    daysBeforeMonth leap month + monthLength leap month ≤ daysBeforeMonth leap later := by
  induction earlier with
  | refl => exact Nat.le_refl _
  | step _ ih => exact Nat.le_trans ih (Nat.le_add_right _ _)

/-- The count tells days apart. -/
theorem Civil.IsDay.eq_of_number {other : Civil} (isDay : civil.IsDay) (isOther : other.IsDay)
    (same : civil.number = other.number) : civil = other := by
  obtain ⟨year, month, day⟩ := civil
  obtain ⟨otherYear, otherMonth, otherDay⟩ := other
  have sameYear : year = otherYear := by
    obtain ⟨after, before⟩ := isDay.inYear
    obtain ⟨otherAfter, otherBefore⟩ := isOther.inYear
    rcases Int.lt_trichotomy year otherYear with earlier | equal | later
    · have := daysBeforeYear_mono (Int.add_one_le_of_lt earlier)
      dsimp only at *
      omega
    · exact equal
    · have := daysBeforeYear_mono (Int.add_one_le_of_lt later)
      dsimp only at *
      omega
  subst sameYear
  obtain ⟨positive, within⟩ := isDay
  obtain ⟨otherPositive, otherWithin⟩ := isOther
  simp only [number] at *
  have sameMonth : month = otherMonth := by
    rcases Nat.lt_trichotomy month otherMonth with earlier | equal | later
    · have := daysBeforeMonth_add_monthLength_le (isLeapYear year) earlier
      omega
    · exact equal
    · have := daysBeforeMonth_add_monthLength_le (isLeapYear year) later
      omega
  subst sameMonth
  exact congrArg _ (by omega)

/-- A day is the year, month and day of the date that it is counted as. -/
theorem civil_number (isDay : civil.IsDay) : (⟨civil.number⟩ : Date).civil = civil := by
  obtain ⟨isCounted, counted⟩ := isDay_civil ⟨civil.number⟩
  exact isCounted.eq_of_number isDay counted

end Lodging.Date
