import Lodging.Calendar.Stay

/-! # The nights of a stay

The nights of a stay are the days from check-in up to the day before check-out, in
order and each once (`Lodging.Stay.mem_nightsFrom`, `Lodging.Stay.nightsFrom_ascending`).
They lie between two days that have been read, so none of them is outside of the
calendar that dates are read from (`Lodging.Date.ofCivil?_inCalendar`).
-/

namespace Lodging

namespace Date

/-- The first day of the first year that dates are read for. -/
def first : Date where
  number := daysBeforeYear minYear + 1

/-- The last day of the last year that dates are read for. -/
def last : Date where
  number := daysBeforeYear (maxYear + 1)

example : ofCivil? ⟨minYear, 1, 1⟩ = some first := by decide

example : ofCivil? ⟨maxYear, 12, 31⟩ = some last := by decide

/-- The day is in a year that dates are read for. -/
def InCalendar (date : Date) : Prop :=
  first ≤ date ∧ date ≤ last

instance (date : Date) : Decidable date.InCalendar :=
  inferInstanceAs (Decidable (_ ∧ _))

theorem InCalendar.between {least day most : Date} (lower : least.InCalendar)
    (upper : most.InCalendar) (after : least ≤ day) (before : day ≤ most) : day.InCalendar :=
  ⟨Int.le_trans lower.1 after, Int.le_trans before upper.2⟩

/-- The number of days in a year. -/
def yearLength (leap : Bool) : Nat :=
  if leap then 366 else 365

theorem daysBeforeYear_succ (year : Int) :
    daysBeforeYear (year + 1) = daysBeforeYear year + yearLength (isLeapYear year) := by
  have leap : isLeapYear year = true ↔ year % 4 = 0 ∧ (year % 100 ≠ 0 ∨ year % 400 = 0) := by
    simp only [isLeapYear, Bool.and_eq_true, Bool.or_eq_true, beq_iff_eq, bne_iff_ne]
  by_cases isLeap : isLeapYear year = true
  · rw [yearLength, if_pos isLeap]
    rw [leap] at isLeap
    simp only [daysBeforeYear]
    omega
  · rw [yearLength, if_neg isLeap]
    rw [leap] at isLeap
    simp only [daysBeforeYear]
    omega

theorem daysBeforeYear_mono {one other : Int} (earlier : one ≤ other) :
    daysBeforeYear one ≤ daysBeforeYear other := by
  simp only [daysBeforeYear]
  omega

/-- There are days in twelve months only, and at most 31 in each. -/
theorem le_of_le_monthLength {leap : Bool} {month day : Nat} (positive : 1 ≤ day)
    (within : day ≤ monthLength leap month) : month ≤ 12 ∧ day ≤ 31 := by
  unfold monthLength at within
  split at within
  all_goals first | omega | (split at within <;> omega)

/-- Every month ends within the year. -/
theorem daysBeforeMonth_add_le (leap : Bool) {month day : Nat} (positive : 1 ≤ day)
    (within : day ≤ monthLength leap month) :
    daysBeforeMonth leap month + day ≤ yearLength leap := by
  have named : month ≤ 12 := (le_of_le_monthLength positive within).1
  have ends : ∀ month ≤ 12,
      daysBeforeMonth leap month + monthLength leap month ≤ yearLength leap := by
    cases leap <;> decide
  exact Nat.le_trans (Nat.add_le_add_left within _) (ends month named)

namespace Civil

/-- The month has the day. -/
def IsDay (civil : Civil) : Prop :=
  1 ≤ civil.day ∧ civil.day ≤ monthLength (isLeapYear civil.year) civil.month

instance (civil : Civil) : Decidable civil.IsDay :=
  inferInstanceAs (Decidable (_ ∧ _))

/-- The days up to the day, counted as in dates. -/
def number (civil : Civil) : Int :=
  daysBeforeYear civil.year + daysBeforeMonth (isLeapYear civil.year) civil.month + civil.day

/-- A day comes after the last day before its year, and not after the last day of it. -/
theorem IsDay.inYear {civil : Civil} (isDay : civil.IsDay) :
    daysBeforeYear civil.year < civil.number ∧
      civil.number ≤ daysBeforeYear (civil.year + 1) := by
  obtain ⟨positive, within⟩ := isDay
  have inYear := daysBeforeMonth_add_le _ positive within
  rw [daysBeforeYear_succ, number]
  omega

end Civil

/-- A year, month and day are read if there is such a day and the year is within the limits. -/
theorem ofCivil?_eq_some {civil : Civil} {date : Date} : ofCivil? civil = some date ↔
    (minYear ≤ civil.year ∧ civil.year ≤ maxYear) ∧ civil.IsDay ∧ civil.number = date.number := by
  rw [ofCivil?, Option.ite_none_right_eq_some, Option.some.injEq]
  exact ⟨fun ⟨⟨least, most, isDay⟩, same⟩ => ⟨⟨least, most⟩, isDay, congrArg Date.number same⟩,
    fun ⟨⟨least, most⟩, isDay, same⟩ => ⟨⟨least, most, isDay⟩, congrArg Date.mk same⟩⟩

/-- What is read as a date is a day of its year, which is one that dates are read for. -/
theorem of_ofCivil? {civil : Civil} {date : Date} (read : ofCivil? civil = some date) :
    (minYear ≤ civil.year ∧ civil.year ≤ maxYear) ∧
      daysBeforeYear civil.year < date.number ∧
        date.number ≤ daysBeforeYear (civil.year + 1) := by
  obtain ⟨years, isDay, counted⟩ := ofCivil?_eq_some.mp read
  exact ⟨years, counted ▸ isDay.inYear⟩

/-- What is read as a date is in the calendar. -/
theorem ofCivil?_inCalendar {civil : Civil} {date : Date} (read : ofCivil? civil = some date) :
    date.InCalendar := by
  obtain ⟨⟨least, most⟩, after, before⟩ := of_ofCivil? read
  have lower := daysBeforeYear_mono least
  have upper := daysBeforeYear_mono (Int.add_le_add_right most 1)
  exact ⟨Int.add_one_le_of_lt (Int.lt_of_le_of_lt lower after), Int.le_trans before upper⟩

end Date

namespace Stay

variable {stay : Stay} {limit count : Nat} {day : Date}

theorem span_pos (accepted : stay.nights limit = .ok count) : 0 < stay.span := by
  unfold Stay.nights at accepted
  split at accepted
  · exact nomatch accepted
  · omega

theorem nights_ok (accepted : stay.nights limit = .ok count) : (count : Int) = stay.span := by
  unfold Stay.nights at accepted
  split at accepted
  · exact nomatch accepted
  · split at accepted
    · exact nomatch accepted
    · obtain rfl := Except.ok.inj accepted
      omega

/-- A stay is accepted if it has a night at least, and no more than are allowed. -/
theorem nights_ok_iff :
    (∃ count, stay.nights limit = .ok count) ↔ 0 < stay.span ∧ stay.span ≤ limit := by
  rw [nights]
  split
  next none => exact iff_of_false nofun (by omega)
  next some =>
    split
    next more => exact iff_of_false nofun (by omega)
    next within => exact iff_of_true ⟨_, rfl⟩ (by omega)

theorem mem_nightsFrom {first : Date} :
    day ∈ nightsFrom first count ↔ first ≤ day ∧ day < first.addDays count := by
  change _ ↔ first.number ≤ day.number ∧ day.number < first.number + count
  rw [nightsFrom, List.mem_map]
  constructor
  · rintro ⟨offset, inside, rfl⟩
    rw [List.mem_range] at inside
    dsimp only [Date.addDays]
    omega
  · rintro ⟨after, before⟩
    refine ⟨(day.number - first.number).toNat, List.mem_range.mpr (by omega), ?_⟩
    exact congrArg Date.mk (by omega)

theorem nightsFrom_ascending (first : Date) (count : Nat) :
    (nightsFrom first count).Pairwise (· < ·) := by
  refine List.pairwise_map.mpr (List.pairwise_lt_range.imp fun {one other} earlier => ?_)
  change first.number + one < first.number + other
  omega

/-- The nights of a stay that is accepted are the days from check-in on that come
before check-out. -/
theorem mem_nights (accepted : stay.nights limit = .ok count) :
    day ∈ nightsFrom stay.checkIn count ↔ stay.checkIn ≤ day ∧ day < stay.checkOut := by
  have ends : stay.checkIn.addDays count = stay.checkOut := by
    rw [Date.addDays, nights_ok accepted, span, Date.daysUntil, Int.add_comm,
      Int.sub_add_cancel]
  rw [mem_nightsFrom, ends]

theorem le_lastNight : day ≤ stay.lastNight ↔ day < stay.checkOut := by
  change day.number ≤ stay.checkOut.number + -1 ↔ day.number < stay.checkOut.number
  omega

/-- The last night of a stay that is accepted is one of its nights. -/
theorem checkIn_le_lastNight (accepted : stay.nights limit = .ok count) :
    stay.checkIn ≤ stay.lastNight := by
  rw [le_lastNight]
  exact Int.lt_of_sub_pos (span_pos accepted)

end Stay

end Lodging
