import Lodging.Proofs.Calendar.Civil
import Mathlib.Data.List.Dedup
import Mathlib.Data.List.Iterate
import Mathlib.Data.Int.Basic

/-! # Days of the week

The calendar goes on from each day to the next day of its month, or else to the first of the
next month or of the next year (`Lodging.Date.Civil.next`), and the days of the week go on with
it, without a break in any year (`Lodging.Date.Civil.FallsOn`). A date holds no more than a
count of days. What is left of the count when whole weeks are taken off is the number of the day
of the week that the calendar has for the date (`Lodging.Date.fallsOn_iff`), since one day more
in the count is one day on in the calendar (`Lodging.Date.civil_addDays_one`).

Of seven nights in a row one falls on each day of the week
(`Lodging.Stay.existsUnique_weekday`), so of the days in a list each is met once
(`Lodging.Stay.countP_weekday`).
-/

namespace Lodging

/-! ## The calendar day by day -/

namespace Date

/-- The twelve months have a first day. -/
theorem monthLength_pos (leap : Bool) : ∀ month < 12, 1 ≤ monthLength leap (month + 1) := by
  cases leap <;> decide

namespace Civil

variable {civil : Civil}

/-- The day after. -/
def next (civil : Civil) : Civil :=
  if civil.day < monthLength (isLeapYear civil.year) civil.month then
    ⟨civil.year, civil.month, civil.day + 1⟩
  else if civil.month < 12 then ⟨civil.year, civil.month + 1, 1⟩
  else ⟨civil.year + 1, 1, 1⟩

example : next ⟨-4, 2, 28⟩ = ⟨-4, 2, 29⟩ ∧ next ⟨-100, 2, 28⟩ = ⟨-100, 3, 1⟩ ∧
    next ⟨-1, 12, 31⟩ = ⟨0, 1, 1⟩ := by decide

theorem isDay_next (civil : Civil) : civil.next.IsDay := by
  unfold next
  split
  next inMonth => exact ⟨Nat.le_add_left 1 _, inMonth⟩
  next lastOfMonth =>
    split
    next inYear => exact ⟨Nat.le_refl 1, monthLength_pos _ _ inYear⟩
    next lastOfYear => exact ⟨Nat.le_refl 1, monthLength_pos _ 0 (by decide)⟩

/-- The day after is counted one more. -/
theorem IsDay.number_next (isDay : civil.IsDay) : civil.next.number = civil.number + 1 := by
  obtain ⟨positive, within⟩ := isDay
  unfold Civil.next
  split
  next inMonth =>
    simp only [number, Int.natCast_succ, Int.add_assoc]
  next lastOfMonth =>
    have last : civil.day = monthLength (isLeapYear civil.year) civil.month :=
      Nat.le_antisymm within (Nat.le_of_not_lt lastOfMonth)
    split
    next inYear =>
      simp only [number, daysBeforeMonth, last]
      omega
    next lastOfYear =>
      -- The months add up to the year only because all twelve are over.
      have december : civil.month = 12 :=
        Nat.le_antisymm (le_of_le_monthLength positive within).1 (Nat.le_of_not_lt lastOfYear)
      have ends := daysBeforeMonth_thirteen (isLeapYear civil.year)
      rw [daysBeforeMonth, ← december, ← last] at ends
      have begins : daysBeforeMonth (isLeapYear (civil.year + 1)) 1 = 0 := rfl
      simp only [number, daysBeforeYear_succ, begins, ← ends]
      omega

end Civil

/-- The day after a date is the day after in the calendar. -/
theorem civil_addDays_one (date : Date) : (date.addDays 1).civil = date.civil.next := by
  obtain ⟨isDay, counted⟩ := isDay_civil date
  rw [← civil_number (Civil.isDay_next _), isDay.number_next, counted]
  rfl

theorem civil_addDays (date : Date) (days : Nat) :
    (date.addDays days).civil = Civil.next^[days] date.civil := by
  induction days with
  | zero => exact congrArg civil (congrArg Date.mk (Int.add_zero _))
  | succ days ih =>
      rw [Function.iterate_succ_apply', ← ih, ← civil_addDays_one]
      refine congrArg civil (congrArg Date.mk ?_)
      dsimp only [addDays]
      omega

end Date

/-! ## The days of the week -/

/-- The seven days of a week. -/
inductive Weekday where
  | sunday | monday | tuesday | wednesday | thursday | friday | saturday
deriving DecidableEq, Repr

namespace Weekday

/-- The day of the week after. -/
def next : Weekday → Weekday
  | sunday => monday
  | monday => tuesday
  | tuesday => wednesday
  | wednesday => thursday
  | thursday => friday
  | friday => saturday
  | saturday => sunday

/-- The number of the day in lists of days of the week. -/
def number : Weekday → Nat
  | sunday => 0
  | monday => 1
  | tuesday => 2
  | wednesday => 3
  | thursday => 4
  | friday => 5
  | saturday => 6

theorem number_next (weekday : Weekday) : weekday.next.number = (weekday.number + 1) % 7 := by
  cases weekday <;> rfl

theorem number_lt (weekday : Weekday) : weekday.number < 7 := by
  cases weekday <;> decide

theorem number_injective {one other : Weekday} (same : one.number = other.number) :
    one = other := by
  cases one <;> cases other <;> first | rfl | exact nomatch same

theorem exists_next_eq (weekday : Weekday) : ∃ before : Weekday, before.next = weekday := by
  cases weekday
  exacts [⟨saturday, rfl⟩, ⟨sunday, rfl⟩, ⟨monday, rfl⟩, ⟨tuesday, rfl⟩, ⟨wednesday, rfl⟩,
    ⟨thursday, rfl⟩, ⟨friday, rfl⟩]

theorem exists_number_eq : ∀ number < 7, ∃ weekday : Weekday, weekday.number = number
  | 0, _ => ⟨sunday, rfl⟩
  | 1, _ => ⟨monday, rfl⟩
  | 2, _ => ⟨tuesday, rfl⟩
  | 3, _ => ⟨wednesday, rfl⟩
  | 4, _ => ⟨thursday, rfl⟩
  | 5, _ => ⟨friday, rfl⟩
  | 6, _ => ⟨saturday, rfl⟩

end Weekday

namespace Date

/-- The day falls on the day of the week: the first of June 2025 is a Sunday, and the days of
the week follow one another without a break, from there on and up to there. -/
inductive Civil.FallsOn : Civil → Weekday → Prop where
  | known : FallsOn ⟨2025, 6, 1⟩ .sunday
  | after {civil : Civil} {weekday : Weekday} :
      FallsOn civil weekday → FallsOn civil.next weekday.next
  | before {civil : Civil} {weekday : Weekday} :
      civil.IsDay → FallsOn civil.next weekday.next → FallsOn civil weekday

variable {date : Date} {civil : Civil} {weekday : Weekday}

theorem weekday_lt (date : Date) : date.weekday < 7 := by
  rw [Date.weekday]
  omega

theorem weekday_addDays_one (date : Date) :
    (date.addDays 1).weekday = (date.weekday + 1) % 7 := by
  simp only [Date.weekday, addDays]
  omega

theorem weekday_addDays_seven (date : Date) : (date.addDays 7).weekday = date.weekday := by
  rw [Date.weekday, addDays, Int.add_emod_right, Date.weekday]

/-- A day that falls on a day of the week is a date with the number of that day. -/
theorem Civil.FallsOn.exists_date (falls : civil.FallsOn weekday) :
    ∃ date : Date, date.civil = civil ∧ date.weekday = weekday.number := by
  induction falls with
  | known => exact ⟨⟨739403⟩, by decide, rfl⟩
  | after _ ih =>
      obtain ⟨date, rfl, same⟩ := ih
      refine ⟨date.addDays 1, civil_addDays_one date, ?_⟩
      rw [weekday_addDays_one, same, Weekday.number_next]
  | @before civil weekday isDay _ ih =>
      obtain ⟨later, follows, same⟩ := ih
      have counted : later.number = civil.number + 1 := by
        rw [← (isDay_civil later).2, follows, isDay.number_next]
      refine ⟨⟨civil.number⟩, civil_number isDay, ?_⟩
      have small := weekday.number_lt
      rw [Weekday.number_next, Date.weekday, counted] at same
      dsimp only [Date.weekday]
      omega

/-- The days of the week reach all dates from the one that is known, to both sides. -/
theorem exists_fallsOn (date : Date) : ∃ weekday, date.civil.FallsOn weekday := by
  obtain ⟨number⟩ := date
  induction number using Int.inductionOn' (b := 739403) with
  | zero => exact ⟨.sunday, .known⟩
  | succ number _ ih =>
      obtain ⟨weekday, falls⟩ := ih
      exact ⟨weekday.next, civil_addDays_one ⟨number⟩ ▸ falls.after⟩
  | pred number _ ih =>
      obtain ⟨weekday, falls⟩ := ih
      obtain ⟨before, rfl⟩ := weekday.exists_next_eq
      -- What is known of a date says which day of the week its day before must be.
      have follows := civil_addDays_one ⟨number - 1⟩
      rw [addDays, Int.sub_add_cancel] at follows
      exact ⟨before, .before (isDay_civil _).1 (follows ▸ falls)⟩

/-- **Days of the week.** A date falls on the day of the week that it is computed to be. -/
theorem fallsOn_iff : date.civil.FallsOn weekday ↔ date.weekday = weekday.number := by
  have numbered {weekday : Weekday} (falls : date.civil.FallsOn weekday) :
      date.weekday = weekday.number := by
    obtain ⟨other, sameDay, sameNumber⟩ := falls.exists_date
    have same : other.number = date.number := by
      rw [← (isDay_civil other).2, sameDay, (isDay_civil date).2]
    rw [← sameNumber, Date.weekday, Date.weekday, same]
  refine ⟨numbered, fun computed => ?_⟩
  obtain ⟨known, falls⟩ := exists_fallsOn date
  rwa [Weekday.number_injective (computed.symm.trans (numbered falls))]

end Date

/-! ## Seven nights -/

namespace Stay

/-- The nights of a stay are days of the calendar that follow one another. -/
theorem map_civil_nightsFrom (first : Date) (count : Nat) :
    (nightsFrom first count).map Date.civil =
      List.iterate Date.Civil.next first.civil count := by
  rw [nightsFrom, List.map_map, ← List.range_map_iterate]
  exact List.map_congr_left fun offset _ => Date.civil_addDays first offset

/-- The days of seven nights in a row are read as the nights, if there is a week left in the
calendar. -/
theorem map_ofCivil?_week {day : Date} (inCalendar : day.InCalendar)
    (weekLater : (day.addDays 7).InCalendar) :
    (List.iterate Date.Civil.next day.civil 7).map Date.ofCivil? = (nightsFrom day 7).map some := by
  rw [← map_civil_nightsFrom, List.map_map]
  refine List.map_congr_left fun night member => ?_
  obtain ⟨after, before⟩ := mem_nightsFrom.mp member
  exact Date.ofCivil?_civil (inCalendar.between weekLater after (Int.le_of_lt before))

/-- Of seven nights in a row one falls on each day of the week. -/
theorem existsUnique_weekday (first : Date) {number : Nat} (small : number < 7) :
    ∃! night, night ∈ nightsFrom first 7 ∧ night.weekday = number := by
  -- The first day from `first` on whose number leaves the remainder is less than a week ahead.
  have inWeek (night : Date) : night ∈ nightsFrom first 7 ∧ night.weekday = number ↔
      night.number = first.number + (number - first.number) % 7 := by
    rw [mem_nightsFrom]
    change (first.number ≤ night.number ∧ night.number < first.number + 7) ∧
      (night.number % 7).toNat = number ↔ _
    omega
  refine ⟨⟨first.number + (number - first.number) % 7⟩, (inWeek _).mpr rfl, fun night falls => ?_⟩
  exact congrArg Date.mk ((inWeek night).mp falls)

/-- In a week as many nights fall on days of a list as there are different days in it. -/
theorem countP_weekday (first : Date) {days : List Nat} (within : ∀ day ∈ days, day < 7) :
    (nightsFrom first 7).countP (fun night => days.contains night.weekday) =
      days.dedup.length := by
  have distinct : ((nightsFrom first 7).map Date.weekday).Nodup := by
    refine List.Nodup.map_on (fun one inWeek other otherInWeek same => ?_)
      ((nightsFrom_ascending first 7).imp ?_)
    · exact (existsUnique_weekday first one.weekday_lt).unique ⟨inWeek, rfl⟩
        ⟨otherInWeek, same.symm⟩
    · rintro one _ earlier rfl
      exact Int.lt_irrefl one.number earlier
  have met (day : Nat) :
      day ∈ ((nightsFrom first 7).map Date.weekday).filter days.contains ↔ day ∈ days.dedup := by
    rw [List.mem_filter, List.contains_iff_mem, List.mem_dedup, and_iff_right_iff_imp]
    intro listed
    obtain ⟨night, falls, -⟩ := existsUnique_weekday first (within day listed)
    exact List.mem_map.mpr ⟨night, falls⟩
  calc (nightsFrom first 7).countP (fun night => days.contains night.weekday)
      = ((nightsFrom first 7).map Date.weekday).countP days.contains := by
        rw [List.countP_map, Function.comp_def]
    _ = (((nightsFrom first 7).map Date.weekday).filter days.contains).length :=
        List.countP_eq_length_filter
    _ = days.dedup.length :=
        ((List.perm_ext_iff_of_nodup (distinct.filter _) days.nodup_dedup).mpr met).length_eq

end Stay

end Lodging
