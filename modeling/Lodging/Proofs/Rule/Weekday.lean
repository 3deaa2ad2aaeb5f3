import Lodging.Proofs.Calendar.Weekday
import Lodging.Proofs.Rule.Decode

/-! # Rules for days of the week

A rule for days of the week fires on the nights that the calendar has on one of its days
(`Lodging.Trigger.fires_dayOfWeek_iff`). So what it does repeats from week to week, and in each
week it fires once for every day that it lists, wherever months, leap years and the year zero
come in between (`Lodging.Rule.weekdays_tile`).
-/

namespace Lodging

open Date (Civil)

/-- A rule for days of the week fires on the nights that fall on one of them. -/
theorem Trigger.fires_dayOfWeek_iff {days : List Nat} {night : RuleContext} :
    (dayOfWeek days).fires night = true ↔
      ∃ weekday : Weekday, night.date.civil.FallsOn weekday ∧ weekday.number ∈ days := by
  rw [fires, List.contains_iff_mem]
  constructor
  · intro listed
    obtain ⟨weekday, falls⟩ := night.date.exists_fallsOn
    exact ⟨weekday, falls, Date.fallsOn_iff.mp falls ▸ listed⟩
  · rintro ⟨weekday, falls, listed⟩
    exact Date.fallsOn_iff.mp falls ▸ listed

/-- In a week a rule fires on as many nights as there are different days in its list. -/
theorem Trigger.countP_fires_dayOfWeek {days : List Nat} {day : Date} {week : List RuleContext}
    (within : ∀ day ∈ days, day ≤ 6) (consecutive : week.map (·.date) = Stay.nightsFrom day 7) :
    week.countP (dayOfWeek days).fires = days.dedup.length := by
  calc week.countP (dayOfWeek days).fires
      = (week.map (·.date)).countP fun date => days.contains date.weekday := by
        rw [List.countP_map]
        rfl
    _ = days.dedup.length := by
        rw [consecutive]
        exact Stay.countP_weekday day fun listed member =>
          Nat.lt_succ_of_le (within listed member)

/-- **Days of the week.** A rule that has been read for days of the week fires on the nights
that the calendar has on one of them. While there is a week left in the calendar, it does the
same a week later, and the seven nights up to then are days of the calendar in a row, of which it
fires on as many as there are different days in its list, each of them being met once. -/
theorem Rule.weekdays_tile {draft : Draft} {rule : Rule} (read : decode draft = .ok rule)
    (typed : rule.trigger.typeName = "DAY_OF_WEEK") :
    ∃ days, rule.trigger = .dayOfWeek days ∧
      (∀ night, rule.trigger.fires night = true ↔
        ∃ weekday : Weekday, night.date.civil.FallsOn weekday ∧ weekday.number ∈ days) ∧
      ∀ day : Date, day.InCalendar → (day.addDays 7).InCalendar →
        (∀ night later, night.date = day → later.date = day.addDays 7 →
          rule.trigger.fires later = rule.trigger.fires night) ∧
        (List.iterate Civil.next day.civil 7).map Date.ofCivil? =
          (Stay.nightsFrom day 7).map some ∧
        (∀ week : List RuleContext, week.map (·.date) = Stay.nightsFrom day 7 →
          week.countP rule.trigger.fires = days.dedup.length) ∧
        ∀ listed ∈ days, ∃ weekday : Weekday, weekday.number = listed ∧
          ∃! night, night ∈ Stay.nightsFrom day 7 ∧ night.civil.FallsOn weekday := by
  obtain ⟨days, triggered, within⟩ := daysOfWeek_of_decode read typed
  rw [triggered]
  refine ⟨days, rfl, fun night => Trigger.fires_dayOfWeek_iff, fun day inCalendar weekLater =>
    ⟨?_, Stay.map_ofCivil?_week inCalendar weekLater,
      fun week => Trigger.countP_fires_dayOfWeek within, fun listed member => ?_⟩⟩
  · rintro night later rfl shifted
    rw [Trigger.fires, Trigger.fires, shifted, Date.weekday_addDays_seven]
  · have small : listed < 7 := Nat.lt_succ_of_le (within listed member)
    obtain ⟨weekday, rfl⟩ := Weekday.exists_number_eq listed small
    simp only [Date.fallsOn_iff]
    exact ⟨weekday, rfl, Stay.existsUnique_weekday day small⟩

namespace Sample

/-- A fifth more on Saturdays and on Sundays, which are listed twice. -/
def weekendDocument : Document :=
  .record
    [("type", .text "DAY_OF_WEEK"),
      ("condition", .record [("daysOfWeek", .list [.integer 0, .integer 6, .integer 0])]),
      ("adjustment", .record [("type", .text "PERCENTAGE"), ("value", .integer 20)])]

def weekendRule : Rule where
  name := none
  trigger := .dayOfWeek [0, 6, 0]
  adjustment :=
    { kind := .percentage
      operation := .add
      value := { Decimal.hundred with mantissa := 20, mantissa_lt := by decide } }
  priority := 0

theorem read_weekendDocument : Rule.decode weekendDocument = .ok weekendRule := by
  rfl

/-- The Monday before the leap day of the year four before zero. -/
def beforeLeapDay : Date := ⟨-1770⟩

/-- A night of a week that is booked three days ahead. -/
def nightOf (date : Date) : RuleContext where
  date
  daysInAdvance := 3
  lengthOfStay := 7
  occupancyPercent := .zero

end Sample

open Sample in
/-- The week goes over a leap day into March, and its last two nights are those of the rule. -/
theorem Rule.weekdays_tile_over_leap_day :
    decode weekendDocument = .ok weekendRule ∧
      weekendRule.trigger.typeName = "DAY_OF_WEEK" ∧
      (beforeLeapDay.InCalendar ∧ (beforeLeapDay.addDays 7).InCalendar) ∧
      (List.iterate Civil.next ⟨-4, 2, 26⟩ 7).map Date.ofCivil? =
        (Stay.nightsFrom beforeLeapDay 7).map some ∧
      ((Stay.nightsFrom beforeLeapDay 7).map nightOf).countP weekendRule.trigger.fires = 2 ∧
      weekendRule.trigger.fires (nightOf (beforeLeapDay.addDays 7)) =
        weekendRule.trigger.fires (nightOf beforeLeapDay) ∧
      (∃ weekday : Weekday, Civil.FallsOn ⟨-4, 3, 3⟩ weekday ∧ weekday.number ∈ [0, 6, 0]) ∧
      ∃ weekday : Weekday, weekday.number = 0 ∧
        ∃! night, night ∈ Stay.nightsFrom beforeLeapDay 7 ∧ night.civil.FallsOn weekday := by
  have begins : beforeLeapDay.InCalendar := by decide
  have ends : (beforeLeapDay.addDays 7).InCalendar := by decide
  obtain ⟨days, listed, named, week⟩ := weekdays_tile read_weekendDocument rfl
  obtain rfl : [0, 6, 0] = days := Trigger.dayOfWeek.inj listed
  obtain ⟨again, consecutive, count, once⟩ := week beforeLeapDay begins ends
  exact ⟨read_weekendDocument, rfl, ⟨begins, ends⟩, consecutive, count _ rfl,
    again _ _ rfl rfl, (named (nightOf (beforeLeapDay.addDays 6))).mp rfl, once 0 (by decide)⟩

end Lodging
