import Lodging.Calendar.Instant

/-! # Days in advance

The days from an instant to the start of a date, rounded up, would be the days from one date
to the other. But the time that is left is cut off to whole seconds before it is rounded, so
less than a second is nothing (`Lodging.Instant.wholeSeconds`). This makes a difference in the
last second of a day before arrival, which counts as if it were the day after
(`Lodging.Instant.daysInAdvance_calendar`); on the day of arrival and later nothing is left to
be cut off from.
-/

namespace Lodging.Instant

/-- The instant is in a second of its day, and the second is not a leap second. -/
structure IsRegular (now : Instant) : Prop where
  second : now.second < 86400
  nanosecond : now.nanosecond < 1000000000

/-- Less than a second of the day is left. -/
def EndsDay (now : Instant) : Prop :=
  now.second = 86399 ∧ 0 < now.nanosecond

instance (now : Instant) : Decidable now.EndsDay :=
  inferInstanceAs (Decidable (_ ∧ _))

variable {now : Instant}

/-- A part of a second goes towards zero: off what is left, but not off what has passed. -/
theorem wholeSeconds {whole part : Int} (least : 0 ≤ part) (most : part < nanosPerSecond) :
    (whole * nanosPerSecond - part).tdiv nanosPerSecond =
      if 0 < whole ∧ 0 < part then whole - 1 else whole := by
  rw [nanosPerSecond] at most ⊢
  rcases Int.lt_or_le 0 whole with ahead | passed
  · rw [Int.tdiv_eq_ediv_of_nonneg (by omega)]
    split <;> omega
  · have opposite : whole * 1000000000 - part = -(-whole * 1000000000 + part) := by omega
    rw [opposite, Int.neg_tdiv, Int.tdiv_eq_ediv_of_nonneg (by omega), if_neg (by omega)]
    omega

/-- The nanoseconds from an instant to the start of a date. -/
theorem nanos_startOf_sub (arrival : Date) (now : Instant) :
    (startOf arrival).nanos - now.nanos =
      (now.day.daysUntil arrival * secondsPerDay - now.second) * nanosPerSecond -
        now.nanosecond := by
  simp only [nanos, startOf, Date.daysUntil, secondsPerDay, nanosPerSecond]
  omega

/-- Days in advance are those of the calendar, less one in the last second before midnight of a
day before arrival. -/
theorem daysInAdvance_eq (regular : now.IsRegular) (arrival : Date) :
    daysInAdvance arrival now = now.day.daysUntil arrival -
      if now.day < arrival ∧ now.EndsDay then 1 else 0 := by
  obtain ⟨second, nanosecond⟩ := regular
  have before : now.day < arrival ↔ 0 < now.day.daysUntil arrival := by
    change now.day.number < arrival.number ↔ 0 < arrival.number - now.day.number
    omega
  have most : (now.nanosecond : Int) < nanosPerSecond := by
    rw [nanosPerSecond]
    omega
  rw [daysInAdvance, nanos_startOf_sub, wholeSeconds (Int.natCast_nonneg _) most]
  simp only [before, EndsDay, secondsPerDay]
  generalize now.day.daysUntil arrival = days
  have part : (0 < days * 86400 - (now.second : Int) ∧ 0 < (now.nanosecond : Int)) ↔
      0 < days ∧ 0 < now.nanosecond := by
    omega
  simp only [part]
  by_cases ends : 0 < days ∧ now.second = 86399 ∧ 0 < now.nanosecond
  · rw [if_pos ends, if_pos ⟨ends.1, ends.2.2⟩]
    omega
  · rw [if_neg ends]
    -- Rounding up makes good what is cut off if a whole second is left besides.
    by_cases cut : 0 < days ∧ 0 < now.nanosecond
    · rw [if_pos cut]
      omega
    · rw [if_neg cut]
      omega

/-- **Days in advance.** They are the days of the calendar exactly if arrival is not after the
day of the booking or more than a part of a second of that day is left; otherwise they are one
less. So they do not change within a day but in its last second. -/
theorem daysInAdvance_calendar (regular : now.IsRegular) (arrival : Date) :
    (daysInAdvance arrival now = now.day.daysUntil arrival ↔
      ¬ (now.day < arrival ∧ now.EndsDay)) ∧
    (now.day < arrival ∧ now.EndsDay →
      daysInAdvance arrival now = now.day.daysUntil arrival - 1) ∧
    (∀ later : Instant, later.IsRegular → later.day = now.day →
      (later.EndsDay ↔ now.EndsDay) → daysInAdvance arrival later = daysInAdvance arrival now) := by
  rw [daysInAdvance_eq regular]
  refine ⟨?_, fun ends => by rw [if_pos ends], fun later alike same both => ?_⟩
  · split
    next ends => exact iff_of_false (by omega) (not_not_intro ends)
    next whole => exact iff_of_true (Int.sub_zero _) whole
  · rw [daysInAdvance_eq alike, same]
    simp only [both]

/-- Half a second before midnight the day before arrival is over. -/
theorem daysInAdvance_before_midnight :
    (⟨⟨10⟩, 86399, 500000000⟩ : Instant).IsRegular ∧
      Date.daysUntil ⟨10⟩ ⟨11⟩ = 1 ∧ daysInAdvance ⟨11⟩ ⟨⟨10⟩, 86399, 500000000⟩ = 0 :=
  ⟨⟨by decide, by decide⟩, rfl, by decide⟩

/-- The day before arrival counts as one up to its last second, and the last second of the day
of arrival does not count less than the others. -/
theorem daysInAdvance_calendar_near_midnight :
    daysInAdvance ⟨11⟩ ⟨⟨10⟩, 43200, 500000000⟩ = 1 ∧
      daysInAdvance ⟨11⟩ ⟨⟨10⟩, 86399, 0⟩ = daysInAdvance ⟨11⟩ ⟨⟨10⟩, 43200, 500000000⟩ ∧
      daysInAdvance ⟨11⟩ ⟨⟨10⟩, 86399, 1⟩ = Date.daysUntil ⟨10⟩ ⟨11⟩ - 1 ∧
      daysInAdvance ⟨11⟩ ⟨⟨11⟩, 86399, 1⟩ = 0 := by
  have noon : (⟨⟨10⟩, 43200, 500000000⟩ : Instant).IsRegular := ⟨by decide, by decide⟩
  have last : (⟨⟨10⟩, 86399, 0⟩ : Instant).IsRegular := ⟨by decide, by decide⟩
  have ending : (⟨⟨10⟩, 86399, 1⟩ : Instant).IsRegular := ⟨by decide, by decide⟩
  have arrived : (⟨⟨11⟩, 86399, 1⟩ : Instant).IsRegular := ⟨by decide, by decide⟩
  obtain ⟨calendar, _, within⟩ := daysInAdvance_calendar noon ⟨11⟩
  exact ⟨calendar.mpr (by decide), within _ last rfl (by decide),
    (daysInAdvance_calendar ending ⟨11⟩).2.1 (by decide),
    (daysInAdvance_calendar arrived ⟨11⟩).1.mpr (by decide)⟩

end Lodging.Instant
