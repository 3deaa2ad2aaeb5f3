import Lodging.Calendar.DateText
import Lodging.Proofs.Calendar.Civil
import Lodging.Proofs.Text.Scanner

/-! # Dates are read as they are written

The text of a date is read as the date, whatever its year is and whatever blanks are around it.
A timestamp (`Lodging.Timestamp`) is no such text, since something follows its day; it is read
as the day of universal time that it falls on, which may be the day before the one that is
written or the day after (`Lodging.Date.read_written`). Its seconds have no part in it:
offsets are whole minutes, and a leap second belongs to the minute that it ends.
-/

namespace Lodging

open Text Text.Scanner

/-! ## Dates -/

namespace Date

variable {civil : Civil} {date : Date} {rest : List Char}

/-- The characters of a year. One that has not four digits, or is negative, carries a sign. -/
def yearChars (year : Int) : List Char :=
  (if year < 0 then ['-'] else if 9999 < year then ['+'] else []) ++ padded 4 year.natAbs

/-- The characters of a month and a day behind a year. -/
def Civil.dayChars (civil : Civil) : List Char :=
  '-' :: (padded 2 civil.month ++ '-' :: padded 2 civil.day)

/-- The characters of a year, month and day. -/
def Civil.written (civil : Civil) : List Char :=
  yearChars civil.year ++ civil.dayChars

theorem toList_display (date : Date) : date.display.toList = date.civil.written := by
  rw [display, String.toList_ofList]
  simp only [Civil.written, yearChars, Civil.dayChars, List.append_assoc, List.cons_append]

/-- A year without a sign is a number of up to four digits. -/
theorem scanYear_unsigned {chars : List Char}
    (unsigned : ∀ c ∈ chars.head?, isDigit c = true) :
    scanYear chars =
      (shortNumber 4 chars).bind fun found => some ((found.1 : Int), found.2) := by
  unfold scanYear
  split
  · exact absurd (unsigned '-' rfl) (by decide)
  · exact absurd (unsigned '+' rfl) (by decide)
  · rfl

/-- A year is taken with its sign, and up to the dash behind it. -/
theorem scanYear_yearChars (year : Int) :
    scanYear (yearChars year ++ '-' :: rest) = some (year, '-' :: rest) := by
  have areDigits := padded_areDigits 4 year.natAbs
  have nonempty : padded 4 year.natAbs ≠ [] := padded_ne_nil (by decide)
  have signed : allDigits (padded 4 year.natAbs ++ '-' :: rest) =
      some (padded 4 year.natAbs, '-' :: rest) :=
    allDigits_append nonempty areDigits rfl
  rw [yearChars]
  split
  next negative =>
    change (allDigits (padded 4 year.natAbs ++ '-' :: rest)).bind _ = _
    rw [signed]
    simp only [Option.bind_some, valueOf_padded]
    rw [Int.ofNat_natAbs_of_nonpos (Int.le_of_lt negative), Int.neg_neg]
  next positive =>
    have magnitude : (year.natAbs : Int) = year := Int.natAbs_of_nonneg (Int.not_lt.mp positive)
    split
    next large =>
      change (allDigits (padded 4 year.natAbs ++ '-' :: rest)).bind _ = _
      rw [signed]
      simp only [Option.bind_some, valueOf_padded, magnitude]
    next small =>
      have fits : year.natAbs < 10 ^ 4 := by omega
      have unsigned : ∀ c ∈ (padded 4 year.natAbs ++ '-' :: rest).head?, isDigit c = true := by
        intro c begins
        rw [List.head?_append_of_ne_nil _ nonempty] at begins
        exact areDigits c (List.mem_of_mem_head? begins)
      rw [List.nil_append, scanYear_unsigned unsigned, shortNumber_padded (by decide) fits]
      simp only [Option.bind_some, magnitude]

theorem isBlank_head?_yearChars (year : Int) :
    ∀ c ∈ (yearChars year ++ rest).head?, isBlank c = false := by
  have digit : ∀ c ∈ (padded 4 year.natAbs ++ rest).head?, isBlank c = false :=
    isBlank_head?_padded (by decide)
  rw [yearChars, List.append_assoc]
  split
  · rintro c ⟨⟩
    rfl
  · split
    · rintro c ⟨⟩
      rfl
    · exact digit

/-- A year, month and day are taken as the date that they are, whatever follows. -/
theorem scanCivil_written (read : ofCivil? civil = some date) :
    scanCivil (civil.written ++ rest) = some (date, rest) := by
  obtain ⟨month, day⟩ := monthAndDay_of_ofCivil? read
  have fitsMonth : civil.month < 10 ^ 2 := by omega
  have fitsDay : civil.day < 10 ^ 2 := by omega
  have two : 0 < 2 := by decide
  rw [Civil.written, Civil.dayChars, List.append_assoc, List.cons_append, List.append_assoc,
    List.cons_append, scanCivil, bind_of_some (skipBlanks_of_head? (isBlank_head?_yearChars _)),
    bind_of_some (scanYear_yearChars _), bind_of_some (expect_cons _ _),
    bind_of_some (skipBlanks_padded two), bind_of_some (shortNumber_padded two fitsMonth),
    bind_of_some (expect_cons _ _), bind_of_some (skipBlanks_padded two),
    bind_of_some (shortNumber_padded two fitsDay), read]
  rfl

theorem Civil.written_ne_nil (civil : Civil) : civil.written ≠ [] := by
  rw [written, dayChars]
  exact List.append_ne_nil_of_right_ne_nil _ (List.cons_ne_nil _ _)

theorem isBlank_getLast?_written (civil : Civil) :
    ∀ c ∈ civil.written.getLast?, isBlank c = false := by
  have ending : civil.written =
      (yearChars civil.year ++ '-' :: padded 2 civil.month ++ ['-']) ++ padded 2 civil.day := by
    simp only [Civil.written, Civil.dayChars, List.append_assoc, List.cons_append, List.nil_append]
  rw [ending]
  exact isBlank_getLast?_padded (by decide)

/-- **Dates.** A date of the calendar is read from its text, among whatever blanks. -/
theorem read_display {before after : String} (inCalendar : date.InCalendar)
    (blankBefore : isBlankText before = true) (blankAfter : isBlankText after = true) :
    read (before ++ date.display ++ after) = .ok date := by
  have scanned : scanCivil (date.civil.written ++ []) = some (date, []) :=
    scanCivil_written (ofCivil?_civil inCalendar)
  have trimmed : trimChars (before ++ date.display ++ after).toList = date.civil.written := by
    rw [String.toList_append, String.toList_append, toList_display]
    exact trimChars_append date.civil.written_ne_nil (List.all_eq_true.mp blankBefore)
      (List.all_eq_true.mp blankAfter) (isBlank_head?_yearChars _) (isBlank_getLast?_written _)
  rw [List.append_nil] at scanned
  rw [read, trimmed, Scanner.read?, scanned]

end Date

/-! ## Timestamps -/

/-- Hours and minutes, of a day or of an offset. -/
structure Clock where
  hour : Nat
  minute : Nat
  hour_le : hour ≤ 23
  minute_le : minute ≤ 59

namespace Clock

def minutes (clock : Clock) : Nat :=
  60 * clock.hour + clock.minute

def written (clock : Clock) : List Char :=
  padded 2 clock.hour ++ ':' :: padded 2 clock.minute

theorem minutes_lt (clock : Clock) : clock.minutes < 1440 := by
  have hour := clock.hour_le
  have minute := clock.minute_le
  rw [minutes]
  omega

end Clock

/-- An offset from universal time as it is written. -/
inductive Offset where
  /-- A letter stands for universal time. -/
  | universal (letter : Char) (isLetter : letter = 'Z' ∨ letter = 'z')
  | ahead (clock : Clock)
  | behind (minus : Char) (isMinus : minus = '-' ∨ minus = '\u2212') (clock : Clock)

namespace Offset

def minutes : Offset → Int
  | universal _ _ => 0
  | ahead clock => clock.minutes
  | behind _ _ clock => -clock.minutes

def written : Offset → List Char
  | universal letter _ => [letter]
  | ahead clock => '+' :: clock.written
  | behind minus _ clock => minus :: clock.written

theorem written_ne_nil (offset : Offset) : offset.written ≠ [] := by
  cases offset <;> exact List.cons_ne_nil _ _

theorem isBlank_getLast?_written (offset : Offset) :
    ∀ c ∈ offset.written.getLast?, isBlank c = false := by
  have signed (sign : Char) (clock : Clock) :
      ∀ c ∈ (sign :: clock.written).getLast?, isBlank c = false := by
    have ending : sign :: clock.written =
        sign :: (padded 2 clock.hour ++ [':']) ++ padded 2 clock.minute := by
      simp only [Clock.written, List.cons_append, List.append_assoc, List.nil_append]
    rw [ending]
    exact isBlank_getLast?_padded (by decide)
  cases offset with
  | universal letter isLetter =>
      rintro c ⟨⟩
      rcases isLetter with rfl | rfl <;> rfl
  | ahead clock => exact signed '+' clock
  | behind minus isMinus clock => exact signed minus clock

theorem minutes_lt (offset : Offset) : offset.minutes.natAbs < 1440 := by
  cases offset with
  | universal => exact (by decide : 0 < 1440)
  | ahead clock => exact clock.minutes_lt
  | behind minus isMinus clock => exact Int.natAbs_neg clock.minutes ▸ clock.minutes_lt

end Offset

/-- A local date and time with its offset from universal time, as they are written. -/
structure Timestamp where
  civil : Date.Civil
  /-- The day of the local calendar. -/
  day : Date
  isDay : Date.ofCivil? civil = some day
  year_nonneg : 0 ≤ civil.year
  year_le : civil.year ≤ 9999
  separator : Char
  separates : separator = 'T' ∨ separator = 't' ∨ separator = ' '
  clock : Clock
  second : Nat
  /-- The second 60 is a leap second. -/
  second_le : second ≤ 60
  /-- The digits behind the point, which is left out if there are none. -/
  fraction : List Char
  areDigits : ∀ c ∈ fraction, isDigit c = true
  offset : Offset

namespace Timestamp

variable {stamp : Timestamp} {day : Date}

def fractionWritten (stamp : Timestamp) : List Char :=
  if stamp.fraction = [] then [] else '.' :: stamp.fraction

/-- The characters of the time behind the separator. -/
def timeWritten (stamp : Timestamp) : List Char :=
  stamp.clock.written ++ ':' ::
    (padded 2 stamp.second ++ (stamp.fractionWritten ++ stamp.offset.written))

def written (stamp : Timestamp) : List Char :=
  stamp.civil.written ++ stamp.separator :: stamp.timeWritten

def text (stamp : Timestamp) : String :=
  String.ofList stamp.written

/-- The seconds of universal time from the start of day zero. A leap second counts as the
second before it, so that it is in the minute that it ends. -/
def universalSecond (stamp : Timestamp) : Int :=
  86400 * stamp.day.number + 60 * stamp.clock.minutes + min stamp.second 59 -
    60 * stamp.offset.minutes

/-- The timestamp is on a day of universal time. -/
def FallsOn (stamp : Timestamp) (day : Date) : Prop :=
  86400 * day.number ≤ stamp.universalSecond ∧ stamp.universalSecond < 86400 * (day.number + 1)

instance (stamp : Timestamp) (day : Date) : Decidable (stamp.FallsOn day) :=
  inferInstanceAs (Decidable (_ ∧ _))

end Timestamp

/-! ## Scanning a timestamp -/

namespace Instant

variable {rest : List Char} {stamp : Timestamp}

/-- Hours and minutes behind a sign are taken with the sign. -/
theorem scanOffset_signed {sign : Char} (isSign : sign = '+' ∨ sign = '-' ∨ sign = '\u2212')
    (clock : Clock) :
    scanOffset (sign :: clock.written) =
      some (if isMinus sign then -(60 * clock.minutes : Int) else 60 * clock.minutes, []) := by
  have two : 0 < 2 := by decide
  have fitsHour : clock.hour < 10 ^ 2 := Nat.lt_of_le_of_lt clock.hour_le (by decide)
  have fitsMinute : clock.minute < 10 ^ 2 := Nat.lt_of_le_of_lt clock.minute_le (by decide)
  have accepted : (sign == 'Z' || sign == 'z' || sign == '+' || isMinus sign) = true := by
    rcases isSign with rfl | rfl | rfl <;> rfl
  have unlettered : ¬ (sign == 'Z' || sign == 'z') = true := by
    rcases isSign with rfl | rfl | rfl <;> decide
  have seconds : (3600 * clock.hour + 60 * clock.minute : Int) = 60 * clock.minutes := by
    rw [Clock.minutes]
    omega
  have minutes : boundedNumber 2 59 (padded 2 clock.minute ++ []) = some (clock.minute, []) :=
    boundedNumber_padded two fitsMinute clock.minute_le
  rw [List.append_nil] at minutes
  rw [Clock.written, scanOffset, bind_of_some (accept_cons accepted), if_neg unlettered,
    bind_of_some (boundedNumber_padded two fitsHour clock.hour_le), bind_of_some (expect_cons _ _),
    bind_of_some minutes, seconds]
  rfl

theorem scanOffset_written (offset : Offset) :
    scanOffset offset.written = some (60 * offset.minutes, []) := by
  cases offset with
  | universal letter isLetter => rcases isLetter with rfl | rfl <;> rfl
  | ahead clock => exact scanOffset_signed (.inl rfl) clock
  | behind minus isMinus clock =>
      rw [Offset.written, scanOffset_signed (.inr isMinus) clock, Offset.minutes, Int.mul_neg]
      rcases isMinus with rfl | rfl <;> rfl

/-- What follows the seconds and their fraction is neither a digit nor a point. -/
theorem offset_written_cons (offset : Offset) :
    ∃ sign rest, offset.written = sign :: rest ∧ isDigit sign = false ∧ sign ≠ '.' := by
  cases offset with
  | universal letter isLetter =>
      refine ⟨letter, [], rfl, ?_⟩
      rcases isLetter with rfl | rfl <;> decide
  | ahead clock => exact ⟨'+', clock.written, rfl, by decide⟩
  | behind minus isMinus clock =>
      refine ⟨minus, clock.written, rfl, ?_⟩
      rcases isMinus with rfl | rfl <;> decide

/-- A point announces the digits of a fraction. -/
theorem scanFraction_written (stamp : Timestamp) :
    ∃ nanos, scanFraction (stamp.fractionWritten ++ stamp.offset.written) =
      some (nanos, stamp.offset.written) := by
  obtain ⟨sign, rest, written, ends, unpointed⟩ := offset_written_cons stamp.offset
  rw [Timestamp.fractionWritten, written]
  split
  next none =>
    refine ⟨0, ?_⟩
    have untouched : optional '.' (sign :: rest) = some (false, sign :: rest) := by
      exact if_neg (by rwa [beq_iff_eq])
    rw [List.nil_append, scanFraction, bind_of_some untouched]
    rfl
  next digits =>
    refine ⟨nanosOfFraction stamp.fraction, ?_⟩
    have pointed : optional '.' ('.' :: (stamp.fraction ++ sign :: rest)) =
        some (true, stamp.fraction ++ sign :: rest) := rfl
    rw [List.cons_append, scanFraction, bind_of_some pointed, if_pos rfl,
      bind_of_some (allDigits_append digits stamp.areDigits ends)]
    rfl

/-- The second of a local day is on the day of universal time that it is taken for. -/
theorem fallsOn_ofLocal {stamp : Timestamp} {second : Nat} (nanos : Nat)
    (same : second = 60 * stamp.clock.minutes + min stamp.second 59) :
    stamp.FallsOn (ofLocal stamp.day second nanos (60 * stamp.offset.minutes)).day := by
  simp only [Timestamp.FallsOn, Timestamp.universalSecond, ofLocal, Date.addDays, secondsPerDay]
  omega

theorem scan_written (stamp : Timestamp) :
    ∃ instant, scan stamp.written = some (instant, []) ∧ stamp.FallsOn instant.day := by
  have two : 0 < 2 := by decide
  obtain ⟨month, day⟩ := Date.monthAndDay_of_ofCivil? stamp.isDay
  have nonneg := stamp.year_nonneg
  have small := stamp.year_le
  have fitsYear : stamp.civil.year.natAbs < 10 ^ 4 := by omega
  have fitsMonth : stamp.civil.month < 10 ^ 2 := by omega
  have fitsDay : stamp.civil.day < 10 ^ 2 := by omega
  have fitsSecond : stamp.second < 10 ^ 2 := Nat.lt_of_le_of_lt stamp.second_le (by decide)
  have fitsHour : stamp.clock.hour < 10 ^ 2 := Nat.lt_of_le_of_lt stamp.clock.hour_le (by decide)
  have fitsMinute : stamp.clock.minute < 10 ^ 2 :=
    Nat.lt_of_le_of_lt stamp.clock.minute_le (by decide)
  have bare : Date.yearChars stamp.civil.year = padded 4 stamp.civil.year.natAbs := by
    rw [Date.yearChars, if_neg (Int.not_lt.mpr nonneg), if_neg (Int.not_lt.mpr small)]
    rfl
  have separates : (stamp.separator == 'T' || stamp.separator == 't' ||
      stamp.separator == ' ') = true := by
    simpa only [Bool.or_eq_true, beq_iff_eq, or_assoc] using stamp.separates
  obtain ⟨nanos, fraction⟩ := scanFraction_written stamp
  have same : Date.Civil.mk stamp.civil.year.natAbs stamp.civil.month stamp.civil.day =
      stamp.civil := by
    rw [Int.natAbs_of_nonneg nonneg]
  rw [Timestamp.written, Date.Civil.written, Date.Civil.dayChars, bare, Timestamp.timeWritten,
    Clock.written]
  simp only [List.append_assoc, List.cons_append]
  rw [scan, bind_of_some (fixedNumber_padded (by decide) fitsYear),
    bind_of_some (expect_cons _ _), bind_of_some (fixedNumber_padded two fitsMonth),
    bind_of_some (expect_cons _ _), bind_of_some (fixedNumber_padded two fitsDay),
    bind_of_some (accept_cons separates),
    bind_of_some (boundedNumber_padded two fitsHour stamp.clock.hour_le),
    bind_of_some (expect_cons _ _),
    bind_of_some (boundedNumber_padded two fitsMinute stamp.clock.minute_le),
    bind_of_some (expect_cons _ _),
    bind_of_some (boundedNumber_padded two fitsSecond stamp.second_le),
    bind_of_some fraction, bind_of_some (scanOffset_written stamp.offset), same, stamp.isDay]
  refine ⟨_, rfl, ?_⟩
  have most := stamp.second_le
  split
  next leap => exact fallsOn_ofLocal _ (by rw [Clock.minutes]; omega)
  next regular => exact fallsOn_ofLocal _ (by rw [Clock.minutes]; omega)

end Instant

/-! ## Reading -/

namespace Timestamp

variable {stamp : Timestamp} {day : Date}

/-- A timestamp is on one day and no other. -/
theorem FallsOn.eq {other : Date} (falls : stamp.FallsOn day) (also : stamp.FallsOn other) :
    day = other := by
  obtain ⟨after, before⟩ := falls
  obtain ⟨alsoAfter, alsoBefore⟩ := also
  exact congrArg Date.mk (by omega)

/-- An offset leads by one day at most out of the years of timestamps, which are far from the
ends of the calendar. -/
theorem FallsOn.inCalendar (falls : stamp.FallsOn day) : day.InCalendar := by
  obtain ⟨-, after, before⟩ := Date.of_ofCivil? stamp.isDay
  have lower := Date.daysBeforeYear_mono stamp.year_nonneg
  have upper := Date.daysBeforeYear_mono (Int.add_le_add_right stamp.year_le 1)
  have firstDay : Date.daysBeforeYear 0 = -366 := rfl
  have lastDay : Date.daysBeforeYear (9999 + 1) = 3652059 := rfl
  have wide : Date.first ≤ ⟨-1000⟩ ∧ (⟨4000000⟩ : Date) ≤ Date.last := by decide
  obtain ⟨notBefore, notAfter⟩ := falls
  have time := stamp.clock.minutes_lt
  have offset := stamp.offset.minutes_lt
  rw [universalSecond] at notBefore notAfter
  constructor
  · refine Int.le_trans wide.1 ?_
    change -1000 ≤ day.number
    omega
  · refine Int.le_trans ?_ wide.2
    change day.number ≤ 4000000
    omega

theorem written_ne_nil (stamp : Timestamp) : stamp.written ≠ [] :=
  List.append_ne_nil_of_left_ne_nil stamp.civil.written_ne_nil _

theorem isBlank_head?_written (stamp : Timestamp) :
    ∀ c ∈ stamp.written.head?, isBlank c = false := by
  rw [written, Date.Civil.written, List.append_assoc]
  exact Date.isBlank_head?_yearChars _

theorem isBlank_getLast?_written (stamp : Timestamp) :
    ∀ c ∈ stamp.written.getLast?, isBlank c = false := by
  have ending : stamp.written = stamp.civil.written ++ stamp.separator ::
      (stamp.clock.written ++ ':' :: (padded 2 stamp.second ++ stamp.fractionWritten)) ++
        stamp.offset.written := by
    simp only [written, timeWritten, List.append_assoc, List.cons_append]
  rw [ending, List.getLast?_append_of_ne_nil _ stamp.offset.written_ne_nil]
  exact stamp.offset.isBlank_getLast?_written

/-- What begins with a day and goes on is not the text of a date. -/
theorem scanCivil_written (stamp : Timestamp) : Date.scanCivil.read? stamp.written = none := by
  rw [Scanner.read?, written, Date.scanCivil_written stamp.isDay]

end Timestamp

namespace Date

/-- **Timestamps.** A timestamp is read as the day of universal time that it falls on, among
whatever blanks. -/
theorem read_text {before after : String} (stamp : Timestamp)
    (blankBefore : isBlankText before = true) (blankAfter : isBlankText after = true) :
    ∃ day, stamp.FallsOn day ∧ read (before ++ stamp.text ++ after) = .ok day := by
  obtain ⟨instant, scanned, falls⟩ := Instant.scan_written stamp
  have trimmed : trimChars (before ++ stamp.text ++ after).toList = stamp.written := by
    rw [String.toList_append, String.toList_append, Timestamp.text, String.toList_ofList]
    exact trimChars_append stamp.written_ne_nil (List.all_eq_true.mp blankBefore)
      (List.all_eq_true.mp blankAfter) stamp.isBlank_head?_written stamp.isBlank_getLast?_written
  refine ⟨instant.day, falls, ?_⟩
  rw [read, trimmed, stamp.scanCivil_written, Scanner.read?, scanned]

/-- **Dates as text.** A date of the calendar is read from its text, and a timestamp is read as
the one day of universal time that it falls on, among whatever blanks; the text of that day is
read as the day again. -/
theorem read_written (before after : String) (blankBefore : isBlankText before = true)
    (blankAfter : isBlankText after = true) :
    (∀ date : Date, date.InCalendar → read (before ++ date.display ++ after) = .ok date) ∧
    ∀ stamp : Timestamp, (∃ day, stamp.FallsOn day) ∧
      ∀ day, stamp.FallsOn day →
        read (before ++ stamp.text ++ after) = .ok day ∧ read day.display = .ok day := by
  refine ⟨fun date inCalendar => read_display inCalendar blankBefore blankAfter,
    fun stamp => ?_⟩
  obtain ⟨day, falls, given⟩ := read_text stamp blankBefore blankAfter
  refine ⟨⟨day, falls⟩, fun other same => ?_⟩
  obtain rfl := falls.eq same
  have again : read ("" ++ day.display ++ "") = .ok day :=
    read_display falls.inCalendar rfl rfl
  rw [String.empty_append, String.append_empty] at again
  exact ⟨given, again⟩

end Date

/-- The last half hour of a leap day, two hours behind universal time. -/
def Sample.leapDayEnding : Timestamp where
  civil := ⟨2024, 2, 29⟩
  day := ⟨738945⟩
  isDay := by decide
  year_nonneg := by decide
  year_le := by decide
  separator := 'T'
  separates := .inl rfl
  clock := ⟨23, 30, by decide, by decide⟩
  second := 60
  second_le := by decide
  fraction := ['5']
  areDigits := List.forall_mem_singleton.mpr rfl
  offset := .behind '-' (.inl rfl) ⟨2, 0, by decide, by decide⟩

open Sample in
/-- The first day of the calendar is read from its text, and the end of a leap day is on the
first of March by universal time. -/
theorem Date.read_written_over_midnight :
    isBlankText "\u3000" = true ∧ isBlankText "\n" = true ∧
      (first.InCalendar ∧ first.display = "-262143-01-01" ∧
        read ("\u3000" ++ first.display ++ "\n") = .ok first) ∧
      leapDayEnding.FallsOn ⟨738946⟩ ∧ leapDayEnding.text = "2024-02-29T23:30:60.5-02:00" ∧
        read ("\u3000" ++ leapDayEnding.text ++ "\n") = .ok ⟨738946⟩ ∧
        display ⟨738946⟩ = "2024-03-01" ∧ read (display ⟨738946⟩) = .ok ⟨738946⟩ := by
  have begins : first.InCalendar := by decide
  have falls : leapDayEnding.FallsOn ⟨738946⟩ := by decide
  obtain ⟨dates, stamps⟩ := read_written "\u3000" "\n" rfl rfl
  obtain ⟨given, again⟩ := (stamps leapDayEnding).2 _ falls
  exact ⟨rfl, rfl, ⟨begins, by cbv, dates first begins⟩, falls, by cbv, given, by cbv, again⟩

end Lodging
