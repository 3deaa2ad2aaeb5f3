import Lodging.Calendar.Date

/-! # Stays

A stay covers the nights from its check-in day up to the day before check-out.
Two stays collide when they share a night; the check-out day of one may be the
check-in day of the other.
-/

namespace Lodging

/-- A check-in day and a check-out day. -/
structure Stay where
  checkIn : Date
  checkOut : Date
deriving DecidableEq, Repr

namespace Stay

inductive Refusal where
  /-- Check-out does not follow check-in. -/
  | noNight
  /-- There are more nights than allowed. -/
  | tooLong (limit : Nat)
deriving DecidableEq, Repr

def Refusal.message : Refusal → String
  | .noNight => "checkOut must be at least one day after checkIn"
  | .tooLong limit => s!"Stays are limited to {limit} nights"

/-- The days from check-in to check-out, negative when they are reversed. -/
def span (stay : Stay) : Int :=
  stay.checkIn.daysUntil stay.checkOut

/-- The nights of a stay that has at least one and no more than allowed. -/
def nights (stay : Stay) (limit : Nat) : Except Refusal Nat :=
  if stay.span ≤ 0 then .error .noNight
  else if (limit : Int) < stay.span then .error (.tooLong limit)
  else .ok stay.span.toNat

/-- The first `count` nights from a day on. -/
def nightsFrom (first : Date) (count : Nat) : List Date :=
  (List.range count).map fun offset : Nat => first.addDays offset

def lastNight (stay : Stay) : Date :=
  stay.checkOut.addDays (-1)

/-- The stays share a night. -/
def overlaps (one other : Stay) : Bool :=
  decide (one.checkIn < other.checkOut) && decide (other.checkIn < one.checkOut)

end Stay

end Lodging
