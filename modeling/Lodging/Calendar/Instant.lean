import Lodging.Calendar.Date

/-! # Instants

A moment of universal time to the nanosecond. A leap second is the 59th second
of its minute with a nanosecond count of a billion and more, so it needs no
minute of 61 seconds.
-/

namespace Lodging

/-- A moment of universal time. -/
structure Instant where
  /-- The day. -/
  day : Date
  /-- The second of the day, below 86400. -/
  second : Nat
  /-- The nanoseconds past the second; a billion and more within a leap second. -/
  nanosecond : Nat
deriving DecidableEq, Repr, Inhabited

namespace Instant

def secondsPerDay : Int := 86400

def nanosPerSecond : Int := 1000000000

def startOf (day : Date) : Instant where
  day
  second := 0
  nanosecond := 0

/-- The nanoseconds since the start of day zero. -/
def nanos (instant : Instant) : Int :=
  (instant.day.number * secondsPerDay + instant.second) * nanosPerSecond + instant.nanosecond

/-- The whole seconds since the start of day zero. -/
def seconds (instant : Instant) : Int :=
  instant.day.number * secondsPerDay + instant.second

/-- The first of January 1970, from which clocks count. -/
def clockOrigin : Date where
  number := 719163

/-- The whole seconds that a clock has counted. -/
def clockSeconds (instant : Instant) : Int :=
  instant.seconds - (startOf clockOrigin).seconds

/-- Earlier instants are less. -/
instance : LT Instant where
  lt a b := a.nanos < b.nanos

instance (a b : Instant) : Decidable (a < b) :=
  inferInstanceAs (Decidable (a.nanos < b.nanos))

/-- The instant of a time of day on a local calendar that runs `ahead` seconds
ahead of universal time. -/
def ofLocal (day : Date) (second : Nat) (nanosecond : Nat) (ahead : Int) : Instant :=
  let shifted : Int := second - ahead
  { day := day.addDays (shifted / secondsPerDay)
    second := (shifted % secondsPerDay).toNat
    nanosecond }

def addSeconds (instant : Instant) (seconds : Int) : Instant :=
  { instant with
    day := instant.day.addDays ((instant.second + seconds) / secondsPerDay)
    second := ((instant.second + seconds) % secondsPerDay).toNat }

/-- The text of an instant, with as many groups of three decimals as it needs. -/
def display (instant : Instant) : String :=
  let leap := 1000000000 ≤ instant.nanosecond
  let second := instant.second % 60 + (if leap then 1 else 0)
  let nanos := instant.nanosecond % 1000000000
  let fraction :=
    if nanos = 0 then []
    else if nanos % 1000000 = 0 then '.' :: Text.padded 3 (nanos / 1000000)
    else if nanos % 1000 = 0 then '.' :: Text.padded 6 (nanos / 1000)
    else '.' :: Text.padded 9 nanos
  instant.day.display ++
    String.ofList
      ('T' :: Text.padded 2 (instant.second / 3600) ++
        ':' :: Text.padded 2 (instant.second / 60 % 60) ++
        ':' :: Text.padded 2 second ++ fraction ++ ['Z'])

/-- The days from an instant to the start of a date: the difference in whole
seconds, what is beyond them cut off, rounded up to days. -/
def daysInAdvance (arrival : Date) (now : Instant) : Int :=
  let seconds := ((startOf arrival).nanos - now.nanos).tdiv nanosPerSecond
  (seconds + (secondsPerDay - 1)) / secondsPerDay

end Instant

end Lodging
