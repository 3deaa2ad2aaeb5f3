import Lodging.Document.Basic

/-! # Performance counters

How many quotes and availability checks there were, how long they took, and how
many of them were slow. An operation is counted when it ends, whether it
succeeded or not. A `Stopwatch` times operations that run at the same time.
-/

namespace Lodging

inductive Operation where
  | rateCalculation
  | availabilityCheck
deriving DecidableEq, Repr

structure OperationStats where
  count : Nat
  /-- The time taken altogether, in microseconds. -/
  totalMicros : Nat
  /-- How many took longer than the limit. -/
  slow : Nat
deriving DecidableEq, Repr, Inhabited

namespace OperationStats

def empty : OperationStats where
  count := 0
  totalMicros := 0
  slow := 0

/-- An operation that takes more milliseconds is slow. -/
def slowMillis : Nat := 100

def record (stats : OperationStats) (micros : Nat) : OperationStats where
  count := stats.count + 1
  totalMicros := stats.totalMicros + micros
  slow := if slowMillis < micros / 1000 then stats.slow + 1 else stats.slow

/-- The average time of an operation, in milliseconds. -/
def averageMillis (stats : OperationStats) : Binary64 :=
  if stats.count = 0 then .zero
  else
    ((Binary64.ofNat stats.totalMicros).div (.ofNat stats.count)).div (.ofNat 1000)

def toDocument (stats : OperationStats) : Document :=
  .record
    [("count", .nat stats.count),
      ("avgTimeMs", .real stats.averageMillis),
      ("slow", .nat stats.slow)]

end OperationStats

structure Metrics where
  rateCalculations : OperationStats
  availabilityChecks : OperationStats
deriving DecidableEq, Repr, Inhabited

namespace Metrics

def empty : Metrics where
  rateCalculations := .empty
  availabilityChecks := .empty

def record (metrics : Metrics) (operation : Operation) (micros : Nat) : Metrics :=
  match operation with
  | .rateCalculation =>
      { metrics with rateCalculations := metrics.rateCalculations.record micros }
  | .availabilityCheck =>
      { metrics with availabilityChecks := metrics.availabilityChecks.record micros }

def toDocument (metrics : Metrics) : Document :=
  .record
    [("rateCalculations", metrics.rateCalculations.toDocument),
      ("availabilityChecks", metrics.availabilityChecks.toDocument)]

end Metrics

/-- A running operation and when it started. -/
structure Timer where
  operation : Operation
  startedAt : Nat
deriving DecidableEq, Repr

/-- Timers over one set of counters. A timer that was stopped leaves its place
empty. -/
structure Stopwatch where
  /-- The microseconds that have passed. -/
  now : Nat
  timers : List (Option Timer)
  metrics : Metrics
deriving Repr

namespace Stopwatch

/-- No timer was started yet. -/
def fresh : Stopwatch where
  now := 0
  timers := []
  metrics := .empty

/-- Starts a timer; timers are numbered in order. -/
def start (watch : Stopwatch) (operation : Operation) : Stopwatch :=
  { watch with timers := watch.timers ++ [some { operation, startedAt := watch.now }] }

/-- Ends a timer and counts its operation; a timer ends only once. -/
def stop (watch : Stopwatch) (number : Nat) : Stopwatch :=
  match watch.timers[number]? with
  | some (some timer) =>
      { watch with
        timers := watch.timers.set number none
        metrics := watch.metrics.record timer.operation (watch.now - timer.startedAt) }
  | _ => watch

/-- Lets time pass. -/
def pass (watch : Stopwatch) (micros : Nat) : Stopwatch :=
  { watch with now := watch.now + micros }

end Stopwatch

end Lodging
