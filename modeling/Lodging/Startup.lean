import Lodging.LogFilter
import Lodging.Settings

/-! # Starting the program

The program announces itself, reads its settings, connects to its database and
then listens. It ends with an error at the first of these that fails. Which of
its announcements are shown is up to a filter in the environment.
-/

namespace Lodging

namespace Startup

inductive Outcome where
  | refused (fault : Settings.Fault)
  | noDatabase
  | listening (address : String)
deriving DecidableEq, Repr

structure Report where
  outcome : Outcome
  log : List String
deriving DecidableEq, Repr

/-- The name of the part of the program that announces. -/
def logTarget : String := "hotel_rates"

/-- The announcements and the end of a start. -/
def announced (environment : Environment) (connects : Settings → Bool) :
    Outcome × List String :=
  let starting := "Hotel Rates API - Starting..."
  let connecting := "Connecting to database..."
  match Settings.read environment with
  | .error fault => (.refused fault, [starting])
  | .ok settings =>
      if connects settings then
        let address := settings.bindAddress
        (.listening address,
          [starting, connecting, s!"Hotel Rates API is running on http://{address}"])
      else (.noDatabase, [starting, connecting])

/-- A start in an environment, as the filter in it lets it be seen. -/
def run (environment : Environment) (connects : Settings → Bool) : Report :=
  let filter := ((environment "RUST_LOG").map LogFilter.read).getD LogFilter.default
  let (outcome, log) := announced environment connects
  { outcome
    log := if filter.showsInfo logTarget then log else [] }

/-- The exit code of a start that ends; one that leads to listening goes on. -/
def Outcome.exitCode? : Outcome → Option Nat
  | .listening _ => none
  | _ => some 1

end Startup

end Lodging
