import Lodging.Startup

/-! # The program

Starts in the environment of the process, shows what the start announces and
ends with its exit code. No database can be reached from here.
-/

namespace Lodging.Program

/-- The error a start ends with. -/
def outcomeText : Startup.Outcome → String
  | .refused fault => fault.message
  | .noDatabase => "the database cannot be reached"
  | .listening address => s!"listening on {address}"

/-- The variables that a start looks at. -/
def variableNames : List String :=
  ["DATABASE_URL", "JWT_SECRET", "HOST", "PORT", "DB_MAX_CONNECTIONS",
    "DB_ACQUIRE_TIMEOUT_SECS", "PRICING_TAX_RATE", "MAX_STAY_NIGHTS", "RUST_LOG"]

end Lodging.Program

open Lodging Program in
def main : IO UInt32 := do
  let pairs ← variableNames.filterMapM fun name => do
    pure ((← IO.getEnv name).map fun value => (name, value))
  let report := Startup.run (fun name => List.lookup name pairs) fun _ => false
  for line in report.log do
    IO.println line
  IO.eprintln s!"Error: {outcomeText report.outcome}"
  pure (UInt32.ofNat (report.outcome.exitCode?.getD 0))
