import Lodging.Service.RatePlans

/-! # Overrides of a plan

Overrides belong to a live plan of the hotel. Several writes are checked
altogether before the first is made.
-/

namespace Lodging.Overrides

open Service

/-- The range of dates does not end before it starts. -/
def checkRange (first last : Date) : Service Unit :=
  refuse (if last < first then some .reversedRange else none)

/-- The overrides of a plan within a range of dates. -/
def inRange (hotel plan : Id) (first last : Date) : Service (List RateOverride) := do
  checkRange first last
  let _ ← RatePlans.get hotel plan
  consult .overrides (·.overridesIn plan first last)

def put (hotel plan : Id) (patch : OverridePatch) : Service RateOverride := do
  refuseFaults patch.faults
  let _ ← RatePlans.get hotel plan
  let now ← now
  write .overrides (·.writeOverride plan patch now)

/-- Writes several overrides and gives their number. -/
def putAll (hotel plan : Id) (patches : List OverridePatch) : Service Nat := do
  refuseFaults (OverridePatch.listFaults patches)
  patches.forM fun patch => refuseFaults patch.faults
  let _ ← RatePlans.get hotel plan
  let now ← now
  write .overrides fun stores => (patches.length, stores.writeOverrides plan patches now)

def delete (hotel plan : Id) (date : Date) : Service Unit := do
  let _ ← RatePlans.get hotel plan
  let removed ← write .overrides fun stores =>
    (stores.override? plan date, stores.deleteOverride plan date)
  if removed.isNone then
    fail (.notFound .rateOverride s!"{plan.display}/{date.display}")

end Lodging.Overrides
