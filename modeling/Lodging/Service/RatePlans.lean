import Lodging.Quote.Basic
import Lodging.Service.Basic

/-! # The registry of rate plans

Live plans of one hotel have different codes, and no two public plans of one room
type share a sales channel. Both are checked whenever a plan is made, and when it
is revised as far as the revision touches them.
-/

namespace Lodging.RatePlans

open Service

def get (hotel id : Id) : Service RatePlan := do
  require (.notFound .ratePlan id.display) (← consult .ratePlans (·.plan? hotel id))

/-- The live plans of a hotel, or of one of its room types, by code. -/
def list (hotel : Id) (roomType : Option Id) : Service (List RatePlan) :=
  consult .ratePlans (·.plansOf hotel roomType)

/-- The plans that can be booked, the lowest base rate first. -/
def applicable (hotel : Id) (request : ApplicableRequest) : Service (List RatePlan) :=
  consult .ratePlans fun stores =>
    stores.applicablePlans hotel request.roomType request.checkIn request.channel
      request.isPublic

/-- The bounds in the terms of a plan agree. -/
def checkBounds (terms : PlanTerms) : Service Unit :=
  refuse (terms.reversedBounds?.map .reversedBounds)

/-- No other public plan of the room type has a channel that the terms claim.
The plan itself, if there is one already, is not another. -/
def checkChannels (roomType : Id) (self : Option Id) (terms : PlanTerms) : Service Unit := do
  if terms.claimsChannels then
    let others ← consult .ratePlans (·.publicPlans roomType)
    match others.find? fun other =>
        some other.id != self && other.sharesChannel terms.channelCodes with
    | some other => fail (.channelTaken other.code)
    | none => pure ()

def create (hotel : Id) (request : NewPlan) : Service RatePlan := do
  refuseFaults request.faults
  let terms := request.terms
  checkBounds terms
  let _ ← roomType hotel request.roomType
  let taken ← consult .ratePlans (·.planByCode? hotel terms.code)
  if taken.isSome then fail (.codeTaken terms.code)
  checkChannels request.roomType none terms
  let now ← now
  write .ratePlans fun stores => stores.addPlan hotel request now

/-- A changed code is not the code of another live plan of the hotel. -/
def checkCode (hotel id : Id) (before after : String) : Service Unit := do
  if after ≠ before then
    match ← consult .ratePlans (·.planByCode? hotel after) with
    | some other => if other.id ≠ id then fail (.codeTaken after)
    | none => pure ()

def update (hotel id : Id) (patch : PlanPatch) : Service RatePlan := do
  refuseFaults patch.faults
  let plan ← get hotel id
  let terms := patch.apply plan.toPlanTerms
  checkBounds terms
  checkCode hotel id plan.code terms.code
  if !terms.sameClaim plan.toPlanTerms then
    checkChannels plan.roomType (some id) terms
  let revised := { plan with toPlanTerms := terms, updatedAt := ← now }
  write .ratePlans fun stores =>
    (revised, stores.changePlan hotel id fun _ => revised)

/-- Deletes a plan on which no reservation holds rooms. -/
def delete (hotel id : Id) : Service Unit := do
  let _ ← get hotel id
  if ← consult .reservations (·.planInUse id) then fail .planInUse
  let now ← now
  write .ratePlans fun stores => ((), stores.deletePlan hotel id now)

end Lodging.RatePlans
