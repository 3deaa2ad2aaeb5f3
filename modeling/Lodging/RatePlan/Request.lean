import Lodging.FieldFault
import Lodging.RatePlan.Basic
import Lodging.Revision

/-! # Requests for rate plans

A plan is made from a request that leaves much to defaults, and revised by a
patch that keeps what it does not name. Both are checked field by field, and the
terms they lead to are checked for bounds that contradict each other
(`PlanTerms.reversedBounds?`).
-/

namespace Lodging

/-- A request for a new rate plan. -/
structure NewPlan where
  roomType : Id
  code : String
  name : String
  description : Option String
  baseRate : Decimal
  currency : Option String
  pricingType : Option PricingType
  minStay : Option Int
  maxStay : Option Int
  minAdvanceDays : Option Int
  maxAdvanceDays : Option Int
  isRefundable : Option Bool
  cancellationPolicy : Option String
  isPublic : Option Bool
  channelCodes : List String
  mealPlan : Option MealPlan
  amenities : List String
  rules : List Rule
  validFrom : Option Date
  validUntil : Option Date
  isActive : Option Bool
deriving Repr

/-- A partial revision of the terms of a plan. -/
structure PlanPatch where
  code : Option String
  name : Option String
  description : Revision String
  baseRate : Option Decimal
  currency : Option String
  pricingType : Option PricingType
  minStay : Option Int
  maxStay : Revision Int
  minAdvanceDays : Revision Int
  maxAdvanceDays : Revision Int
  isRefundable : Option Bool
  cancellationPolicy : Revision String
  isPublic : Option Bool
  channelCodes : Option (List String)
  mealPlan : Option MealPlan
  amenities : Option (List String)
  rules : Option (List Rule)
  validFrom : Revision Date
  validUntil : Revision Date
  isActive : Option Bool
deriving Repr

/-- The values of the fields that are checked; absent ones pass. -/
structure CheckedTerms where
  code : Option String
  name : Option String
  baseRate : Option Decimal
  currency : Option String
  minStay : Option Int
  maxStay : Option Int
  minAdvanceDays : Option Int
  maxAdvanceDays : Option Int
  channelCodes : Option (List String)

def CheckedTerms.faults (terms : CheckedTerms) : FieldFaults :=
  .text "code" 1 50 "Code must be 1-50 characters" terms.code ++
    .text "name" 1 200 "Name must be 1-200 characters" terms.name ++
    .amount "base_rate" terms.baseRate ++
    .ofField "currency" FieldFault.ofCurrency? terms.currency ++
    .atLeast "min_stay" 1 "Minimum stay must be at least 1 night" terms.minStay ++
    .atLeast "max_stay" 1 "Maximum stay must be at least 1 night" terms.maxStay ++
    .atLeast "min_advance_days" 0 "Advance days cannot be negative" terms.minAdvanceDays ++
    .atLeast "max_advance_days" 0 "Advance days cannot be negative" terms.maxAdvanceDays ++
    .ofField "channel_codes" FieldFault.ofChannels? terms.channelCodes

namespace NewPlan

def faults (request : NewPlan) : FieldFaults :=
  CheckedTerms.faults
    { code := some request.code
      name := some request.name
      baseRate := some request.baseRate
      currency := request.currency
      minStay := request.minStay
      maxStay := request.maxStay
      minAdvanceDays := request.minAdvanceDays
      maxAdvanceDays := request.maxAdvanceDays
      channelCodes := some request.channelCodes }

/-- The currency of a plan that names none. -/
def defaultCurrency : String := "USD"

/-- The terms of the plan, with defaults for what the request leaves out. -/
def terms (request : NewPlan) : PlanTerms where
  code := request.code
  name := request.name
  description := request.description
  baseRate := request.baseRate
  currency := request.currency.getD defaultCurrency
  pricingType := request.pricingType.getD .daily
  minStay := request.minStay.getD 1
  maxStay := request.maxStay
  minAdvanceDays := request.minAdvanceDays
  maxAdvanceDays := request.maxAdvanceDays
  isRefundable := request.isRefundable.getD true
  cancellationPolicy := request.cancellationPolicy
  isPublic := request.isPublic.getD true
  channelCodes := request.channelCodes
  mealPlan := request.mealPlan.getD .roomOnly
  amenities := request.amenities
  rules := request.rules
  validFrom := request.validFrom
  validUntil := request.validUntil
  isActive := request.isActive.getD true

/-- The plan that the request makes. -/
def toPlan (request : NewPlan) (hotel id : Id) (now : Instant) : RatePlan where
  toPlanTerms := request.terms
  id
  hotel
  roomType := request.roomType
  deletedAt := none
  createdAt := now
  updatedAt := now

end NewPlan

namespace PlanPatch

def faults (patch : PlanPatch) : FieldFaults :=
  CheckedTerms.faults
    { code := patch.code
      name := patch.name
      baseRate := patch.baseRate
      currency := patch.currency
      minStay := patch.minStay
      maxStay := patch.maxStay.new?
      minAdvanceDays := patch.minAdvanceDays.new?
      maxAdvanceDays := patch.maxAdvanceDays.new?
      channelCodes := patch.channelCodes }

def apply (patch : PlanPatch) (terms : PlanTerms) : PlanTerms where
  code := patch.code.getD terms.code
  name := patch.name.getD terms.name
  description := patch.description.apply terms.description
  baseRate := patch.baseRate.getD terms.baseRate
  currency := patch.currency.getD terms.currency
  pricingType := patch.pricingType.getD terms.pricingType
  minStay := patch.minStay.getD terms.minStay
  maxStay := patch.maxStay.apply terms.maxStay
  minAdvanceDays := patch.minAdvanceDays.apply terms.minAdvanceDays
  maxAdvanceDays := patch.maxAdvanceDays.apply terms.maxAdvanceDays
  isRefundable := patch.isRefundable.getD terms.isRefundable
  cancellationPolicy := patch.cancellationPolicy.apply terms.cancellationPolicy
  isPublic := patch.isPublic.getD terms.isPublic
  channelCodes := patch.channelCodes.getD terms.channelCodes
  mealPlan := patch.mealPlan.getD terms.mealPlan
  amenities := patch.amenities.getD terms.amenities
  rules := patch.rules.getD terms.rules
  validFrom := patch.validFrom.apply terms.validFrom
  validUntil := patch.validUntil.apply terms.validUntil
  isActive := patch.isActive.getD terms.isActive

end PlanPatch

namespace PlanTerms

/-- The first pair of bounds that contradict each other. -/
def reversedBounds? (terms : PlanTerms) : Option ReversedBounds :=
  (ReversedBounds.check "Stay" (some terms.minStay) terms.maxStay).or <|
    (ReversedBounds.check "Advance booking" terms.minAdvanceDays terms.maxAdvanceDays).or <|
      ReversedBounds.check "Validity" terms.validFrom terms.validUntil

/-- Two terms claim channels in the same way. -/
def sameClaim (one other : PlanTerms) : Bool :=
  one.channelCodes == other.channelCodes && one.isPublic == other.isPublic &&
    one.isActive == other.isActive

end PlanTerms

end Lodging
