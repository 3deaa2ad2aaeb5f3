import Lodging.Calendar.Instant
import Lodging.Id
import Lodging.Rule.Basic

/-! # Rate plans

A rate plan is what a hotel offers for the rooms of one type: a base rate per
night, the rules that change it, and the stays and channels it is offered for.
Its terms can be revised; what identifies it cannot.
-/

namespace Lodging

/-- How the price of a plan is expressed. Either is computed by the night. -/
inductive PricingType where
  | daily
  | flat
deriving DecidableEq, Repr, Inhabited

/-- The meals that a plan includes. -/
inductive MealPlan where
  | roomOnly
  | breakfast
  | halfBoard
  | fullBoard
  | allInclusive
deriving DecidableEq, Repr, Inhabited

/-- The terms of a rate plan, all of which can be revised. -/
structure PlanTerms where
  code : String
  name : String
  description : Option String
  baseRate : Decimal
  currency : String
  pricingType : PricingType
  /-- The fewest nights of a stay. -/
  minStay : Int
  /-- The most nights of a stay. -/
  maxStay : Option Int
  /-- The fewest days between booking and arrival. -/
  minAdvanceDays : Option Int
  /-- The most days between booking and arrival. -/
  maxAdvanceDays : Option Int
  isRefundable : Bool
  cancellationPolicy : Option String
  /-- The plan is open to everybody. -/
  isPublic : Bool
  /-- The sales channels that the plan is offered on. -/
  channelCodes : List String
  mealPlan : MealPlan
  amenities : List String
  rules : List Rule
  /-- The first day of arrival. -/
  validFrom : Option Date
  /-- The last day of arrival. -/
  validUntil : Option Date
  isActive : Bool
deriving Repr, Inhabited

structure RatePlan extends PlanTerms where
  id : Id
  hotel : Id
  roomType : Id
  /-- When the plan was deleted; a deleted plan is kept but no longer found. -/
  deletedAt : Option Instant
  createdAt : Instant
  updatedAt : Instant
deriving Repr, Inhabited

/-- Which restrictions of a plan a stay meets. -/
structure Restrictions where
  minStayMet : Bool
  maxStayMet : Bool
  advanceBookingMet : Bool
deriving DecidableEq, Repr

/-- All restrictions are met. -/
def Restrictions.allMet (restrictions : Restrictions) : Bool :=
  restrictions.minStayMet && restrictions.maxStayMet && restrictions.advanceBookingMet

namespace PlanTerms

/-- The restrictions that a stay of some nights meets, booked some days ahead. -/
def restrictions (terms : PlanTerms) (nights daysInAdvance : Int) : Restrictions where
  minStayMet := decide (terms.minStay ≤ nights)
  maxStayMet := terms.maxStay.all fun most => nights ≤ most
  advanceBookingMet :=
    (terms.minAdvanceDays.all fun least => least ≤ daysInAdvance) &&
      terms.maxAdvanceDays.all fun most => daysInAdvance ≤ most

/-- One of the channels is a channel of the plan. -/
def sharesChannel (terms : PlanTerms) (channels : List String) : Bool :=
  terms.channelCodes.any fun code => channels.contains code

/-- The plan is offered to everybody and so claims its channels for itself. -/
def claimsChannels (terms : PlanTerms) : Bool :=
  terms.isPublic && terms.isActive && !terms.channelCodes.isEmpty

end PlanTerms

namespace RatePlan

def isLive (plan : RatePlan) : Bool :=
  plan.deletedAt.isNone

/-- The plan is a live plan of a hotel. -/
def isLiveIn (plan : RatePlan) (hotel : Id) : Bool :=
  plan.hotel == hotel && plan.isLive

/-- The plan can be booked for an arrival, on a channel and with a visibility if
these are given. -/
def isApplicable (plan : RatePlan) (checkIn : Date) (channel : Option String)
    (isPublic : Option Bool) : Bool :=
  plan.isActive && plan.isLive &&
    (plan.validFrom.all fun first => first ≤ checkIn) &&
    (plan.validUntil.all fun last => checkIn ≤ last) &&
    (channel.all fun code => plan.channelCodes.contains code) &&
    isPublic.all fun wanted => plan.isPublic == wanted

end RatePlan

end Lodging
