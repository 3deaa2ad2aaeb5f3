import Lodging.Calendar.Stay
import Lodging.RatePlan.Basic
import Lodging.RatePlan.Override
import Lodging.Rule.Apply

/-! # Pricing a stay

A plan is priced night by night: the night's override or the base rate, changed
by the rules that fire, rounded to cents and never below zero. The rates of the
nights are added up, taxed and totalled. Where a step leaves the range of
decimals the plan has no price (`Offer.price?`).
-/

namespace Lodging

structure NightlyRate where
  date : Date
  /-- The rate of the night's override, or else of the plan. -/
  baseRate : Decimal
  hasOverride : Bool
  /-- The flag of the night's override; it does not keep the night from being
  offered. -/
  stopSell : Bool
  appliedRules : List AppliedRule
  rate : Decimal
deriving DecidableEq, Repr

/-- What a stay costs. -/
structure Charges where
  subtotal : Decimal
  taxes : Decimal
  total : Decimal
deriving DecidableEq, Repr

/-- A plan priced for a stay. -/
structure Offer extends Charges where
  plan : RatePlan
  nights : Nat
  nightlyRates : List NightlyRate
  restrictions : Restrictions
deriving Repr

/-- The length of a stay and how far ahead it is booked. -/
structure Booking where
  checkIn : Date
  nights : Nat
  daysInAdvance : Int
deriving DecidableEq, Repr

namespace NightlyRate

/-- The occupancy that rules see. The ledger gives none for a date, so rules that
look at it see an empty house. -/
def assumedOccupancy : Decimal := .zero

/-- The price of a plan for one night of a stay. -/
def price? (plan : RatePlan) (row : Option RateOverride) (date : Date)
    (booking : Booking) : Option NightlyRate := do
  let overrideRate := row.bind (·.rate)
  let baseRate := overrideRate.getD plan.baseRate
  let (adjusted, appliedRules) ← Rule.applyAll? baseRate plan.rules
    { date
      daysInAdvance := booking.daysInAdvance
      lengthOfStay := booking.nights
      occupancyPercent := assumedOccupancy }
  some
    { date
      baseRate
      hasOverride := overrideRate.isSome
      stopSell := (row.map (·.stopSell)).getD false
      appliedRules
      rate := adjusted.roundMoney.larger .zero }

end NightlyRate

namespace Charges

/-- The sum of amounts, added one after another. -/
def sum? (amounts : List Decimal) : Option Decimal :=
  amounts.foldlM (fun sum amount => sum.add? amount) Decimal.zero

/-- What nights of some rates cost. -/
def ofRates? (rates : List Decimal) (taxRate : Decimal) : Option Charges := do
  let subtotal ← sum? rates
  let taxes ← (subtotal.mul? taxRate).map Decimal.roundMoney
  let total ← (subtotal.add? taxes).map Decimal.roundMoney
  some { subtotal, taxes, total }

end Charges

namespace Offer

/-- The price of a plan for the nights of a stay, given its overrides. -/
def price? (plan : RatePlan) (overrides : List RateOverride) (booking : Booking)
    (taxRate : Decimal) : Option Offer := do
  let nightlyRates ← (Stay.nightsFrom booking.checkIn booking.nights).mapM fun date =>
    NightlyRate.price? plan (overrides.find? (·.date == date)) date booking
  let charges ← Charges.ofRates? (nightlyRates.map (·.rate)) taxRate
  some
    { toCharges := charges
      plan
      nights := booking.nights
      nightlyRates
      restrictions := plan.restrictions booking.nights booking.daysInAdvance }

/-- The offers, the lowest total first; equal totals keep their order. -/
def ranked (offers : List Offer) : List Offer :=
  offers.mergeSort fun first second => first.total ≤ second.total

end Offer

/-- The answer to a request for rates. -/
structure Quote where
  roomType : Id
  roomTypeName : String
  offers : List Offer
  bestRate : Option Decimal
deriving Repr

structure QuoteRequest where
  roomType : Id
  stay : Stay
  channel : Option String
deriving DecidableEq, Repr

/-- A request for the plans that can be booked. -/
structure ApplicableRequest where
  roomType : Id
  checkIn : Date
  channel : Option String
  isPublic : Option Bool
deriving DecidableEq, Repr

end Lodging
