import Lodging.Quote.Basic
import Lodging.Service.Basic

/-! # Quoting rates

All plans that can be booked for a stay are priced and ranked. A plan whose
restrictions the stay does not meet is left out without being priced. Every
request is counted, also one that fails.
-/

namespace Lodging.Quote

open Service

/-- The offer of a plan, if the stay meets its restrictions. -/
def offer? (plan : RatePlan) (stay : Stay) (booking : Booking) : Service (Option Offer) := do
  if (plan.restrictions booking.nights booking.daysInAdvance).allMet then
    let overrides ← consult .overrides (·.overridesIn plan.id stay.checkIn stay.lastNight)
    let offer ← require (.unpriceable plan.code)
      (Offer.price? plan overrides booking (← read).taxRate)
    pure (some offer)
  else pure none

/-- The offers for a stay as booked now. -/
def calculate (hotel : Id) (request : QuoteRequest) : Service Quote := do
  count .rateCalculation
  let roomType ← Service.roomType hotel request.roomType
  let nights ← nightsOf request.stay
  let checkIn := request.stay.checkIn
  let plans ← consult .ratePlans
    (·.applicablePlans hotel roomType.id checkIn request.channel none)
  let booking : Booking :=
    { checkIn, nights, daysInAdvance := Instant.daysInAdvance checkIn (← now) }
  let offers ← plans.filterMapM fun plan => offer? plan request.stay booking
  let ranked := Offer.ranked offers
  pure
    { roomType := roomType.id
      roomTypeName := roomType.name
      offers := ranked
      bestRate := ranked.head?.map (·.total) }

end Lodging.Quote
