import Lodging.Quote.Basic
import Lodging.RatePlan.Document

/-! # Quotes as documents

The documents in which rates are requested and quoted.
-/

namespace Lodging

namespace QuoteRequest

/-- The fields of a request for rates. -/
def fields : Fields QuoteRequest :=
  (fun roomType checkIn checkOut channel =>
      { roomType, stay := { checkIn, checkOut }, channel })
    <$> .required "roomTypeId" Decoder.id
    <*> .required "checkIn" Decoder.date
    <*> .required "checkOut" Decoder.date
    <*> .optional "channelCode" Decoder.text

def decode : Decoder QuoteRequest :=
  fields.decode

end QuoteRequest

namespace ApplicableRequest

/-- The fields of a request for the plans that can be booked, given how truth
values are written. -/
def fields (flag : Decoder Bool) : Fields ApplicableRequest :=
  ApplicableRequest.mk
    <$> .required "roomTypeId" Decoder.id
    <*> .required "checkIn" Decoder.date
    <*> .optional "channelCode" Decoder.text
    <*> .optional "isPublic" flag

def decode : Decoder ApplicableRequest :=
  (fields Decoder.bool).decode

end ApplicableRequest

def NightlyRate.toDocument (money : MoneyForm) (night : NightlyRate) : Document :=
  .record
    [("date", .text night.date.display),
      ("baseRate", money night.baseRate),
      ("hasOverride", .bool night.hasOverride),
      ("stopSell", .bool night.stopSell),
      ("appliedRules", .list (night.appliedRules.map (·.toDocument money))),
      ("rate", money night.rate)]

def Offer.toDocument (money : MoneyForm) (offer : Offer) : Document :=
  .record
    [("ratePlanId", .text offer.plan.id.display),
      ("code", .text offer.plan.code),
      ("name", .text offer.plan.name),
      ("pricingType", .text offer.plan.pricingType.name),
      ("currency", .text offer.plan.currency),
      ("nights", .nat offer.nights),
      ("nightlyRates", .list (offer.nightlyRates.map (·.toDocument money))),
      ("subtotal", money offer.subtotal),
      ("taxes", money offer.taxes),
      ("total", money offer.total),
      ("restrictions", offer.restrictions.toDocument),
      ("inclusions",
        .record
          [("mealPlan", .text offer.plan.mealPlan.name),
            ("amenities", .texts offer.plan.amenities)]),
      ("isRefundable", .bool offer.plan.isRefundable),
      ("cancellationPolicy", .orNull .text offer.plan.cancellationPolicy)]

def Quote.toDocument (money : MoneyForm) (quote : Quote) : Document :=
  .record
    [("roomTypeId", .text quote.roomType.display),
      ("roomTypeName", .text quote.roomTypeName),
      ("availableRatePlans", .list (quote.offers.map (·.toDocument money))),
      ("bestAvailableRate", .orNull money quote.bestRate)]

end Lodging
