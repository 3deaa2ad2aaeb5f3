import Lodging.RatePlan.Override
import Lodging.RatePlan.Request
import Lodging.Rule.Document

/-! # Rate plans as documents

The documents in which plans are requested and revised, and those in which plans
and their overrides are given.
-/

namespace Lodging

namespace PricingType

def name : PricingType → String
  | .daily => "DAILY"
  | .flat => "FLAT"

def decode : Decoder PricingType :=
  Decoder.oneOf [.daily, .flat] name

end PricingType

namespace MealPlan

def name : MealPlan → String
  | .roomOnly => "ROOM_ONLY"
  | .breakfast => "BREAKFAST"
  | .halfBoard => "HALF_BOARD"
  | .fullBoard => "FULL_BOARD"
  | .allInclusive => "ALL_INCLUSIVE"

def decode : Decoder MealPlan :=
  Decoder.oneOf [.roomOnly, .breakfast, .halfBoard, .fullBoard, .allInclusive] name

end MealPlan

/-- A field that a revision keeps when it is missing, clears when it is null and
sets otherwise. -/
def Fields.revision {α : Type} (name : String) (value : Decoder α) : Fields (Revision α) :=
  .defaulted name
    (fun draft =>
      match draft with
      | .null => .ok .clear
      | draft => (value draft).map .set)
    .keep

namespace NewPlan

/-- The fields of a request for a new plan. -/
def fields : Fields NewPlan :=
  NewPlan.mk
    <$> .required "roomTypeId" Decoder.id
    <*> .required "code" Decoder.text
    <*> .required "name" Decoder.text
    <*> .optional "description" Decoder.text
    <*> .required "baseRate" Decoder.decimal
    <*> .optional "currency" Decoder.text
    <*> .optional "pricingType" PricingType.decode
    <*> .optional "minStay" Decoder.int32
    <*> .optional "maxStay" Decoder.int32
    <*> .optional "minAdvanceDays" Decoder.int32
    <*> .optional "maxAdvanceDays" Decoder.int32
    <*> .optional "isRefundable" Decoder.bool
    <*> .optional "cancellationPolicy" Decoder.text
    <*> .optional "isPublic" Decoder.bool
    <*> .defaulted "channelCodes" (Decoder.listOf Decoder.text) []
    <*> .optional "mealPlan" MealPlan.decode
    <*> .defaulted "amenities" (Decoder.listOf Decoder.text) []
    <*> .defaulted "pricingRules" (Decoder.listOf Rule.decode) []
    <*> .omissible "validFrom" Decoder.date
    <*> .omissible "validUntil" Decoder.date
    <*> .optional "isActive" Decoder.bool

def decode : Decoder NewPlan :=
  fields.decode

end NewPlan

namespace PlanPatch

/-- The fields of a revision of a plan. -/
def fields : Fields PlanPatch :=
  PlanPatch.mk
    <$> .optional "code" Decoder.text
    <*> .optional "name" Decoder.text
    <*> .revision "description" Decoder.text
    <*> .omissible "baseRate" Decoder.decimal
    <*> .optional "currency" Decoder.text
    <*> .optional "pricingType" PricingType.decode
    <*> .optional "minStay" Decoder.int32
    <*> .revision "maxStay" Decoder.int32
    <*> .revision "minAdvanceDays" Decoder.int32
    <*> .revision "maxAdvanceDays" Decoder.int32
    <*> .optional "isRefundable" Decoder.bool
    <*> .revision "cancellationPolicy" Decoder.text
    <*> .optional "isPublic" Decoder.bool
    <*> .optional "channelCodes" (Decoder.listOf Decoder.text)
    <*> .optional "mealPlan" MealPlan.decode
    <*> .optional "amenities" (Decoder.listOf Decoder.text)
    <*> .optional "pricingRules" (Decoder.listOf Rule.decode)
    <*> .revision "validFrom" Decoder.date
    <*> .revision "validUntil" Decoder.date
    <*> .optional "isActive" Decoder.bool

def decode : Decoder PlanPatch :=
  fields.decode

end PlanPatch

/-- The document of a plan. The time of deletion is written only for a deleted
plan. -/
def RatePlan.toDocument (money : MoneyForm) (plan : RatePlan) : Document :=
  .record
    ([("id", .text plan.id.display),
      ("hotelId", .text plan.hotel.display),
      ("roomTypeId", .text plan.roomType.display),
      ("code", .text plan.code),
      ("name", .text plan.name),
      ("description", .orNull .text plan.description),
      ("baseRate", money plan.baseRate),
      ("currency", .text plan.currency),
      ("pricingType", .text plan.pricingType.name),
      ("minStay", .integer plan.minStay),
      ("maxStay", .orNull .integer plan.maxStay),
      ("minAdvanceDays", .orNull .integer plan.minAdvanceDays),
      ("maxAdvanceDays", .orNull .integer plan.maxAdvanceDays),
      ("isRefundable", .bool plan.isRefundable),
      ("cancellationPolicy", .orNull .text plan.cancellationPolicy),
      ("isPublic", .bool plan.isPublic),
      ("channelCodes", .texts plan.channelCodes),
      ("mealPlan", .text plan.mealPlan.name),
      ("amenities", .texts plan.amenities),
      ("pricingRules", .list (plan.rules.map (·.toDocument money))),
      ("validFrom", .orNull (fun date => .text date.display) plan.validFrom),
      ("validUntil", .orNull (fun date => .text date.display) plan.validUntil),
      ("isActive", .bool plan.isActive)] ++
      (plan.deletedAt.map fun instant => ("deletedAt", Document.text instant.display)).toList ++
      [("createdAt", .text plan.createdAt.display),
        ("updatedAt", .text plan.updatedAt.display)])

/-- The document of the restrictions that a stay meets. -/
def Restrictions.toDocument (restrictions : Restrictions) : Document :=
  .record
    [("minStayMet", .bool restrictions.minStayMet),
      ("maxStayMet", .bool restrictions.maxStayMet),
      ("advanceBookingMet", .bool restrictions.advanceBookingMet)]

namespace OverridePatch

/-- The fields of a write to an override. -/
def fields : Fields OverridePatch :=
  OverridePatch.mk
    <$> .required "date" Decoder.date
    <*> .omissible "rate" Decoder.decimal
    <*> .optional "stopSell" Decoder.bool
    <*> .optional "minStay" Decoder.int32
    <*> .optional "reason" Decoder.text

def decode : Decoder OverridePatch :=
  fields.decode

/-- The request for several writes. -/
def decodeList : Decoder (List OverridePatch) :=
  (Fields.required "overrides" (Decoder.listOf decode)).decode

/-- The document of a write, with null for what it does not carry. -/
def toDocument (money : MoneyForm) (patch : OverridePatch) : Document :=
  .record
    [("date", .text patch.date.display),
      ("rate", .orNull money patch.rate),
      ("stopSell", .orNull .bool patch.stopSell),
      ("minStay", .orNull .integer patch.minStay),
      ("reason", .orNull .text patch.reason)]

end OverridePatch

def RateOverride.toDocument (money : MoneyForm) (row : RateOverride) : Document :=
  .record
    [("id", .text row.id.display),
      ("ratePlanId", .text row.plan.display),
      ("date", .text row.date.display),
      ("rate", .orNull money row.rate),
      ("stopSell", .bool row.stopSell),
      ("minStay", .orNull .integer row.minStay),
      ("reason", .orNull .text row.reason),
      ("createdAt", .text row.createdAt.display),
      ("updatedAt", .text row.updatedAt.display)]

/-- The document of the number of rows written. -/
def bulkCountDocument (count : Nat) : Document :=
  .record [("count", .nat count)]

end Lodging
