import Lodging.Inventory.Basic
import Lodging.Rule.Document

/-! # Ledger rows as documents

The documents in which rows are written and given.
-/

namespace Lodging

namespace InventoryPatch

/-- The fields of a write to a row. -/
def fields : Fields InventoryPatch :=
  InventoryPatch.mk
    <$> .required "date" Decoder.date
    <*> .optional "totalRooms" Decoder.int32
    <*> .optional "outOfOrder" Decoder.int32
    <*> .optional "blocked" Decoder.int32
    <*> .optional "sold" Decoder.int32
    <*> .optional "overbookingLimit" Decoder.int32
    <*> .optional "stopSell" Decoder.bool
    <*> .optional "minStay" Decoder.int32
    <*> .optional "maxStay" Decoder.int32
    <*> .optional "closedToArrival" Decoder.bool
    <*> .optional "closedToDeparture" Decoder.bool
    <*> .omissible "rateOverride" Decoder.decimal
    <*> .optional "reason" Decoder.text

def decode : Decoder InventoryPatch :=
  fields.decode

/-- The request for several writes. -/
def decodeList : Decoder (List InventoryPatch) :=
  (Fields.required "entries" (Decoder.listOf decode)).decode

/-- The document of a write, with null for what it does not carry. -/
def toDocument (money : MoneyForm) (patch : InventoryPatch) : Document :=
  .record
    [("date", .text patch.date.display),
      ("totalRooms", .orNull .integer patch.totalRooms),
      ("outOfOrder", .orNull .integer patch.outOfOrder),
      ("blocked", .orNull .integer patch.blocked),
      ("sold", .orNull .integer patch.sold),
      ("overbookingLimit", .orNull .integer patch.overbookingLimit),
      ("stopSell", .orNull .bool patch.stopSell),
      ("minStay", .orNull .integer patch.minStay),
      ("maxStay", .orNull .integer patch.maxStay),
      ("closedToArrival", .orNull .bool patch.closedToArrival),
      ("closedToDeparture", .orNull .bool patch.closedToDeparture),
      ("rateOverride", .orNull money patch.rateOverride),
      ("reason", .orNull .text patch.reason)]

end InventoryPatch

def InventoryRow.toDocument (money : MoneyForm) (row : InventoryRow) : Document :=
  .record
    [("id", .text row.id.display),
      ("roomTypeId", .text row.roomType.display),
      ("date", .text row.date.display),
      ("totalRooms", .integer row.totalRooms),
      ("outOfOrder", .integer row.outOfOrder),
      ("blocked", .integer row.blocked),
      ("sold", .integer row.sold),
      ("overbookingLimit", .integer row.overbookingLimit),
      ("available", .integer row.available),
      ("stopSell", .bool row.stopSell),
      ("minStay", .orNull .integer row.minStay),
      ("maxStay", .orNull .integer row.maxStay),
      ("closedToArrival", .bool row.closedToArrival),
      ("closedToDeparture", .bool row.closedToDeparture),
      ("rateOverride", .orNull money row.rateOverride),
      ("reason", .orNull .text row.reason),
      ("createdAt", .text row.createdAt.display),
      ("updatedAt", .text row.updatedAt.display)]

end Lodging
