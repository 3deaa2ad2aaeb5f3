import Lodging.Document.Basic

/-! # The description of the interface

Which operations there are, how they are grouped, which statuses each documents,
and which kinds of documents they exchange.
-/

namespace Lodging

structure OperationDescription where
  method : String
  path : String
  group : String
  statuses : List Nat
deriving DecidableEq, Repr

namespace ApiDescription

def title : String := "Hotel Rates API"

def version : String := "1.0.0"

/-- A name in a path that stands for a value. -/
def placeholder (name : String) : String :=
  "\x7b" ++ name ++ "\x7d"

/-- The path of a place below a hotel. -/
def hotelPath (below : List String) : String :=
  "/" ++ "/".intercalate
    (["organizations", placeholder "org_id", "hotels", placeholder "hotel_id"] ++ below)

/-- The path of a rate plan and of places below it. -/
def planPath (below : List String) : String :=
  hotelPath (["rate-plans", placeholder "id"] ++ below)

/-- The path of places below a room type. -/
def roomTypePath (below : List String) : String :=
  hotelPath (["room-types", placeholder "id"] ++ below)

def planOperations : List OperationDescription :=
  [ { method := "post", path := hotelPath ["rate-plans", "calculate"],
      group := "rate-plans", statuses := [200, 400, 403, 404] },
    { method := "post", path := hotelPath ["rate-plans"],
      group := "rate-plans", statuses := [201, 400, 404, 409] },
    { method := "get", path := hotelPath ["rate-plans"],
      group := "rate-plans", statuses := [200] },
    { method := "get", path := hotelPath ["rate-plans", "applicable"],
      group := "rate-plans", statuses := [200] },
    { method := "get", path := planPath [],
      group := "rate-plans", statuses := [200, 404] },
    { method := "patch", path := planPath [],
      group := "rate-plans", statuses := [200, 400, 404, 409] },
    { method := "delete", path := planPath [],
      group := "rate-plans", statuses := [204, 404, 409] }]

def overrideOperations : List OperationDescription :=
  [ { method := "get", path := planPath ["overrides"],
      group := "rate-overrides", statuses := [200] },
    { method := "put", path := planPath ["overrides"],
      group := "rate-overrides", statuses := [200, 404] },
    { method := "post", path := planPath ["overrides", "bulk"],
      group := "rate-overrides", statuses := [200, 404] },
    { method := "delete", path := planPath ["overrides", placeholder "date"],
      group := "rate-overrides", statuses := [204, 404] }]

def inventoryOperations : List OperationDescription :=
  [ { method := "get", path := roomTypePath ["inventory"],
      group := "inventory", statuses := [200, 404] },
    { method := "put", path := roomTypePath ["inventory"],
      group := "inventory", statuses := [200, 400, 404] },
    { method := "post", path := roomTypePath ["inventory", "bulk"],
      group := "inventory", statuses := [200, 400] },
    { method := "get", path := roomTypePath ["availability"],
      group := "inventory", statuses := [200, 400, 404] }]

def operations : List OperationDescription :=
  planOperations ++ overrideOperations ++ inventoryOperations ++
    [ { method := "patch",
        path := hotelPath ["reservations", placeholder "id", "status"],
        group := "reservations", statuses := [200, 400, 404] },
      { method := "get", path := "/metrics", group := "monitoring", statuses := [200] }]

/-- The kinds of documents, by name. -/
def schemas : List String :=
  ["AppliedRule", "AvailabilityResult", "AvailabilitySource", "BulkInventoryRequest",
    "BulkOverrideRequest", "BulkWriteResult", "CalculateRatesRequest",
    "CreateRatePlanRequest", "Inclusions", "InventoryPatch", "MealPlan", "MetricsSummary",
    "NightlyRate", "OperationSummary", "OverridePatch", "PricingType",
    "RateCalculationResult", "RateOffer", "RateOverride", "RatePlan", "Reservation",
    "ReservationStatus", "RestrictionCompliance", "RoomInventory", "UpdateRatePlanRequest",
    "UpdateReservationStatusRequest"]

/-- How callers show who they are. -/
def securitySchemes : Document :=
  .record
    [("bearer_auth",
      .record
        [("type", .text "http"),
          ("scheme", .text "bearer"),
          ("bearerFormat", .text "JWT")])]

def operationDocument (operation : OperationDescription) : Document :=
  .record
    [("tags", .texts [operation.group]),
      ("responses", .texts (operation.statuses.map fun status => s!"{status}"))]

def toDocument : Document :=
  .record
    [("title", .text title),
      ("version", .text version),
      ("paths",
        .record
          (operations.map fun operation =>
            (s!"{operation.method} {operation.path}", operationDocument operation))),
      ("schemas", .texts schemas),
      ("security", securitySchemes)]

end ApiDescription

end Lodging
