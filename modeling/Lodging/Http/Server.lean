import Lodging.Document.Reader
import Lodging.Http.MediaType
import Lodging.Http.Route
import Lodging.Inventory.Document
import Lodging.Quote.Document
import Lodging.Service.Access
import Lodging.Service.Availability
import Lodging.Service.Inventory
import Lodging.Service.Quotes
import Lodging.Service.Reservations

/-! # Answering requests

A request below a hotel passes the same gates in the same order whatever it asks
for: the token, the ids in the path, the query or body, the organization, the
hotel, the role if anything may change, and only then the service it is for
(`Server.answer`). A request whose call breaks off gets no response. Money is given as
double precision numbers.
-/

namespace Lodging.Http

/-- What a server works with. -/
structure Server where
  /-- What tokens are accepted by. -/
  tokens : TokenService
  taxRate : Decimal
  maxStayNights : Nat
  reachable : StoreName → Bool

namespace Server

/-- The circumstance of a call at some time. -/
def circumstance (server : Server) (now : Instant) : Circumstance where
  now
  reachable := server.reachable
  taxRate := server.taxRate
  maxStayNights := server.maxStayNights

end Server

/-- Money in responses. -/
def money : MoneyForm := fun amount => .real amount.toBinary64

def pathId (segment : String) : Except Rejection Id :=
  match (segmentText? segment).bind Id.read? with
  | some id => .ok id
  | none => .error .invalidPath

def pathText (segment : String) : Except Rejection String :=
  match segmentText? segment with
  | some text => .ok text
  | none => .error .invalidPath

/-- What the query of a request describes. -/
def queryAs {α : Type} (fields : Fields α) (request : Request) : Except Rejection α :=
  (fields.decode (Document.record (formEntries (queryOf request.address)))).mapError
    fun _ => .invalidQuery

/-- The content type is that of a document. -/
def isDocumentType (contentType : String) : Bool :=
  (MediaType.read? contentType).any MediaType.isDocument

/-- What the body of a request describes. Whatever follows the document is not
looked at. -/
def bodyAs {α : Type} (decoder : Decoder α) (request : Request) : Except Rejection α :=
  if !request.contentType.any isDocumentType then .error .unsupportedContent
  else
    (decoder (Draft.ofText request.body)).mapError fun cause =>
      if cause = DecodeError.malformed then .malformedBody else .unfitBody

/-- The first and last day of a range in a query. -/
def rangeFields : Fields (Date × Date) :=
  Prod.mk <$> .required "from" Decoder.date <*> .required "to" Decoder.date

def stayFields : Fields Stay :=
  Stay.mk <$> .required "checkIn" Decoder.date <*> .required "checkOut" Decoder.date

/-- The choice of a room type in a query. -/
def roomTypeFields : Fields (Option Id) :=
  .optional "roomTypeId" Decoder.id

/-- An answer with content. -/
def ok (message : String) (data : Document) : Success where
  status := 200
  message
  data

def noContent : Success where
  status := 204
  message := ""
  data := .null

/-- The documents of several values. -/
def listed {α : Type} (write : α → Document) (values : List α) : Document :=
  .list (values.map write)

/-- What an action does, once the request is understood. -/
def Action.perform (action : Action) (request : Request) :
    Except Rejection (Id → Service Success) :=
  match action with
  | .createPlan => do
      let plan ← bodyAs NewPlan.decode request
      .ok fun hotel => do
        let plan ← RatePlans.create hotel plan
        pure
          { status := 201
            message := "Rate plan created successfully"
            data := plan.toDocument money }
  | .listPlans => do
      let roomType ← queryAs roomTypeFields request
      .ok fun hotel => do
        let plans ← RatePlans.list hotel roomType
        pure (ok "Rate plans retrieved successfully" (listed (·.toDocument money) plans))
  | .calculate => do
      let wanted ← bodyAs QuoteRequest.decode request
      .ok fun hotel => do
        let quote ← Quote.calculate hotel wanted
        pure (ok "Rates calculated successfully" (quote.toDocument money))
  | .listApplicable => do
      let wanted ← queryAs (ApplicableRequest.fields flag) request
      .ok fun hotel => do
        let plans ← RatePlans.applicable hotel wanted
        pure
          (ok "Applicable rate plans retrieved successfully"
            (listed (·.toDocument money) plans))
  | .getPlan plan => do
      let id ← pathId plan
      .ok fun hotel => do
        let plan ← RatePlans.get hotel id
        pure (ok "Rate plan retrieved successfully" (plan.toDocument money))
  | .updatePlan plan => do
      let id ← pathId plan
      let patch ← bodyAs PlanPatch.decode request
      .ok fun hotel => do
        let plan ← RatePlans.update hotel id patch
        pure (ok "Rate plan updated successfully" (plan.toDocument money))
  | .deletePlan plan => do
      let id ← pathId plan
      .ok fun hotel => do
        RatePlans.delete hotel id
        pure noContent
  | .getOverrides plan => do
      let id ← pathId plan
      let (first, last) ← queryAs rangeFields request
      .ok fun hotel => do
        let rows ← Overrides.inRange hotel id first last
        pure (ok "Rate overrides retrieved successfully" (listed (·.toDocument money) rows))
  | .putOverride plan => do
      let id ← pathId plan
      let patch ← bodyAs OverridePatch.decode request
      .ok fun hotel => do
        let row ← Overrides.put hotel id patch
        pure (ok "Rate override saved successfully" (row.toDocument money))
  | .putOverrides plan => do
      let id ← pathId plan
      let patches ← bodyAs OverridePatch.decodeList request
      .ok fun hotel => do
        let count ← Overrides.putAll hotel id patches
        pure (ok "Rate overrides saved successfully" (bulkCountDocument count))
  | .deleteOverride plan date => do
      let id ← pathId plan
      let text ← pathText date
      .ok fun hotel => do
        let date ← Service.accept .unreadableDate (Date.read text)
        Overrides.delete hotel id date
        pure noContent
  | .getInventory roomType => do
      let id ← pathId roomType
      let (first, last) ← queryAs rangeFields request
      .ok fun hotel => do
        let rows ← Inventory.inRange hotel id first last
        pure (ok "Inventory retrieved successfully" (listed (·.toDocument money) rows))
  | .putInventory roomType => do
      let id ← pathId roomType
      let patch ← bodyAs InventoryPatch.decode request
      .ok fun hotel => do
        let row ← Inventory.put hotel id patch
        pure (ok "Inventory updated successfully" (row.toDocument money))
  | .putInventories roomType => do
      let id ← pathId roomType
      let patches ← bodyAs InventoryPatch.decodeList request
      .ok fun hotel => do
        let count ← Inventory.putAll hotel id patches
        pure (ok "Inventory bulk update completed" (bulkCountDocument count))
  | .checkAvailability roomType => do
      let id ← pathId roomType
      let stay ← queryAs stayFields request
      .ok fun hotel => do
        let verdict ← Availability.check hotel id stay
        pure (ok "Availability checked" verdict.toDocument)
  | .setStatus reservation => do
      let id ← pathId reservation
      let status ← bodyAs ReservationStatus.decodeRequest request
      .ok fun hotel => do
        let reservation ← Reservations.setStatus hotel id status
        pure (ok "Reservation status updated successfully" reservation.toDocument)

/-- The gate of an action, and behind it what the action does. -/
def Action.guarded (action : Action) (caller : Caller) (organization hotel : Id)
    (perform : Id → Service Success) : Service Success := do
  if action.changes then Access.change caller organization hotel
  else Access.read caller organization hotel
  perform hotel

/-- The call that a request of a caller leads to. -/
def Action.call (action : Action) (organization hotel : String) (caller : Caller)
    (request : Request) : Except Rejection (Service Success) := do
  let organization ← pathId organization
  let hotel ← pathId hotel
  let perform ← action.perform request
  .ok (action.guarded caller organization hotel perform)

namespace Server

/-- The response to what has become of a call. -/
def respond (server : Server) (now : Instant) (call : Service Success) (backend : Backend) :
    Option Response × Backend :=
  match call.run (server.circumstance now) backend with
  | (.ok success, backend) => (some success.response, backend)
  | (.error (.refused problem), backend) =>
      (some (failureResponse problem.failure now), backend)
  | (.error .overflow, backend) => (none, backend)

/-- The response to a request below a hotel. -/
def answerHotel (server : Server) (now : Instant) (organization hotel : String)
    (action : Action) (request : Request) (backend : Backend) : Option Response × Backend :=
  match request.authorization.caller server.tokens now.clockSeconds with
  | .error fault => (some (failureResponse fault.failure now), backend)
  | .ok caller =>
      match action.call organization hotel caller request with
      | .error rejection => (some rejection.response, backend)
      | .ok call => server.respond now call backend

/-- The response to a request by where it leads. -/
def answerRoute (server : Server) (now : Instant) (request : Request) (backend : Backend) :
    Option Response × Backend :=
  match request.route with
  | .health =>
      (some { status := 200, body := .document (.record [("status", .text "ok")]) }, backend)
  | .metrics =>
      (some { status := 200, body := .document backend.metrics.toDocument }, backend)
  | .hotel organization hotel action =>
      server.answerHotel now organization hotel action request backend
  | .wrongMethod => (some { status := 405, body := .empty }, backend)
  | .unknown => (some { status := 404, body := .empty }, backend)

/-- The response to a request, if there is one. Every address may be asked for its
options, and what is asked for without its body is answered without one. -/
def answer (server : Server) (now : Instant) (request : Request) (backend : Backend) :
    Option Response × Backend :=
  match request.method with
  | .options => (some { status := 200, body := .empty }, backend)
  | .head =>
      let (response, backend) := server.answerRoute now request backend
      (response.map (·.withoutBody), backend)
  | _ => server.answerRoute now request backend

end Server

end Lodging.Http
