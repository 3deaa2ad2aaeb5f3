import Lodging.Access.Token
import Lodging.Problem

/-! # Requests and responses

A request names a method and an address, and may carry an authorization and a
body with its content type. A response has a status and a body, which is empty, a
document or plain text. Requests that do not get as far as a service are answered
with plain text (`Rejection`).
-/

namespace Lodging.Http

inductive Method where
  | get
  | head
  | post
  | put
  | patch
  | delete
  | options
  | other (name : String)
deriving DecidableEq, Repr

def Method.ofName : String → Method
  | "GET" => .get
  | "HEAD" => .head
  | "POST" => .post
  | "PUT" => .put
  | "PATCH" => .patch
  | "DELETE" => .delete
  | "OPTIONS" => .options
  | name => .other name

structure Request where
  method : Method
  /-- The path and the query of the address. -/
  address : String
  authorization : Authorization
  contentType : Option String
  body : String
deriving Repr

inductive Body where
  | empty
  | document (content : Document)
  | text (content : String)
deriving Repr

structure Response where
  status : Nat
  body : Body
deriving Repr

/-- Why a request does not get as far as a service. -/
inductive Rejection where
  /-- An id in the path is none. -/
  | invalidPath
  /-- The query does not describe what is asked for. -/
  | invalidQuery
  /-- The body is not said to be a document. -/
  | unsupportedContent
  /-- The body stops being a document before anything else is wrong with it. -/
  | malformedBody
  /-- The body does not describe what is asked for, which shows before it stops
  being a document. -/
  | unfitBody
deriving DecidableEq, Repr

namespace Rejection

def status : Rejection → Nat
  | .invalidPath | .invalidQuery | .malformedBody => 400
  | .unsupportedContent => 415
  | .unfitBody => 422

def message : Rejection → String
  | .invalidPath => "Invalid URL"
  | .invalidQuery => "Failed to deserialize query string"
  | .unsupportedContent => "Expected request with `Content-Type: application/json`"
  | .malformedBody => "Failed to parse the request body as JSON"
  | .unfitBody => "Failed to deserialize the JSON body into the target type"

def response (rejection : Rejection) : Response where
  status := rejection.status
  body := .text rejection.message

end Rejection

/-- What a request that succeeded is answered. -/
structure Success where
  status : Nat
  message : String
  data : Document
deriving Repr

/-- The response to a request that succeeded; one without content has no body. -/
def Success.response (success : Success) : Response :=
  if success.status = 204 then { status := 204, body := .empty }
  else
    { status := success.status
      body :=
        .document
          (.record
            [("success", .bool true),
              ("message", .text success.message),
              ("data", success.data)]) }

/-- The response to a request that failed. -/
def failureResponse (failure : Failure) (now : Instant) : Response where
  status := failure.status
  body :=
    .document
      (.record
        ([("success", .bool false),
          ("errorCode", .text failure.code),
          ("message", .text failure.message)] ++
          (failure.details?.map fun details => ("details", details)).toList ++
          [("timestamp", .text now.display)]))

def Response.withoutBody (response : Response) : Response :=
  { response with body := .empty }

end Lodging.Http
