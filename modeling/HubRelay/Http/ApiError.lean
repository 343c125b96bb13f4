import HubRelay.Json.Printer
import HubRelay.Refusal

/-!
Contract: what the web interface answers when something goes wrong.

Owns: the kinds of failures, their wording, status and code, the body of the answer, and the kind
that the failure of a relay belongs to.

Does not own: requests that cannot even be read.
-/

namespace HubRelay.Http

/-- A failure that the web interface reports, each with its detail. -/
inductive ApiError where
  /-- The request does not make sense. -/
  | validation (detail : String)
  /-- No backend takes connections for the hub. -/
  | noRoute (detail : String)
  /-- The backend turned the client away or did not answer in time. -/
  | rejected (detail : String)
  | internal (detail : String)
  /-- The backend cannot take more work. -/
  | unavailable (detail : String)
  | io (detail : String)
deriving DecidableEq, Repr

namespace ApiError

def message : ApiError → String
  | .validation detail => "Validation error: " ++ detail
  | .noRoute detail => "No route: " ++ detail
  | .rejected detail => "Connection rejected: " ++ detail
  | .internal detail => "Internal error: " ++ detail
  | .unavailable detail => "Service unavailable: " ++ detail
  | .io detail => "IO error: " ++ detail

def status : ApiError → Nat
  | .validation _ | .rejected _ => 400
  | .noRoute _ | .unavailable _ => 503
  | .internal _ | .io _ => 500

/-- The code by which programs tell failures apart. -/
def code : ApiError → String
  | .validation _ => "VALIDATION_ERROR"
  | .noRoute _ => "NO_ROUTE"
  | .rejected _ => "CONNECTION_REJECTED"
  | .internal _ => "INTERNAL_ERROR"
  | .unavailable _ => "SERVICE_UNAVAILABLE"
  | .io _ => "IO_ERROR"

/-- The body of the answer to the request of an id. -/
def body (error : ApiError) (requestId : String) : Json :=
  .object [
    ("error", .object [("code", .string error.code), ("message", .string error.message)]),
    ("request_id", .string requestId)]

def ofRelay : RelayError → ApiError
  | .route (.noRoute hub event) => .noRoute (RouteError.noRoute hub event).message
  | .route error => .unavailable error.message
  | .handshake error => .rejected error.reason
  | .transport error => .internal error.message

end ApiError

end HubRelay.Http
