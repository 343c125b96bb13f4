import HubRelay.Transport.Frame

/-!
Contract: why something that was asked for does not happen.

Owns: the causes for which a route, an event, a handshake, an acknowledgement, a write or a relay
fails, and their wording.

Does not own: what the web answers for a cause.
-/

namespace HubRelay

/-- Why a client is not routed, or an event is not queued. -/
inductive RouteError where
  /-- No backend of the hub is interested in the event. -/
  | noRoute (hub event : String)
  /-- The queue of the backend holds as much as it can. -/
  | queueFull (capacity : Nat)
  /-- The backend is gone. -/
  | closed
deriving DecidableEq, Repr

def RouteError.message : RouteError → String
  | .noRoute hub event => "No backend in hub '" ++ hub ++ "' handles event '" ++ event ++ "'"
  | .queueFull capacity => "Backend queue full (capacity: " ++ toString capacity ++ ")"
  | .closed => "Backend registration closed"

/-- How a handshake ends without an approval. -/
inductive HandshakeError where
  | rejected (reason : String)
  | timedOut
deriving DecidableEq, Repr

def HandshakeError.message : HandshakeError → String
  | .rejected reason => "Connection rejected: " ++ reason
  | .timedOut => "Connection approval timed out"

def HandshakeError.reason : HandshakeError → String
  | .rejected reason => reason
  | .timedOut => "approval timed out"

/-- Why an acknowledgement is not applied. -/
inductive AcknowledgeError where
  | unknownHub
  | unknownConnection
  /-- The handshake is over. -/
  | alreadyResolved
  /-- The acknowledgement comes at the deadline or later. -/
  | deadlineElapsed
deriving DecidableEq, Repr

def AcknowledgeError.message : AcknowledgeError → String
  | .unknownHub => "Unknown hub"
  | .unknownConnection => "Unknown connection"
  | .alreadyResolved => "Connection already resolved"
  | .deadlineElapsed => "Approval deadline elapsed"

/-- A write to the stream of a backend failed. -/
structure StreamError where
  detail : String
deriving DecidableEq, Repr

def StreamError.message (error : StreamError) : String :=
  "Backend stream write failed: " ++ error.detail

/-- Why a relay fails, or is not even opened. -/
inductive RelayError where
  | route (error : RouteError)
  | handshake (error : HandshakeError)
  | transport (error : TransportError)
deriving DecidableEq, Repr

def RelayError.message : RelayError → String
  | .route error => error.message
  | .handshake error => error.message
  | .transport error => error.message

end HubRelay
