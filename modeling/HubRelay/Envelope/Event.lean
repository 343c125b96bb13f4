import HubRelay.Envelope.Context
import HubRelay.Envelope.Kind
import HubRelay.Envelope.Payload

/-!
Contract: the events that backends receive.

Owns: events, the four ways to build one, and reading and writing them as JSON.

Does not own: queues of events.
-/

namespace HubRelay

/-- What a backend is told. -/
structure Event where
  kind : EventKind
  /-- The connection that the event is about; of a notice, the registration it goes to. -/
  connectionId : String
  hub : String
  context : Context
  payload : Option Payload
deriving DecidableEq, Repr

namespace Event

def connect (hub connectionId : String) (context : Context) : Event :=
  ⟨.connect, connectionId, hub, context, none⟩

def user (hub connectionId : String) (context : Context) (payload : Payload) : Event :=
  ⟨.user, connectionId, hub, context, some payload⟩

def disconnect (hub connectionId : String) (context : Context) : Event :=
  ⟨.disconnect, connectionId, hub, context, none⟩

def service (hub registrationId : String) (payload : Payload) : Event :=
  ⟨.service, registrationId, hub, .empty, some payload⟩

/-- An event as JSON; a missing body is left out. -/
def toJson (event : Event) : Json :=
  .object ([
      ("kind", event.kind.toJson),
      ("connection_id", .string event.connectionId),
      ("hub", .string event.hub),
      ("context", event.context.toJson)] ++
    match event.payload with
    | none => []
    | some payload => [("payload", payload.toJson)])

/-- The fields of an event that have been read. -/
structure Draft where
  kind : Option EventKind
  connectionId : Option String
  hub : Option String
  context : Option Context
  payload : Option (Option Payload)

/-- How an event is read; its context and its body may be missing. -/
def record : Json.Record Draft Event where
  blank := ⟨none, none, none, none, none⟩
  slot draft
    | "kind" => .of draft.kind EventKind.read fun found => { draft with kind := some found }
    | "connection_id" => .of draft.connectionId Json.readText fun found =>
        { draft with connectionId := some found }
    | "hub" => .of draft.hub Json.readText fun found => { draft with hub := some found }
    | "context" => .of draft.context Context.read fun found => { draft with context := some found }
    | "payload" => .of draft.payload (Json.readOption Payload.read) fun found =>
        { draft with payload := some found }
    | _ => .unknown
  names := ["kind", "connection_id", "hub", "context", "payload"]
  complete? draft := do
    let kind ← draft.kind
    let connectionId ← draft.connectionId
    let hub ← draft.hub
    some ⟨kind, connectionId, hub, draft.context.getD .empty, draft.payload.getD none⟩

def read : Json.Reader Event :=
  record.read

end Event

end HubRelay
