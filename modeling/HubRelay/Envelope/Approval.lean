import HubRelay.Json.Choice
import HubRelay.Json.Printer
import HubRelay.Json.Record

/-!
Contract: what a backend decides about a client that waits for approval.

Owns: decisions, the messages that carry them, and reading and writing both as JSON.

Does not own: whether a decision still comes in time.
-/

namespace HubRelay

/-- What a backend decides about a waiting client. -/
inductive Decision where
  /-- Let the client in, perhaps under a protocol of the application. -/
  | approve (subProtocol : Option String)
  /-- Turn the client away. -/
  | reject (reason : String)
deriving DecidableEq, Repr

namespace Decision

/-- A decision as JSON; a protocol that was not named is left out. -/
def toJson : Decision → Json
  | .approve none => .object [("success", .object [])]
  | .approve (some protocol) => .object [("success", .object [("sub_protocol", .string protocol)])]
  | .reject reason => .object [("failure", .object [("reason", .string reason)])]

/-- How an approval is read; the protocol may be missing. -/
def approvalRecord : Json.Record (Option (Option String)) Decision where
  blank := none
  slot draft
    | "sub_protocol" => .of draft (Json.readOption Json.readText) some
    | _ => .unknown
  names := ["sub_protocol"]
  complete? draft := some (.approve (draft.getD none))

def rejectionRecord : Json.Record (Option String) Decision where
  blank := none
  slot draft
    | "reason" => .of draft Json.readText some
    | _ => .unknown
  names := ["reason"]
  complete? draft := draft.map .reject

/-- The reader of what goes with the name of an outcome. -/
def readerOf : String → Option (Json.Reader Decision)
  | "success" => some approvalRecord.read
  | "failure" => some rejectionRecord.read
  | _ => none

def read : Json.Reader Decision :=
  Json.readCarrier readerOf

end Decision

/-- A decision about the connection of an id. -/
structure Approval where
  connectionId : String
  decision : Decision
deriving DecidableEq, Repr

namespace Approval

def toJson (approval : Approval) : Json :=
  .object [("connection_id", .string approval.connectionId), ("result", approval.decision.toJson)]

/-- The fields of a message that have been read. -/
structure Draft where
  connectionId : Option String
  decision : Option Decision

def record : Json.Record Draft Approval where
  blank := ⟨none, none⟩
  slot draft
    | "connection_id" => .of draft.connectionId Json.readText fun found =>
        { draft with connectionId := some found }
    | "result" => .of draft.decision Decision.read fun found =>
        { draft with decision := some found }
    | _ => .unknown
  names := ["connection_id", "result"]
  complete? draft := do
    let connectionId ← draft.connectionId
    let decision ← draft.decision
    some ⟨connectionId, decision⟩

def read : Json.Reader Approval :=
  record.read

end Approval

end HubRelay
