import HubRelay.Envelope.Approval
import HubRelay.Envelope.Payload

/-!
Contract: what a backend may ask of the hub that it is registered with.

Owns: commands, requests to send to all clients, and reading both from JSON.

Does not own: carrying commands out.

The tag of a command may stand anywhere among its members.  So all other members are held back
until the whole command has been read, and what is wrong with one of them then is the data.
-/

namespace HubRelay

/-- A request to send to every client of a hub. -/
structure Broadcast where
  payload : Payload
deriving DecidableEq, Repr

namespace Broadcast

def record : Json.Record (Option Payload) Broadcast where
  blank := none
  slot draft
    | "payload" => .of draft Payload.read some
    | _ => .unknown
  names := ["payload"]
  complete? draft := draft.map Broadcast.mk

def read : Json.Reader Broadcast :=
  record.read

end Broadcast

/-- What a backend asks of its hub. -/
inductive Command where
  /-- Decide about a waiting client. -/
  | approve (approval : Approval)
  /-- Send to every client. -/
  | sendToAll (payload : Payload)
  /-- Send to one client. -/
  | sendToConnection (connectionId : String) (payload : Payload)
deriving DecidableEq, Repr

namespace Command

/-- The kinds of commands. -/
inductive Tag where
  | approve
  | sendToAll
  | sendToConnection
deriving DecidableEq, Repr

def Tag.ofName? : String → Option Tag
  | "approve" => some .approve
  | "send_to_all" => some .sendToAll
  | "send_to_connection" => some .sendToConnection
  | _ => none

/-- The fields of a command to send to one client that have been read. -/
structure SendDraft where
  connectionId : Option String
  payload : Option Payload

def sendRecord : Json.Record SendDraft Command where
  blank := ⟨none, none⟩
  slot draft
    | "connection_id" => .of draft.connectionId Json.readText fun found =>
        { draft with connectionId := some found }
    | "payload" => .of draft.payload Payload.read fun found => { draft with payload := some found }
    | _ => .unknown
  names := ["connection_id", "payload"]
  complete? draft := do
    let connectionId ← draft.connectionId
    let payload ← draft.payload
    some (.sendToConnection connectionId payload)

def readBody : Tag → Json.Reader Command
  | .approve, origin, document => (Approval.read origin document).map .approve
  | .sendToAll, origin, document =>
    (Broadcast.read origin document).map fun request => .sendToAll request.payload
  | .sendToConnection, origin, document => sendRecord.read origin document

/-- Read a tag, which must be the text of a known name. -/
def readTag : Json.Reader Tag := fun _ document => do
  let name ← document.asText
  match Tag.ofName? name with
  | some tag => .ok tag
  | none => .error .data

/-- A command of which some members have been read: the tag, and what is held back, the latest
first. -/
structure Draft where
  tag : Option Tag
  members : List (String × Json)

def record : Json.Record Draft Draft where
  blank := ⟨none, []⟩
  slot draft name :=
    if name = "type" then .of draft.tag readTag fun tag => { draft with tag := some tag }
    else .vacant fun origin document => (document.value origin).map fun value =>
      { draft with members := (name, value) :: draft.members }
  names := []
  complete? := some

def readObject (origin : Json.Origin)
    (members : List (Json.StringSpelling × Json.Document)) (closed : Bool) :
    Except Json.Fault Command := do
  let draft ← record.readObject origin members closed
  match draft.tag with
  | none => .error .data
  | some tag => (readBody tag).readHeld (.object draft.members.reverse)

/-- Read a command from the items of an array, of which the first is the tag. -/
def readArray (origin : Json.Origin) (items : List Json.Document) (closed : Bool) :
    Except Json.Fault Command := do
  let inner ← origin.enter
  match items with
  | [] => .error (if closed then .data else .malformed)
  | first :: rest =>
    let tag ← readTag inner first
    let held ← Json.Document.values inner rest
    if closed then (readBody tag).readHeld (.array held) else .error .malformed

def read : Json.Reader Command := fun origin document =>
  match document with
  | .object members closed => readObject origin members closed
  | .array items closed => readArray origin items closed
  | document => .error document.mismatch

end Command

end HubRelay
