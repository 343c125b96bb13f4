import HubRelay.Json.Choice
import HubRelay.Json.Printer

/-!
Contract: the kinds of events.

Owns: the four kinds, their names, and reading and writing them as JSON.

Does not own: what an event of a kind carries.
-/

namespace HubRelay

/-- The kind of an event. -/
inductive EventKind where
  /-- A client asks to connect and waits for approval. -/
  | connect
  /-- An approved client sent a message. -/
  | user
  /-- An approved client went away. -/
  | disconnect
  /-- A notice to a backend that concerns no client. -/
  | service
deriving DecidableEq, Repr

namespace EventKind

def name : EventKind → String
  | .connect => "connect"
  | .user => "user"
  | .disconnect => "disconnect"
  | .service => "service"

def ofName? : String → Option EventKind
  | "connect" => some .connect
  | "user" => some .user
  | "disconnect" => some .disconnect
  | "service" => some .service
  | _ => none

/-- A kind as JSON: its name. -/
def toJson (kind : EventKind) : Json :=
  .string kind.name

def read : Json.Reader EventKind :=
  Json.readName ofName?

/-- The name of a kind is the name of that kind only. -/
theorem ofName?_name (kind : EventKind) : ofName? kind.name = some kind := by
  cases kind <;> rfl

end EventKind

end HubRelay
