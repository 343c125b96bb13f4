import HubRelay.Http.Message
import HubRelay.Text.Percent
import HubRelay.Text.Pieces

/-!
Contract: what a path names.

Owns: the resources of the web interface, the path of each, and the hub in a path.

Does not own: what is done with a resource.
-/

namespace HubRelay.Http

/-- What a path names; a hub is kept as it is written. -/
inductive Resource where
  /-- Whether the program runs. -/
  | alive
  /-- Whether the program takes requests. -/
  | ready
  /-- How the program is. -/
  | health
  /-- Where clients connect. -/
  | client (hub : List Char)
  /-- Where backends listen. -/
  | server (hub : List Char)
  /-- Where clients are decided about. -/
  | approvals (hub : List Char)
  /-- Where something is sent to all clients. -/
  | broadcast (hub : List Char)
deriving DecidableEq, Repr

namespace Resource

/-- What a path names, if it names anything.

A hub is one segment.  It may be empty where more segments follow, but not at the end. -/
def ofPath? (path : List Char) : Option Resource :=
  match (Text.pieces '/' path).map String.ofList with
  | ["", "health", "live"] => some .alive
  | ["", "health", "ready"] => some .ready
  | ["", "health"] => some .health
  | ["", "client", "hubs", hub] => if hub = "" then none else some (.client hub.toList)
  | ["", "server", "hubs", hub] => if hub = "" then none else some (.server hub.toList)
  | ["", "api", "v1", "hubs", hub, "approvals"] => some (.approvals hub.toList)
  | ["", "api", "v1", "hubs", hub, "broadcast"] => some (.broadcast hub.toList)
  | _ => none

def admits : Resource → String → Bool
  | .alive, method | .ready, method | .health, method => method = "GET" || method = "HEAD"
  | .client _, method | .server _, method => method = "GET"
  | .approvals _, method | .broadcast _, method => method = "POST"

end Resource

end HubRelay.Http
