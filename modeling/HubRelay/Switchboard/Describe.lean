import HubRelay.Switchboard.Registry
import HubRelay.Text.Quoted

/-!
Contract: backends, clients and registries described for people to read.

Owns: the layout of these descriptions.

Does not own: the quotes of the texts in them.
-/

namespace HubRelay

def listed (items : List String) : String :=
  String.intercalate ", " items

/-- A name with what it is made of, in braces. -/
def described (name : String) (fields : List (String × String)) : String :=
  name ++ " \x7b " ++ listed (fields.map fun (field, value) => field ++ ": " ++ value) ++ " \x7d"

def Backend.describe (backend : Backend) : String :=
  described "ServerConnection" [
    ("id", Text.quoted backend.id),
    ("hub", Text.quoted backend.hub),
    ("identity", Text.quoted backend.identity),
    ("interested_events", "\x7b" ++ listed (backend.events.map Text.quoted) ++ "\x7d"),
    ("closed", if backend.queue.closed then "true" else "false")]

def HandshakeState.describe : HandshakeState → String
  | .pending => "Pending"
  | .approved none => "Approved(None)"
  | .approved (some protocol) => "Approved(Some(" ++ Text.quoted protocol ++ "))"
  | .rejected reason => "Rejected(" ++ Text.quoted reason ++ ")"
  | .timedOut => "TimedOut"

def Client.describe (client : Client) : String :=
  described "ClientConnection" [
    ("id", Text.quoted client.id),
    ("hub", Text.quoted client.hub),
    ("backend_id", Text.quoted client.backendId),
    ("state", client.handshake.state.describe)]

def HubStats.describe (stats : HubStats) : String :=
  described "HubStats" [
    ("backends", toString stats.backends),
    ("clients", toString stats.clients),
    ("approved_clients", toString stats.approvedClients)]

/-- A registry described, with its counts. -/
def Registry.describe (registry : Registry) (stats : HubStats) : String :=
  described "HubRegistry" [
    ("hub", Text.quoted registry.hub),
    ("strategy", Text.quoted registry.selection.policy.name),
    ("stats", stats.describe)]

end HubRelay
