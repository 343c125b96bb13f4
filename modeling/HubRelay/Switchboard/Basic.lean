import HubRelay.EventQueue
import HubRelay.Handshake
import HubRelay.Identifier
import HubRelay.Switchboard.Settings

/-!
Contract: the state of a switchboard.

Owns: backends, clients, registries and the map of hubs, and reading and changing one of them.

Does not own: what happens to them.

Backends, clients and registries are kept under keys, which are given out in order and never
again.  A backend that has left its registry is kept, because its queue can still be read, and so
is a client, because its handshake can still be looked at.
-/

namespace HubRelay

/-- The key of a backend. -/
abbrev BackendKey := Nat

/-- The key of a client. -/
abbrev ClientKey := Nat

/-- The key of a registry. -/
abbrev RegistryKey := Nat

/-- A backend that was registered. -/
structure Backend where
  id : String
  hub : String
  /-- The registry that it was added to. -/
  registry : RegistryKey
  /-- What the backend calls itself. -/
  identity : String
  /-- The names of the events that it wants, ascending. -/
  events : List String
  queue : EventQueue

def Backend.wants (backend : Backend) (event : String) : Bool :=
  backend.events.contains event

/-- A client that was routed to a backend. -/
structure Client where
  id : String
  hub : String
  /-- The registry that it was added to. -/
  registry : RegistryKey
  /-- The id of the backend that it was routed to. -/
  backendId : String
  context : Context
  handshake : Handshake
  /-- What has been handed over for the client and not been written yet; present while its relay
  runs. -/
  outbound : Option (List Payload)
  /-- How many wait for the handshake, apart from a relay. -/
  waiters : Nat

/-- The backends and clients of one hub. -/
structure Registry where
  hub : String
  selection : Selection
  queueCapacity : Nat
  handshakeTimeout : Nat
  /-- In the order of their registration. -/
  backends : List BackendKey
  clients : List ClientKey

def Registry.start (hub : String) (policy : SelectionPolicy)
    (queueCapacity handshakeTimeout : Nat) : Registry :=
  ⟨hub, .start policy, queueCapacity, handshakeTimeout, [], []⟩

def Registry.isEmpty (registry : Registry) : Bool :=
  registry.backends.isEmpty && registry.clients.isEmpty

/-- Everything that a switchboard knows. -/
structure Switchboard where
  settings : Settings
  /-- The time in milliseconds. -/
  now : Nat
  /-- Whether it has been shut down. -/
  stopped : Bool
  /-- How many ids have been given out. -/
  issued : Nat
  registries : List Registry
  /-- The registry of each hub. -/
  hubs : Dictionary RegistryKey
  backends : List Backend
  clients : List Client

namespace Switchboard

def start (settings : Settings) : Switchboard :=
  ⟨settings, 0, false, 0, [], .empty, [], []⟩

def backend? (board : Switchboard) (key : BackendKey) : Option Backend :=
  board.backends[key]?

def client? (board : Switchboard) (key : ClientKey) : Option Client :=
  board.clients[key]?

def registryOf? (board : Switchboard) (key : RegistryKey) : Option Registry :=
  board.registries[key]?

def hub? (board : Switchboard) (hub : String) : Option RegistryKey :=
  board.hubs.get? hub

def updateBackend (board : Switchboard) (key : BackendKey) (change : Backend → Backend) :
    Switchboard :=
  { board with backends := board.backends.modify key change }

def updateClient (board : Switchboard) (key : ClientKey) (change : Client → Client) :
    Switchboard :=
  { board with clients := board.clients.modify key change }

def updateRegistry (board : Switchboard) (key : RegistryKey) (change : Registry → Registry) :
    Switchboard :=
  { board with registries := board.registries.modify key change }

def setQueue (board : Switchboard) (key : BackendKey) (queue : EventQueue) : Switchboard :=
  board.updateBackend key fun backend => { backend with queue := queue }

/-- Put a handshake in place of the one of a client. -/
def setHandshake (board : Switchboard) (key : ClientKey) (handshake : Handshake) : Switchboard :=
  board.updateClient key fun client => { client with handshake := handshake }

def nextId (board : Switchboard) : String :=
  Identifier.ofSerial board.issued

end Switchboard

end HubRelay
