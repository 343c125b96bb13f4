import HubRelay.Envelope.Interest
import HubRelay.Switchboard.Basic

/-!
Contract: what happens in one registry.

Owns: adding and removing backends and clients, picking a backend for an event, taking an empty
registry off the map of hubs, and counts.

Does not own: finding the registry of a hub.

Removing an entry and taking a registry off the map are two steps.  Others may come between them,
so the second one looks again whether the registry is empty and still the one of its hub.

The queue of a backend is made before the backend is added.  Where it cannot be made, adding breaks
off there, and the registry stays as it was.
-/

namespace HubRelay

namespace Switchboard

/-- Put a new backend into a registry. -/
def placeBackend (board : Switchboard) (key : RegistryKey) (registry : Registry)
    (queue : EventQueue) (identity : String) (events : List String) : Switchboard :=
  let backend : Backend :=
    { id := board.nextId
      hub := registry.hub
      registry := key
      identity := identity
      events := Interest.sortNames events
      queue := queue }
  { board with
    issued := board.issued + 1
    backends := board.backends ++ [backend]
    registries := board.registries.modify key fun registry =>
      { registry with backends := registry.backends ++ [board.backends.length] } }

/-- Add a backend to a registry; there is none if that breaks off. -/
def tryAddBackend (board : Switchboard) (key : RegistryKey) (identity : String)
    (events : List String) : Option BackendKey × Switchboard :=
  match board.registryOf? key with
  | none => (none, board)
  | some registry =>
    match EventQueue.make? registry.queueCapacity with
    | none => (none, board)
    | some queue =>
      (some board.backends.length, board.placeBackend key registry queue identity events)

/-- Add a backend to a registry.  The key is nobody's if that breaks off. -/
def addBackend (board : Switchboard) (key : RegistryKey) (identity : String)
    (events : List String) : BackendKey × Switchboard :=
  let (added, later) := board.tryAddBackend key identity events
  (added.getD board.backends.length, later)

/-- Add a client that was routed to the backend of an id. -/
def addClient (board : Switchboard) (key : RegistryKey) (backendId : String) (context : Context) :
    ClientKey × Switchboard :=
  match board.registryOf? key with
  | none => (board.clients.length, board)
  | some registry =>
    let client : Client :=
      { id := board.nextId
        hub := registry.hub
        registry := key
        backendId := backendId
        context := context
        handshake := .start board.now registry.handshakeTimeout
        outbound := none
        waiters := 0 }
    (board.clients.length,
      { board with
        issued := board.issued + 1
        clients := board.clients ++ [client]
        registries := board.registries.modify key fun registry =>
          { registry with clients := registry.clients ++ [board.clients.length] } })

def isCandidate (board : Switchboard) (event : String) (key : BackendKey) : Bool :=
  match board.backend? key with
  | some backend => !backend.queue.closed && backend.wants event
  | none => false

/-- The backends of a registry that an event may go to, in the order of their registration. -/
def candidates (board : Switchboard) (registry : Registry) (event : String) : List BackendKey :=
  registry.backends.filter (board.isCandidate event)

def selectBackend (board : Switchboard) (key : RegistryKey) (event : String) :
    Option BackendKey × Switchboard :=
  match board.registryOf? key with
  | none => (none, board)
  | some registry =>
    let (picked, selection) := registry.selection.choose (board.candidates registry event)
    (picked, board.updateRegistry key fun registry => { registry with selection := selection })

def findClient (board : Switchboard) (key : RegistryKey) (id : String) : Option ClientKey :=
  match board.registryOf? key with
  | none => none
  | some registry => registry.clients.find? fun client => (board.client? client).map (·.id) = some id

def findBackend (board : Switchboard) (key : RegistryKey) (id : String) : Option BackendKey :=
  match board.registryOf? key with
  | none => none
  | some registry =>
    registry.backends.find? fun backend => (board.backend? backend).map (·.id) = some id

def removeBackend (board : Switchboard) (key : RegistryKey) (backend : BackendKey) : Switchboard :=
  board.updateRegistry key fun registry =>
    { registry with backends := registry.backends.filter (· ≠ backend) }

def removeClient (board : Switchboard) (key : RegistryKey) (client : ClientKey) : Switchboard :=
  board.updateRegistry key fun registry =>
    { registry with clients := registry.clients.filter (· ≠ client) }

/-- Take a registry off the map of hubs if it is the one of its hub and holds nothing. -/
def prune (board : Switchboard) (key : RegistryKey) : Switchboard :=
  match board.registryOf? key with
  | none => board
  | some registry =>
    if board.hub? registry.hub = some key ∧ registry.isEmpty then
      { board with hubs := board.hubs.erase registry.hub }
    else board

end Switchboard

/-- What is counted in a registry. -/
structure HubStats where
  backends : Nat
  clients : Nat
  approvedClients : Nat
deriving DecidableEq, Repr

namespace HubStats

def toJson (stats : HubStats) : Json :=
  let count (value : Nat) : Json := ((Json.Number.ofNat? value).map .number).getD .null
  .object [("backends", count stats.backends), ("clients", count stats.clients),
    ("approved_clients", count stats.approvedClients)]

end HubStats

namespace Switchboard

/-- Whether the handshake of a client ended in approval. -/
def isApproved (board : Switchboard) (key : ClientKey) : Bool :=
  match board.client? key with
  | some client => client.handshake.state.isApproved
  | none => false

def registryStats (board : Switchboard) (registry : Registry) : HubStats :=
  { backends := registry.backends.length
    clients := registry.clients.length
    approvedClients := (registry.clients.filter board.isApproved).length }

end Switchboard

end HubRelay
