import HubRelay.Envelope.Command
import HubRelay.Switchboard.Registry

/-!
Contract: what backends, clients and operators ask of a switchboard.

Owns: registering and closing backends, their queues, routing and releasing clients, deciding
about them, waiting for decisions, sending to them, notices, counts, the clock, and shutting down.

Does not own: relays.

Every request names a hub or something that belongs to one, and touches nothing outside it.
-/

namespace HubRelay

/-- The event on which clients are routed that want to connect. -/
def connectEvent : String := "connect"

namespace Switchboard

/-! ## Hubs -/

/-- The registry of a hub, which is made if the hub has none. -/
def openHub (board : Switchboard) (hub : String) : RegistryKey × Switchboard :=
  match board.hub? hub with
  | some key => (key, board)
  | none =>
    let settings := board.settings
    let registry := Registry.start hub settings.selection settings.queueCapacity
      settings.handshakeTimeout
    (board.registries.length,
      { board with
        registries := board.registries ++ [registry]
        hubs := board.hubs.insert hub board.registries.length })

/-- The names of all hubs, ascending. -/
def hubNames (board : Switchboard) : List String :=
  board.hubs.names

def hubStats (board : Switchboard) (hub : String) : Option HubStats :=
  ((board.hub? hub).bind board.registryOf?).map board.registryStats

/-- The counts of all hubs, ascending by name. -/
def stats (board : Switchboard) : List (String × HubStats) :=
  board.hubs.entries.filterMap fun (name, key) =>
    (board.registryOf? key).map fun registry => (name, board.registryStats registry)

/-! ## Backends -/

/-- Register a backend with a hub; there is none if that breaks off.

The hub is opened before the backend is added, and stays open if that breaks off. -/
def tryRegister (board : Switchboard) (hub identity : String) (events : List String) :
    Option BackendKey × Switchboard :=
  let (key, board) := board.openHub hub
  board.tryAddBackend key identity events

/-- Register a backend with a hub.  The key is nobody's if that breaks off. -/
def register (board : Switchboard) (hub identity : String) (events : List String) :
    BackendKey × Switchboard :=
  let (added, later) := board.tryRegister hub identity events
  (added.getD board.backends.length, later)

def enqueue (board : Switchboard) (key : BackendKey) (event : Event) :
    Except RouteError Unit × Switchboard :=
  match board.backend? key with
  | none => (.error .closed, board)
  | some backend =>
    match backend.queue.enqueue event with
    | .ok queue => (.ok (), board.setQueue key queue)
    | .error error => (.error error, board)

/-- Take the oldest event out of the queue of a backend. -/
def receive (board : Switchboard) (key : BackendKey) : EventQueue.Received × Switchboard :=
  match board.backend? key with
  | none => (.finished, board)
  | some backend =>
    let (received, queue) := backend.queue.receive
    (received, board.setQueue key queue)

/-- Write the events that wait for a backend to its stream. -/
def flush (board : Switchboard) (key : BackendKey) (outcomes : List EventQueue.WriteOutcome) :
    EventQueue.FlushEnd × List Event × Switchboard :=
  match board.backend? key with
  | none => (.flushed 0, [], board)
  | some backend =>
    let (ending, written, queue) := backend.queue.flush outcomes
    (ending, written, board.setQueue key queue)

/-- Write the events that wait for a backend to its stream, and go on as events come. -/
def drain (board : Switchboard) (key : BackendKey) (outcomes : List EventQueue.WriteOutcome) :
    EventQueue.DrainEnd × List Event × Switchboard :=
  match board.backend? key with
  | none => (.finished, [], board)
  | some backend =>
    let (ending, written, queue) := backend.queue.drain outcomes
    (ending, written, board.setQueue key queue)

/-- Close a backend: its queue takes no more events, and its hub forgets it.

Closing it again changes nothing. -/
def closeBackend (board : Switchboard) (key : BackendKey) : Switchboard :=
  match board.backend? key with
  | none => board
  | some backend =>
    if backend.queue.closed then board
    else
      let board := board.setQueue key backend.queue.close
      (board.removeBackend backend.registry key).prune backend.registry

/-- Close a backend and forget the events that wait for it. -/
def dropBackend (board : Switchboard) (key : BackendKey) : Switchboard :=
  (board.closeBackend key).updateBackend key fun backend =>
    { backend with queue := backend.queue.discard }

/-- Put a notice into the queue of each backend in a list that has room; count those. -/
def notifyAll (board : Switchboard) (hub : String) (payload : Payload) :
    List BackendKey → Nat × Switchboard
  | [] => (0, board)
  | key :: keys =>
    let id := ((board.backend? key).map (·.id)).getD ""
    match board.enqueue key (.service hub id payload) with
    | (.ok (), board) =>
      let (count, board) := board.notifyAll hub payload keys
      (count + 1, board)
    | (.error _, board) => board.notifyAll hub payload keys

/-- Put a notice into the queue of each backend of a hub that has room; count those. -/
def notify (board : Switchboard) (hub : String) (payload : Payload) : Nat × Switchboard :=
  match (board.hub? hub).bind board.registryOf? with
  | none => (0, board)
  | some registry => board.notifyAll hub payload registry.backends

/-! ## Clients -/

/-- Route a client to a backend of a hub that wants an event.

The client is added only once a backend has been found. -/
def route (board : Switchboard) (hub : String) (context : Context) (event : String) :
    Except RouteError (BackendKey × ClientKey) × Switchboard :=
  match board.hub? hub with
  | none => (.error (.noRoute hub event), board)
  | some key =>
    match board.selectBackend key event with
    | (none, board) => (.error (.noRoute hub event), board)
    | (some backend, board) =>
      let backendId := ((board.backend? backend).map (·.id)).getD ""
      let (client, board) := board.addClient key backendId context
      (.ok (backend, client), board)

/-- Let go of a client: nothing more can be handed over for it, and its hub forgets it. -/
def dropClient (board : Switchboard) (key : ClientKey) : Switchboard :=
  match board.client? key with
  | none => board
  | some client =>
    let board := board.updateClient key fun client => { client with outbound := none }
    (board.removeClient client.registry key).prune client.registry

def decide (board : Switchboard) (key : ClientKey) (decision : Decision) :
    Except AcknowledgeError Unit × Switchboard :=
  match board.client? key with
  | none => (.error .unknownConnection, board)
  | some client =>
    let (answer, handshake) := client.handshake.acknowledge board.now decision
    (answer, board.setHandshake key handshake)

/-- Apply the decision of an approval message, and tell why if it is not applied. -/
def tryAcknowledge (board : Switchboard) (hub : String) (approval : Approval) :
    Except AcknowledgeError Unit × Switchboard :=
  match board.hub? hub with
  | none => (.error .unknownHub, board)
  | some key =>
    match board.findClient key approval.connectionId with
    | none => (.error .unknownConnection, board)
    | some client => board.decide client approval.decision

/-- Apply the decision of an approval message if it can be applied. -/
def acknowledge (board : Switchboard) (hub : String) (approval : Approval) : Switchboard :=
  (board.tryAcknowledge hub approval).2

/-- Somebody starts to wait for the handshake of a client. -/
def watch (board : Switchboard) (key : ClientKey) : Switchboard :=
  board.updateClient key fun client => { client with waiters := client.waiters + 1 }

/-- Somebody stops waiting for the handshake of a client. -/
def unwatch (board : Switchboard) (key : ClientKey) : Switchboard :=
  board.updateClient key fun client => { client with waiters := client.waiters - 1 }

/-- Let those who wait for the handshake of a client, if there are any, look whether it is over. -/
def lookAfter (board : Switchboard) (key : ClientKey) : Switchboard :=
  match board.client? key with
  | none => board
  | some client =>
    if client.waiters = 0 then board
    else board.setHandshake key (client.handshake.poll board.now).2

/-- Hand a payload over for a client, which only succeeds while its relay runs. -/
def send (board : Switchboard) (key : ClientKey) (payload : Payload) : Bool × Switchboard :=
  match (board.client? key).bind (·.outbound) with
  | none => (false, board)
  | some waiting =>
    (true, board.updateClient key fun client =>
      { client with outbound := some (waiting ++ [payload]) })

/-- Hand a payload over for each client in a list; count those whose relays run. -/
def sendAll (board : Switchboard) (payload : Payload) : List ClientKey → Nat × Switchboard
  | [] => (0, board)
  | key :: keys =>
    let (sent, board) := board.send key payload
    let (count, board) := board.sendAll payload keys
    (if sent then count + 1 else count, board)

/-- Hand a payload over for every client of a hub; count those whose relays run. -/
def broadcast (board : Switchboard) (hub : String) (payload : Payload) : Nat × Switchboard :=
  match (board.hub? hub).bind board.registryOf? with
  | none => (0, board)
  | some registry => board.sendAll payload registry.clients

/-- Hand a payload over for the client of an id in a hub. -/
def sendToConnection (board : Switchboard) (hub connectionId : String) (payload : Payload) :
    Bool × Switchboard :=
  match (board.hub? hub).bind (board.findClient · connectionId) with
  | none => (false, board)
  | some client => board.send client payload

def applyCommand (board : Switchboard) (hub : String) : Command → Switchboard
  | .approve approval => board.acknowledge hub approval
  | .sendToAll payload => (board.broadcast hub payload).2
  | .sendToConnection connectionId payload => (board.sendToConnection hub connectionId payload).2

/-! ## Time and shutting down -/

def pass (board : Switchboard) (milliseconds : Nat) : Switchboard :=
  { board with now := board.now + milliseconds }

def shutdownNotice : Payload :=
  .json (.of (.object [("event", .string "shutdown")]))

/-- Put the notice into the queues of the hubs in a list. -/
def announceShutdown (board : Switchboard) : List String → Switchboard
  | [] => board
  | hub :: hubs => ((board.notify hub shutdownNotice).2).announceShutdown hubs

/-- Tell all backends, and then stop all relays. -/
def shutdown (board : Switchboard) : Switchboard :=
  { board.announceShutdown board.hubNames with stopped := true }

end Switchboard

end HubRelay
