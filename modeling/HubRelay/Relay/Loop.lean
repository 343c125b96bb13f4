import HubRelay.Switchboard.Routing
import HubRelay.Transport.MessageReader

/-!
Contract: what a relay does between a client and its backend.

Owns: the sink toward the client, the state of a running relay, the branches among which it
chooses, one step along a branch, and how it stops and ends.

Does not own: opening relays and waiting for approval.

A relay that takes another branch gives up the attempt to read that it was in.  The message under
way belongs to the reader, so nothing of it is lost; an attempt that was held up is over.
-/

namespace HubRelay

/-- The way to a client: how many payloads it still takes, if not all, and what became of it. -/
structure Sink where
  room : Option Nat
  /-- How it fails when it takes no more. -/
  failure : TransportError
  written : List Payload
  /-- The payload that it failed on. -/
  refused : Option Payload
  closes : Nat
deriving DecidableEq, Repr

namespace Sink

/-- A way to a client on which nothing has been written. -/
def start (room : Option Nat) (failure : TransportError := .io "sink closed") : Sink :=
  ⟨room, failure, [], none, 0⟩

/-- Write one payload: how that fails, if it does, and the way afterwards. -/
def write (sink : Sink) (payload : Payload) : Option TransportError × Sink :=
  match sink.room with
  | none => (none, { sink with written := sink.written ++ [payload] })
  | some 0 => (some sink.failure, { sink with refused := some payload })
  | some (room + 1) =>
    (none, { sink with room := some room, written := sink.written ++ [payload] })

def close (sink : Sink) : Sink :=
  { sink with closes := sink.closes + 1 }

/-- All payloads that were passed on to be written, in their order. -/
def passed (sink : Sink) : List Payload :=
  sink.written ++ sink.refused.toList

end Sink

/-- Why a relay stops that has not failed. -/
inductive RelayEnd where
  /-- The client left. -/
  | closed
  /-- The switchboard was shut down. -/
  | cancelled
deriving DecidableEq, Repr

/-- The state of a running relay. -/
structure Loop where
  source : Source
  reader : MessageReader
  /-- Whether the source holds up the attempt to read. -/
  stalled : Bool
  sink : Sink
deriving DecidableEq, Repr

/-- Who is connected by a relay. -/
structure Connection where
  client : ClientKey
  backend : BackendKey
deriving DecidableEq, Repr

namespace Loop

/-- What comes out of a step. -/
inductive Outcome where
  | running (loop : Loop)
  /-- The relay has stopped, and its sink is being closed. -/
  | leaving (result : Except RelayError RelayEnd) (sink : Sink)

/-- Stop a relay: nothing more is handed over for the client, and its sink is closed, which may
take a while. -/
def leave (board : Switchboard) (connection : Connection) (loop : Loop)
    (result : Except RelayError RelayEnd) : Switchboard × Outcome :=
  (board.updateClient connection.client fun client => { client with outbound := none },
    .leaving result loop.sink.close)

/-- Tell the backend that the client has left, where departures are announced. -/
def announceDeparture (board : Switchboard) (connection : Connection) : Switchboard :=
  match board.client? connection.client with
  | none => board
  | some client =>
    if board.settings.announcesDepartures then
      (board.enqueue connection.backend (.disconnect client.hub client.id client.context)).2
    else board

/-- End a relay whose sink has been closed: the backend is told, and the client is let go. -/
def finish (board : Switchboard) (connection : Connection) : Switchboard :=
  (announceDeparture board connection).dropClient connection.client

/-- The branches among which a relay chooses. -/
inductive Branch where
  /-- Notice that the switchboard was shut down. -/
  | stop
  /-- Write what was handed over for the client. -/
  | outbound
  /-- Read what the client sends. -/
  | inbound
deriving DecidableEq, Repr

def stepStop (board : Switchboard) (connection : Connection) (loop : Loop) :
    Option (Switchboard × Outcome) :=
  if board.stopped then some (leave board connection loop (.ok .cancelled)) else none

/-- Write the oldest payload that was handed over for the client. -/
def stepOutbound (board : Switchboard) (connection : Connection) (loop : Loop) :
    Option (Switchboard × Outcome) :=
  match (board.client? connection.client).bind (·.outbound) with
  | none | some [] => none
  | some (payload :: waiting) =>
    let board := board.updateClient connection.client fun client =>
      { client with outbound := some waiting }
    match loop.sink.write payload with
    | (none, sink) => some (board, .running { loop with sink := sink, stalled := false })
    | (some error, sink) =>
      some (leave board connection { loop with sink := sink } (.error (.transport error)))

/-- Put a message of the client into the queue of its backend. -/
def pass (board : Switchboard) (connection : Connection) (payload : Payload) :
    Except RouteError Unit × Switchboard :=
  match board.client? connection.client with
  | none => (.ok (), board)
  | some client =>
    board.enqueue connection.backend (.user client.hub client.id client.context payload)

def stepInbound (board : Switchboard) (connection : Connection) (loop : Loop) :
    Option (Switchboard × Outcome) :=
  if loop.stalled then none
  else
    let (outcome, reader, source) := loop.reader.read loop.source
    let loop' := { loop with reader := reader, source := source }
    match outcome with
    | .waiting => if loop.source.items.isEmpty then none else some (board, .running loop')
    | .stalled => some (board, .running { loop' with stalled := true })
    | .answer (.error error) => some (leave board connection loop' (.error (.transport error)))
    | .answer (.ok none) => some (leave board connection loop' (.ok .closed))
    | .answer (.ok (some payload)) =>
      match pass board connection payload with
      | (.ok (), board) => some (board, .running loop')
      | (.error error, board) => some (leave board connection loop' (.error (.route error)))

/-- Take one branch, if there is anything to do along it. -/
def step (board : Switchboard) (connection : Connection) (loop : Loop) :
    Branch → Option (Switchboard × Outcome)
  | .stop => stepStop board connection loop
  | .outbound => stepOutbound board connection loop
  | .inbound => stepInbound board connection loop

/-- Take steps until there is nothing to do; of several branches the first one is taken.  The fuel
bounds the steps. -/
def settle : Nat → Switchboard → Connection → Loop → Switchboard × Outcome
  | 0, board, _, loop => (board, .running loop)
  | fuel + 1, board, connection, loop =>
    let next := (stepStop board connection loop).or <|
      (stepOutbound board connection loop).or (stepInbound board connection loop)
    match next with
    | none => (board, .running loop)
    | some (board, .running loop) => settle fuel board connection loop
    | some (board, .leaving result sink) => (board, .leaving result sink)

/-- How much a relay can have to do: each step that does not stop it uses up a payload or an item
of its source. -/
def load (board : Switchboard) (connection : Connection) (loop : Loop) : Nat :=
  (((board.client? connection.client).bind (·.outbound)).getD []).length +
    loop.source.items.length + 1

end Loop

end HubRelay
