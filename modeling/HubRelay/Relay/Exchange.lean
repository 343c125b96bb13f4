import HubRelay.Relay.Loop

/-!
Contract: a switchboard with the relays on it.

Owns: opening a relay, waiting for approval, running, feeding, ending and dropping it; waiting for a
handshake; the passing of time; and letting everything run until nothing has anything to do.

Does not own: sockets and requests.
-/

namespace HubRelay

/-- How far a relay has come. -/
inductive RelayPhase where
  /-- The backend has been asked. -/
  | pending
  /-- Somebody waits for the answer of the backend. -/
  | awaiting
  /-- The backend did not let the client in. -/
  | refused (error : HandshakeError)
  /-- The backend let the client in. -/
  | approved (subProtocol : Option String)
  | running (loop : Loop)
  /-- The relay has stopped, and its sink is being closed. -/
  | leaving (result : Except RelayError RelayEnd) (sink : Sink)
  | ended (result : Except RelayError RelayEnd) (sink : Sink)
  /-- Somebody let go of the relay. -/
  | dropped

/-- A relay. -/
structure Relay where
  connection : Connection
  phase : RelayPhase

/-- The key of a relay. -/
abbrev RelayKey := Nat

/-- A switchboard with the relays on it. -/
structure Exchange where
  board : Switchboard
  relays : List Relay

namespace Exchange

def start (settings : Settings) : Exchange :=
  ⟨.start settings, []⟩

def relay? (exchange : Exchange) (key : RelayKey) : Option Relay :=
  exchange.relays[key]?

def phase? (exchange : Exchange) (key : RelayKey) : Option RelayPhase :=
  (exchange.relay? key).map (·.phase)

def setPhase (exchange : Exchange) (key : RelayKey) (phase : RelayPhase) : Exchange :=
  { exchange with relays := exchange.relays.modify key fun relay => { relay with phase := phase } }

/-- Route a client that wants to connect, and ask the backend about it.

If the backend cannot be asked, the client is let go at once. -/
def openRelay (exchange : Exchange) (hub : String) (context : Context) :
    Except RelayError RelayKey × Exchange :=
  match exchange.board.route hub context connectEvent with
  | (.error error, board) => (.error (.route error), { exchange with board := board })
  | (.ok (backend, client), board) =>
    let id := ((board.client? client).map (·.id)).getD ""
    match board.enqueue backend (.connect hub id context) with
    | (.error error, board) =>
      (.error (.route error), { exchange with board := board.dropClient client })
    | (.ok (), board) =>
      (.ok exchange.relays.length,
        { board := board, relays := exchange.relays ++ [⟨⟨client, backend⟩, .pending⟩] })

def await (exchange : Exchange) (key : RelayKey) : Exchange :=
  match exchange.relay? key with
  | some ⟨_, .pending⟩ => exchange.setPhase key .awaiting
  | _ => exchange

/-- Go on with a relay for which somebody waits, if the handshake is over.

A client that was not let in is let go. -/
def settleAwait (exchange : Exchange) (key : RelayKey) : Exchange :=
  match exchange.relay? key with
  | some ⟨connection, .awaiting⟩ =>
    match exchange.board.client? connection.client with
    | none => exchange
    | some client =>
      let (answer, handshake) := client.handshake.poll exchange.board.now
      let board := exchange.board.setHandshake connection.client handshake
      match answer with
      | none => exchange
      | some (.ok subProtocol) =>
        { exchange with board := board }.setPhase key (.approved subProtocol)
      | some (.error error) =>
        { exchange with board := board.dropClient connection.client }.setPhase key (.refused error)
  | _ => exchange

/-- Run a relay that was let in, between a source of frames and a sink. -/
def run (exchange : Exchange) (key : RelayKey) (source : Source) (sink : Sink) : Exchange :=
  match exchange.relay? key with
  | some ⟨connection, .approved _⟩ =>
    let board := exchange.board.updateClient connection.client fun client =>
      { client with outbound := some [] }
    let reader := MessageReader.start board.settings.messageLimit
    { exchange with board := board }.setPhase key (.running ⟨source, reader, false, sink⟩)
  | _ => exchange

def changeSource (exchange : Exchange) (key : RelayKey) (change : Source → Source) : Exchange :=
  match exchange.relay? key with
  | some ⟨_, .running loop⟩ =>
    exchange.setPhase key (.running { loop with source := change loop.source })
  | _ => exchange

/-- Give the source of a running relay more to say. -/
def feed (exchange : Exchange) (key : RelayKey) (items : List SourceItem) : Exchange :=
  exchange.changeSource key fun source => { source with items := source.items ++ items }

/-- Let the source of a running relay end after what it has to say. -/
def endSource (exchange : Exchange) (key : RelayKey) : Exchange :=
  exchange.changeSource key fun source => { source with ended := true }

def goOn (exchange : Exchange) (key : RelayKey) (result : Switchboard × Loop.Outcome) : Exchange :=
  let phase := match result.2 with
    | .running loop => RelayPhase.running loop
    | .leaving result sink => .leaving result sink
  { exchange with board := result.1 }.setPhase key phase

/-- Let a running relay take one branch, if there is anything to do along it. -/
def stepRelay (exchange : Exchange) (key : RelayKey) (branch : Loop.Branch) : Exchange :=
  match exchange.relay? key with
  | some ⟨connection, .running loop⟩ =>
    match Loop.step exchange.board connection loop branch with
    | none => exchange
    | some result => exchange.goOn key result
  | _ => exchange

/-- End a relay that has stopped, after its sink has been closed. -/
def finishRelay (exchange : Exchange) (key : RelayKey) : Exchange :=
  match exchange.relay? key with
  | some ⟨connection, .leaving result sink⟩ =>
    { exchange with board := Loop.finish exchange.board connection }.setPhase key
      (.ended result sink)
  | _ => exchange

/-- Let a running relay go on until it has nothing to do, and end it if it stops. -/
def settleRelay (exchange : Exchange) (key : RelayKey) : Exchange :=
  match exchange.relay? key with
  | some ⟨connection, .running loop⟩ =>
    (exchange.goOn key
      (Loop.settle (Loop.load exchange.board connection loop) exchange.board connection
        loop)).finishRelay key
  | _ => exchange

/-- Let go of a relay in any phase, and with it of its client.  The backend is not told. -/
def dropRelay (exchange : Exchange) (key : RelayKey) : Exchange :=
  match exchange.relay? key with
  | none => exchange
  | some relay =>
    match relay.phase with
    | .refused _ | .ended _ _ | .dropped => exchange
    | .pending | .awaiting | .approved _ | .running _ | .leaving _ _ =>
      { exchange with board := exchange.board.dropClient relay.connection.client }.setPhase key
        .dropped

/-! ## Waiting and the passing of time -/

def watch (exchange : Exchange) (key : ClientKey) : Exchange :=
  { exchange with board := exchange.board.watch key }

def unwatch (exchange : Exchange) (key : ClientKey) : Exchange :=
  { exchange with board := exchange.board.unwatch key }

/-- Let the handshake of a client time out if somebody waits for it and it is time. -/
def settleHandshake (exchange : Exchange) (key : ClientKey) : Exchange :=
  { exchange with board := exchange.board.lookAfter key }

/-- Let everything run until nothing has anything to do: first those who wait for handshakes, then
the relays, the earliest first. -/
def settle (exchange : Exchange) : Exchange :=
  let exchange := (List.range exchange.board.clients.length).foldl settleHandshake exchange
  let exchange := (List.range exchange.relays.length).foldl settleAwait exchange
  (List.range exchange.relays.length).foldl settleRelay exchange

def advance (exchange : Exchange) (milliseconds : Nat) : Exchange :=
  settle { exchange with board := exchange.board.pass milliseconds }

/-- For how long the client of a relay can still be decided about. -/
def remaining (exchange : Exchange) (key : RelayKey) : Nat :=
  match (exchange.relay? key).bind fun relay => exchange.board.client? relay.connection.client with
  | some client => client.handshake.remaining exchange.board.now
  | none => 0

/-- Wait for the handshake of a client, up to its deadline: the answer, how long it took, and the
exchange afterwards. -/
def waitFor (exchange : Exchange) (key : ClientKey) :
    Except HandshakeError (Option String) × Nat × Exchange :=
  let answer (exchange : Exchange) :=
    ((exchange.board.client? key).bind (·.handshake.state.answer?))
  let watching := (exchange.watch key).settle
  match answer watching with
  | some found => (found, 0, watching.unwatch key)
  | none =>
    let left := ((watching.board.client? key).map
      (·.handshake.remaining watching.board.now)).getD 0
    let later := watching.advance left
    ((answer later).getD (.error .timedOut), left, later.unwatch key)

end Exchange

end HubRelay
