import HubRelay.Http.CrossOrigin
import HubRelay.Http.Service
import HubRelay.SocketAddress

/-!
Contract: the web interface with its sockets.

Owns: opening sockets, what is sent over them and what they receive, cutting them off, letting
everything run until nothing has anything to do, and requests whose answer is all that is wanted.

Does not own: how requests are answered that open no socket.
-/

namespace HubRelay

/-- The key of a socket. -/
abbrev SocketKey := Nat

/-- What the far end of a socket sends. -/
inductive SocketMessage where
  | text (body : String)
  | binary (body : List UInt8)
  | ping
  | close
deriving DecidableEq, Repr

/-- What comes over a socket: messages of the far end, or that the connection fails. -/
inductive SocketInput where
  | message (message : SocketMessage)
  | failure
deriving DecidableEq, Repr

/-- What the far end of a socket receives. -/
inductive SocketNews where
  /-- The request goes on as a socket, perhaps under a protocol. -/
  | upgraded (protocol : Option String)
  /-- The request is answered and opens no socket. -/
  | answered (response : Http.Response) (origin : Option (List UInt8))
  | text (body : String)
  | binary (body : List UInt8)
  | event (event : Event)
  | closed
deriving DecidableEq, Repr

/-- What a socket is used for. -/
inductive SocketUse where
  /-- The request of a client that waits for its approval.  What the client has sent is kept, and
  also whether its connection has been cut. -/
  | waiting (relay : RelayKey) (kept : List SourceItem) (severed : Bool)
  /-- The relay of a client, so many payloads of which have been received. -/
  | relaying (relay : RelayKey) (received : Nat)
  /-- The stream of a backend, with what has come over it. -/
  | serving (backend : BackendKey) (received : List SocketInput)
  | over

/-- A socket: the headers of its request, its use, and what it received that nobody has looked at
yet. -/
structure Socket where
  headers : List Http.Header
  use : SocketUse
  news : List SocketNews

/-- The web interface with its sockets. -/
structure Gateway where
  exchange : Exchange
  origins : Http.OriginPolicy
  sockets : List Socket

namespace SocketMessage

def items : SocketMessage → List SourceItem
  | .text body => [.frame (.start .text (Text.Utf8.encodeString body) true)]
  | .binary body => [.frame (.start .binary body true)]
  | .ping => []
  | .close => [.frame .close]

end SocketMessage

/-- What the relay of a client meets where the connection is cut. -/
def SourceItem.cut : SourceItem :=
  .failure (.io "connection reset without closing handshake")

namespace SocketNews

def ofPayload (payload : Payload) : SocketNews :=
  match payload with
  | .binary body => .binary body
  | .text body => .text body
  | .json body => .text body.value.text

end SocketNews

namespace Gateway

def start (settings : Settings) (origins : List String) : Gateway :=
  ⟨.start settings, .ofList origins, []⟩

def socket? (gateway : Gateway) (key : SocketKey) : Option Socket :=
  gateway.sockets[key]?

def use? (gateway : Gateway) (key : SocketKey) : Option SocketUse :=
  (gateway.socket? key).map (·.use)

/-- Put a socket to another use, after it received something. -/
def updateSocket (gateway : Gateway) (key : SocketKey) (use : SocketUse)
    (news : List SocketNews) : Gateway :=
  { gateway with
    sockets := gateway.sockets.modify key fun socket =>
      { socket with use := use, news := socket.news ++ news } }

/-- Make a request, whose connection may go on as a socket.

The answer tells under what name a backend was registered, if one was: its own, else the address
of its peer. -/
def connect (gateway : Gateway) (requestId : String) (uptime : Nat) (peer : Option SocketAddress)
    (request : Http.Request) : Option String × SocketKey × Gateway :=
  let request := request.received
  let (handling, exchange) := Http.Service.handle gateway.exchange ⟨requestId, uptime⟩ request
  let add (exchange : Exchange) (use : SocketUse) (news : List SocketNews) : Gateway :=
    { gateway with
      exchange := exchange
      sockets := gateway.sockets ++ [⟨request.headers, use, news⟩] }
  let key := gateway.sockets.length
  match handling with
  | .answered response =>
    (none, key, add exchange .over
      [.answered response (gateway.origins.allowed request.headers)])
  | .clientWaits relay => (none, key, add exchange (.waiting relay [] false) [])
  | .backendListens hub interest =>
    let identity := (interest.name.or (peer.map (·.text))).getD "unknown"
    match exchange.board.tryRegister hub identity interest.eventNames with
    | (some backend, board) =>
      (some identity, key,
        add { exchange with board := board } (.serving backend []) [.upgraded none])
    | (none, board) =>
      -- the socket is open by then, and is cut with whatever was to serve it
      (none, key, add { exchange with board := board } .over [.upgraded none, .closed])

def send (gateway : Gateway) (key : SocketKey) (message : SocketMessage) : Gateway :=
  match gateway.use? key with
  | some (.waiting relay kept severed) =>
    let items := if severed then [] else message.items
    gateway.updateSocket key (.waiting relay (kept ++ items) severed) []
  | some (.relaying relay _) =>
    { gateway with exchange := gateway.exchange.feed relay message.items }
  | some (.serving backend received) =>
    gateway.updateSocket key (.serving backend (received ++ [.message message])) []
  | some .over | none => gateway

/-- Put a socket to no use any more, whatever it received. -/
def abandon (gateway : Gateway) (key : SocketKey) : Gateway :=
  { gateway with
    sockets := gateway.sockets.modify key fun socket => { socket with use := .over, news := [] } }

/-- Carry out what came from the backend of a hub, up to the end of its stream; whether that end was
reached.

Only texts that are commands have an effect. -/
def receiveCommands (board : Switchboard) (hub : String) :
    List SocketInput → Bool × Switchboard
  | [] => (false, board)
  | .failure :: _ | .message .close :: _ => (true, board)
  | .message (.text body) :: received =>
    match Command.read.readText body.toList with
    | .ok command => receiveCommands (board.applyCommand hub command) hub received
    | .error _ => receiveCommands board hub received
  | .message (.binary _) :: received | .message .ping :: received =>
    receiveCommands board hub received

/-- Carry out what a backend has sent, and close it if its stream has ended. -/
def settleCommands (gateway : Gateway) (key : SocketKey) : Gateway :=
  match gateway.use? key with
  | some (.serving backend received) =>
    let hub := ((gateway.exchange.board.backend? backend).map (·.hub)).getD ""
    let (ended, board) := receiveCommands gateway.exchange.board hub received
    if ended then
      { gateway with exchange := { gateway.exchange with board := board.dropBackend backend }
        : Gateway }.updateSocket key .over [.closed]
    else
      { gateway with exchange := { gateway.exchange with board := board }
        : Gateway }.updateSocket key (.serving backend []) []
  | _ => gateway

/-- The connection of a socket is cut.

A relay notices a failure, and what a backend has sent is carried out before it is closed.  A
client that waits goes on waiting: a request is not given up when its connection goes, so the cut
shows only after the client has been decided about, and after what it has sent.  Where a server does
give it up, the relay is dropped instead. -/
def cut (gateway : Gateway) (key : SocketKey) : Gateway :=
  match gateway.use? key with
  | some (.waiting relay kept severed) =>
    let items := if severed then [] else [SourceItem.cut]
    gateway.updateSocket key (.waiting relay (kept ++ items) true) []
  | some (.relaying relay _) =>
    { gateway with exchange := gateway.exchange.feed relay [.cut] : Gateway }.abandon key
  | some (.serving backend received) =>
    ((gateway.updateSocket key (.serving backend (received ++ [.failure])) []).settleCommands
      key).abandon key
  | some .over | none => gateway.abandon key

/-! ## Letting everything run -/

/-- Go on with the request of a client that has been decided about: start its relay, or answer
that it is turned away. -/
def settleWaiting (requestId : String) (gateway : Gateway) (key : SocketKey) : Gateway :=
  match gateway.socket? key with
  | some ⟨headers, .waiting relay kept severed, _⟩ =>
    match gateway.exchange.phase? relay with
    | some (.approved subProtocol) =>
      { gateway with exchange := gateway.exchange.run relay ⟨kept, false⟩ (.start none)
        : Gateway }.updateSocket key (if severed then .over else .relaying relay 0)
          [.upgraded (Http.Upgrade.agreed headers subProtocol)]
    | some (.refused error) =>
      gateway.updateSocket key .over
        [.answered (.failure (.ofRelay (.handshake error)) requestId)
          (gateway.origins.allowed headers)]
    | _ => gateway
  | _ => gateway

/-- Hand what a relay has written to its client, and tell the client when the relay has ended. -/
def settleRelaying (gateway : Gateway) (key : SocketKey) : Gateway :=
  match gateway.use? key with
  | some (.relaying relay received) =>
    match gateway.exchange.phase? relay with
    | some (.running loop) =>
      gateway.updateSocket key (.relaying relay loop.sink.written.length)
        ((loop.sink.written.drop received).map .ofPayload)
    | some (.ended _ sink) =>
      gateway.updateSocket key .over
        ((sink.written.drop received).map .ofPayload ++ [.closed])
    | _ => gateway
  | _ => gateway

/-- Hand a backend the events that wait for it.  After a shutdown its stream ends then. -/
def settleServing (gateway : Gateway) (key : SocketKey) : Gateway :=
  match gateway.use? key with
  | some (.serving backend received) =>
    let (_, events, board) := gateway.exchange.board.flush backend []
    let news := events.map SocketNews.event
    if board.stopped then
      { gateway with exchange := { gateway.exchange with board := board.dropBackend backend }
        : Gateway }.updateSocket key .over (news ++ [.closed])
    else
      { gateway with exchange := { gateway.exchange with board := board }
        : Gateway }.updateSocket key (.serving backend received) news
  | _ => gateway

/-- Let everything run until nothing has anything to do: commands of backends, then handshakes and
relays, and then what clients and backends receive. -/
def settle (gateway : Gateway) (requestId : String) : Gateway :=
  let keys := List.range gateway.sockets.length
  let gateway := keys.foldl settleCommands gateway
  let gateway := { gateway with exchange := gateway.exchange.settle }
  let gateway := keys.foldl (settleWaiting requestId) gateway
  let gateway := { gateway with exchange := gateway.exchange.settle }
  let gateway := keys.foldl settleRelaying gateway
  keys.foldl settleServing gateway

/-- For how long the client at a socket can still be decided about. -/
def remaining (gateway : Gateway) (key : SocketKey) : Nat :=
  match gateway.use? key with
  | some (.waiting relay _ _) => gateway.exchange.remaining relay
  | _ => 0

def advance (gateway : Gateway) (requestId : String) (milliseconds : Nat) : Gateway :=
  { gateway with exchange := gateway.exchange.advance milliseconds : Gateway }.settle requestId

/-- Make a request and wait for its answer, which is all that is wanted: a connection that goes on
as a socket is cut then.  The answer names an origin that may see it. -/
def answer (gateway : Gateway) (requestId : String) (uptime : Nat) (request : Http.Request) :
    Http.Response × Option (List UInt8) × Gateway :=
  let (_, key, gateway) := gateway.connect requestId uptime none request
  let gateway := gateway.settle requestId
  let left := gateway.remaining key
  let gateway := if left = 0 then gateway else gateway.advance requestId left
  let response := match ((gateway.socket? key).map (·.news)).getD [] with
    | .answered response _ :: _ => response
    | _ => .bare 101
  (response, gateway.origins.allowed request.received.headers, gateway.cut key)

/-- What the sockets have received since somebody looked last. -/
def collect (gateway : Gateway) : List (SocketKey × SocketNews) × Gateway :=
  ((List.range gateway.sockets.length).flatMap fun key =>
      (((gateway.socket? key).map (·.news)).getD []).map fun item => (key, item),
    { gateway with sockets := gateway.sockets.map fun socket => { socket with news := [] } })

end Gateway

end HubRelay
