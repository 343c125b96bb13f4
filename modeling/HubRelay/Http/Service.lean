import HubRelay.Http.ApiError
import HubRelay.Http.MediaType
import HubRelay.Http.Query
import HubRelay.Http.Route
import HubRelay.Http.Upgrade
import HubRelay.Relay.Exchange

/-!
Contract: the answers of the web interface.

Owns: what each resource does with a request, and in which order the parts of a request are
looked at.

Does not own: sockets that requests open, and which origins may see answers.
-/

namespace HubRelay.Http

/-- An answer: its status, and its body where that is JSON. -/
structure Response where
  status : Nat
  body : Option Json
deriving DecidableEq, Repr

namespace Response

def bare (status : Nat) : Response :=
  ⟨status, none⟩

/-- The answer to the request of an id that reports a failure. -/
def failure (error : ApiError) (requestId : String) : Response :=
  ⟨error.status, some (error.body requestId)⟩

end Response

/-- What is known about a request apart from what it says. -/
structure Circumstances where
  /-- The id of the request. -/
  requestId : String
  /-- For how many seconds the program has been running. -/
  uptime : Nat
deriving DecidableEq, Repr

/-- What comes of a request. -/
inductive Handling where
  | answered (response : Response)
  /-- A client waits for its approval. -/
  | clientWaits (relay : RelayKey)
  /-- A backend is to be registered. -/
  | backendListens (hub : String) (interest : Interest)

namespace Service

def version : String := "0.1.0"

def bodyLimit : Nat := 2097152

/-- How the program is, as JSON. -/
def healthReport (board : Switchboard) (uptime : Nat) : Json :=
  .object [
    ("status", .string (if board.stopped then "shutting_down" else "healthy")),
    ("hubs", .object (board.stats.map fun (name, stats) => (name, stats.toJson))),
    ("uptime_seconds", ((Json.Number.ofNat? uptime).map .number).getD .null),
    ("version", .string version)]

/-- Bytes as a text to read JSON from.

A piece that is no character stands as a letter and half a surrogate pair: out of place everywhere
but in a string, and there it makes a string without a text. -/
def jsonText (bytes : List UInt8) : List Char :=
  (Text.Utf8.pieces bytes).flatMap fun piece =>
    match piece with
    | .scalar character => [character]
    | .illFormed => ['x', '\\', 'u', 'd', 'c', '8', '0']

def faultStatus : Json.Fault → Nat
  | .malformed => 400
  | .data => 422

/-- What a body says, or the status that the request is refused with: first by what it says that
its body is, then by the length of the body, then by the body. -/
def readBody {α : Type} (reader : Json.Reader α) (request : Request) : Except Nat α :=
  if !MediaType.announcesJson request then .error 415
  else if bodyLimit < request.body.length then .error 413
  else match reader.readFront (jsonText request.body) with
    | .ok value => .ok value
    | .error fault => .error (faultStatus fault)

/-- The hub of a request and what its body says, or the status that it is refused with. -/
def readPost {α : Type} (reader : Json.Reader α) (hub : List Char) (request : Request) :
    Except Nat (String × α) :=
  match Text.Percent.decodeSegment hub with
  | none => .error 400
  | some hub => (readBody reader request).map fun value => (hub, value)

def approve (exchange : Exchange) (requestId hub : String) (approval : Approval) :
    Response × Exchange :=
  if Text.Blank.isAllBlank approval.connectionId then
    (.failure (.validation "connection_id must not be empty") requestId, exchange)
  else
    (.bare 202, { exchange with board := exchange.board.acknowledge hub approval })

def broadcast (exchange : Exchange) (hub : String) (request : Broadcast) : Response × Exchange :=
  let (sent, board) := exchange.board.broadcast hub request.payload
  (⟨202, some (.object [("sent", ((Json.Number.ofNat? sent).map .number).getD .null)])⟩,
    { exchange with board := board })

/-- Connect a client, which then waits for its approval. -/
def connect (exchange : Exchange) (requestId : String) (hub : List Char) (request : Request) :
    Handling × Exchange :=
  match Text.Percent.decodeSegment hub with
  | none => (.answered (.bare 400), exchange)
  | some hub =>
    match exchange.openRelay hub (captureContext request.headers) with
    | (.ok relay, exchange) => (.clientWaits relay, exchange.await relay)
    | (.error error, exchange) =>
      (.answered (.failure (.ofRelay error) requestId), exchange)

def listen (hub : List Char) (request : Request) : Handling :=
  match Text.Percent.decodeSegment hub with
  | none => .answered (.bare 400)
  | some hub =>
    match Query.interest? request.query with
    | none => .answered (.bare 400)
    | some interest => .backendListens hub interest

/-- Do what a request asks of a resource that it may be used on.

A request for a socket must ask for it properly before anything else is looked at. -/
def serve (exchange : Exchange) (circumstances : Circumstances) (request : Request) :
    Resource → Handling × Exchange
  | .alive => (.answered (.bare 200), exchange)
  | .ready => (.answered (.bare (if exchange.board.stopped then 503 else 200)), exchange)
  | .health =>
    (.answered ⟨200, some (healthReport exchange.board circumstances.uptime)⟩, exchange)
  | .client hub =>
    match Upgrade.refusal? request with
    | some status => (.answered (.bare status), exchange)
    | none => connect exchange circumstances.requestId hub request
  | .server hub =>
    match Upgrade.refusal? request with
    | some status => (.answered (.bare status), exchange)
    | none => (listen hub request, exchange)
  | .approvals hub =>
    match readPost Approval.read hub request with
    | .error status => (.answered (.bare status), exchange)
    | .ok (hub, approval) =>
      let (response, exchange) := approve exchange circumstances.requestId hub approval
      (.answered response, exchange)
  | .broadcast hub =>
    match readPost Broadcast.read hub request with
    | .error status => (.answered (.bare status), exchange)
    | .ok (hub, content) =>
      let (response, exchange) := broadcast exchange hub content
      (.answered response, exchange)

/-- A handling without the body of its answer, for requests that ask for the headers only. -/
def withoutBody : Handling → Handling
  | .answered response => .answered (.bare response.status)
  | handling => handling

/-- Handle a request.

A request for the options of any path is answered at once.  Of the others, first the path must
name something and then the method must fit. -/
def handle (exchange : Exchange) (circumstances : Circumstances) (request : Request) :
    Handling × Exchange :=
  if request.method = "OPTIONS" then (.answered (.bare 200), exchange)
  else match Resource.ofPath? request.path with
    | none => (.answered (.bare 404), exchange)
    | some resource =>
      if !resource.admits request.method then (.answered (.bare 405), exchange)
      else
        let (handling, exchange) := serve exchange circumstances request resource
        (if request.method = "HEAD" then withoutBody handling else handling, exchange)

end Service

end HubRelay.Http
