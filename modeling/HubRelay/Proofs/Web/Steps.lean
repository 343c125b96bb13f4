import HubRelay.Proofs.Exchange.Stretch
import HubRelay.Proofs.Web.Calls

/-!
Contract: everything that can happen at the web interface, one thing after the other.

Owns: the steps of sockets and of everybody else, carrying them out, the actions that they are made
of, journals of all steps with what the far ends of sockets were told, and induction along a
journal.

Does not own: what sockets are told, and when.

Whatever runs at the web interface may be interrupted between any two steps.  A relay of a socket is
in the hands of the socket, so others can only let it go on.
-/

namespace HubRelay

/-! ## Requests that reach the exchange -/

namespace Http

/-- The hub that a request is about which properly asks to connect a client over a socket. -/
def Request.visits? (request : Request) : Option String :=
  match Resource.ofPath? request.path with
  | some (.client hub) =>
    if Upgrade.refusal? request = none then Text.Percent.decodeSegment hub else none
  | _ => none

/-- The hub that a request is about which properly asks to listen over a socket, and to what. -/
def Request.listens? (request : Request) : Option (String × Interest) :=
  match Resource.ofPath? request.path with
  | some (.server hub) =>
    if Upgrade.refusal? request = none then
      (Text.Percent.decodeSegment hub).bind fun hub =>
        (Query.interest? request.query).map fun interest => (hub, interest)
    else none
  | _ => none

namespace Service

variable {exchange : Exchange} {request : Request} {hub : String}

/-- The actions of opening a relay and waiting for its approval. -/
def visitActions (exchange : Exchange) (hub : String) (context : Context) : List Action :=
  .openRelay hub context ::
    match (exchange.openRelay hub context).1 with
    | .ok relay => [.relay relay .await]
    | .error _ => []

/-- The actions of a request. -/
def actions (exchange : Exchange) (request : Request) : List Action :=
  match request.visits?, request.approves?, request.broadcasts? with
  | some hub, _, _ => visitActions exchange hub (captureContext request.headers)
  | none, some (hub, approval), _ =>
    if Text.Blank.isAllBlank approval.connectionId then []
    else [.request (.acknowledge hub approval)]
  | none, none, some (hub, payload) => [.request (.broadcast hub payload)]
  | none, none, none => []

/-- What comes of a client that asks to connect: it waits for its approval if a relay could be
opened. -/
def visitHandling (requestId : String) : Except RelayError RelayKey → Handling
  | .ok relay => .clientWaits relay
  | .error error => .answered (.failure (.ofRelay error) requestId)

theorem method_of_refusal (proper : Upgrade.refusal? request = none) : request.method = "GET" := by
  unfold Upgrade.refusal? at proper
  split at proper
  · contradiction
  · next gets => exact Classical.not_not.1 gets

/-- A client connects by its relay, if one can be opened. -/
theorem handle_of_visits (visits : request.visits? = some hub) (exchange : Exchange)
    (circumstances : Circumstances) :
    handle exchange circumstances request =
      (visitHandling circumstances.requestId
          (exchange.openRelay hub (captureContext request.headers)).1,
        (visitActions exchange hub (captureContext request.headers)).foldl Exchange.perform
          exchange) := by
  unfold Request.visits? at visits
  split at visits
  · next segment named =>
    split at visits
    · next proper =>
      have gets := method_of_refusal proper
      have handled : handle exchange circumstances request =
          connect exchange circumstances.requestId segment request := by
        simp [handle, gets, named, Resource.admits, serve, proper]
      rw [handled, connect, visits, visitActions, List.foldl_cons, Exchange.perform]
      simp only
      cases opened : exchange.openRelay hub (captureContext request.headers) with
      | mk answer later => cases answer <;> rfl
    · contradiction
  · contradiction

/-- A backend that listens is to be registered, and nothing has happened yet. -/
theorem handle_of_listens {interest : Interest} (listens : request.listens? = some (hub, interest))
    (exchange : Exchange) (circumstances : Circumstances) :
    handle exchange circumstances request = (.backendListens hub interest, exchange) := by
  unfold Request.listens? at listens
  split at listens
  · next segment named =>
    split at listens
    · next proper =>
      obtain ⟨decoded, reads, asks⟩ := Option.bind_eq_some_iff.1 listens
      obtain ⟨asked, wants, same⟩ := Option.map_eq_some_iff.1 asks
      obtain ⟨rfl, rfl⟩ := Prod.mk.inj same
      have gets := method_of_refusal proper
      simp [handle, gets, named, Resource.admits, serve, proper, listen, reads, wants]
    · contradiction
  · contradiction

theorem withoutBody_ne {handling : Handling} {relay : RelayKey}
    (answered : handling ≠ .clientWaits relay) : withoutBody handling ≠ .clientWaits relay := by
  cases handling with
  | answered response => exact Handling.noConfusion
  | clientWaits other => exact answered
  | backendListens hub interest => exact Handling.noConfusion

/-- What is served to whoever neither connects nor calls for anything. -/
theorem serve_of_idle {resource : Resource} (named : Resource.ofPath? request.path = some resource)
    (admitted : resource.admits request.method = true) (stays : request.visits? = none)
    (silent : request.approves? = none) (still : request.broadcasts? = none) (exchange : Exchange)
    (circumstances : Circumstances) :
    (serve exchange circumstances request resource).2 = exchange ∧
      ∀ relay, (serve exchange circumstances request resource).1 ≠ .clientWaits relay := by
  cases resource with
  | alive | ready | health => exact ⟨rfl, fun _ => Handling.noConfusion⟩
  | client segment =>
    simp only [Request.visits?, named] at stays
    simp only [serve]
    split
    · exact ⟨rfl, fun _ => Handling.noConfusion⟩
    · next proper =>
      rw [if_pos proper] at stays
      rw [connect, stays]
      exact ⟨rfl, fun _ => Handling.noConfusion⟩
  | server segment =>
    simp only [serve, listen]
    split
    · exact ⟨rfl, fun _ => Handling.noConfusion⟩
    · split
      · exact ⟨rfl, fun _ => Handling.noConfusion⟩
      · split <;> exact ⟨rfl, fun _ => Handling.noConfusion⟩
  | approvals segment =>
    have posts : request.method = "POST" := by simpa [Resource.admits] using admitted
    simp only [Request.approves?, posts, named] at silent
    simp only [serve]
    cases read : readPost Approval.read segment request with
    | error status => exact ⟨rfl, fun _ => Handling.noConfusion⟩
    | ok found =>
      rw [read] at silent
      contradiction
  | broadcast segment =>
    have posts : request.method = "POST" := by simpa [Resource.admits] using admitted
    simp only [Request.broadcasts?, posts, named] at still
    simp only [serve]
    cases read : readPost Broadcast.read segment request with
    | error status => exact ⟨rfl, fun _ => Handling.noConfusion⟩
    | ok found =>
      rw [read] at still
      contradiction

/-- Whoever neither connects nor calls for anything leaves the exchange as it is, and does not
wait. -/
theorem handle_of_idle (stays : request.visits? = none) (silent : request.approves? = none)
    (still : request.broadcasts? = none) (exchange : Exchange) (circumstances : Circumstances) :
    (handle exchange circumstances request).2 = exchange ∧
      ∀ relay, (handle exchange circumstances request).1 ≠ .clientWaits relay := by
  unfold handle
  split
  · exact ⟨rfl, fun _ => Handling.noConfusion⟩
  · split
    · exact ⟨rfl, fun _ => Handling.noConfusion⟩
    · next resource named =>
      split
      · exact ⟨rfl, fun _ => Handling.noConfusion⟩
      · next admitted =>
        rw [Bool.not_eq_true, Bool.not_eq_false'] at admitted
        obtain ⟨same, answered⟩ :=
          serve_of_idle named admitted stays silent still exchange circumstances
        refine ⟨same, fun relay => ?_⟩
        simp only
        split
        · exact withoutBody_ne (answered relay)
        · exact answered relay

/-- Whatever a request asks for, its actions are what is done. -/
theorem exchange_handle (exchange : Exchange) (circumstances : Circumstances) (request : Request) :
    (handle exchange circumstances request).2 =
      (actions exchange request).foldl Exchange.perform exchange := by
  unfold actions
  cases visits : request.visits? with
  | some hub => rw [handle_of_visits visits]
  | none =>
    cases approves : request.approves? with
    | some found =>
      rw [handle_of_approves approves, approve]
      simp only
      split <;> rfl
    | none =>
      cases broadcasts : request.broadcasts? with
      | some found =>
        rw [handle_of_broadcasts broadcasts]
        rfl
      | none => exact (handle_of_idle visits approves broadcasts exchange circumstances).1

/-- A client that waits has asked to connect, and a relay was opened for it. -/
theorem visits_of_waits {circumstances : Circumstances} {relay : RelayKey}
    (waits : (handle exchange circumstances request).1 = .clientWaits relay) :
    ∃ hub, request.visits? = some hub ∧
      (exchange.openRelay hub (captureContext request.headers)).1 = .ok relay := by
  cases visits : request.visits? with
  | some hub =>
    refine ⟨hub, rfl, ?_⟩
    rw [handle_of_visits visits] at waits
    cases opened : (exchange.openRelay hub (captureContext request.headers)).1 with
    | ok other =>
      rw [opened] at waits
      rw [Handling.clientWaits.inj waits]
    | error error =>
      rw [opened] at waits
      contradiction
  | none =>
    cases approves : request.approves? with
    | some found =>
      rw [handle_of_approves approves] at waits
      contradiction
    | none =>
      cases broadcasts : request.broadcasts? with
      | some found =>
        rw [handle_of_broadcasts broadcasts] at waits
        contradiction
      | none => exact absurd waits ((handle_of_idle visits approves broadcasts _ _).2 relay)

end Service

end Http

/-! ## Steps -/

/-- The relay that a socket is used for. -/
def SocketUse.relay? : SocketUse → Option RelayKey
  | .waiting relay _ _ | .relaying relay _ => some relay
  | .serving _ _ | .over => none

namespace Gateway

/-- What can happen at the web interface. -/
inductive Step where
  | connect (requestId : String) (uptime : Nat) (peer : Option SocketAddress)
      (request : Http.Request)
  | send (key : SocketKey) (message : SocketMessage)
  | cut (key : SocketKey)
  /-- What came from a backend is carried out. -/
  | receive (key : SocketKey)
  /-- The request of a client that waits goes on, if the client has been decided about. -/
  | goOn (requestId : String) (key : SocketKey)
  /-- A client receives what its relay has written. -/
  | hand (key : SocketKey)
  /-- A backend receives the events that wait for it. -/
  | serve (key : SocketKey)
  /-- Somebody looks at what the sockets have received. -/
  | collect
  /-- Something happens on the exchange: a relay goes on, or somebody uses it who needs no
  socket. -/
  | elsewhere (action : Action)

/-- Whether an action may happen elsewhere.  What is done with the relay of a socket is up to the
socket, unless the relay goes on by itself. -/
def admits (gateway : Gateway) : Action → Bool
  | .relay key action =>
    action.isOwn || gateway.sockets.all fun socket => socket.use.relay? != some key
  | _ => true

/-- What goes on by itself may go on. -/
theorem admits_own (gateway : Gateway) {action : Action} (own : action.isOwn = true) :
    gateway.admits action = true := by
  cases action with
  | relay key deed => exact Bool.or_eq_true_iff.2 (Or.inl own)
  | request | release | openRelay => rfl

/-- Carry out a step. -/
def perform (gateway : Gateway) : Step → Gateway
  | .connect requestId uptime peer request => (gateway.connect requestId uptime peer request).2.2
  | .send key message => gateway.send key message
  | .cut key => gateway.cut key
  | .receive key => gateway.settleCommands key
  | .goOn requestId key => settleWaiting requestId gateway key
  | .hand key => gateway.settleRelaying key
  | .serve key => gateway.settleServing key
  | .collect => gateway.collect.2
  | .elsewhere action =>
    if gateway.admits action then { gateway with exchange := gateway.exchange.perform action }
    else gateway

/-! ## The actions of a step -/

variable (gateway : Gateway)

/-- The hub of a backend. -/
def hubOf (backend : BackendKey) : String :=
  ((gateway.exchange.board.backend? backend).map (·.hub)).getD ""

/-- The actions of carrying out what came from a backend: its calls, and that it is dropped if its
stream has ended. -/
def streamActions (backend : BackendKey) (received : List SocketInput) : List Action :=
  (calls (gateway.hubOf backend) received).map .request ++
    if received.any (·.ends) then [.request (.drop backend)] else []

/-- The actions of listening as a backend. -/
def listenActions (peer : Option SocketAddress) : Http.Handling → List Action
  | .backendListens hub interest =>
    let identity := (interest.name.or (peer.map (·.text))).getD "unknown"
    [.request (.register hub identity interest.eventNames)]
  | _ => []

/-- The actions of a step. -/
def actions : Step → List Action
  | .connect requestId uptime peer request =>
    Http.Service.actions gateway.exchange request.received ++ listenActions peer
      (Http.Service.handle gateway.exchange ⟨requestId, uptime⟩ request.received).1
  | .send key message =>
    match gateway.use? key with
    | some (.relaying relay _) => [.relay relay (.feed message.items)]
    | _ => []
  | .cut key =>
    match gateway.use? key with
    | some (.relaying relay _) => [.relay relay (.feed [.cut])]
    | some (.serving backend received) => gateway.streamActions backend (received ++ [.failure])
    | _ => []
  | .receive key =>
    match gateway.use? key with
    | some (.serving backend received) => gateway.streamActions backend received
    | _ => []
  | .goOn _ key =>
    match gateway.use? key with
    | some (.waiting relay kept _) =>
      match gateway.exchange.phase? relay with
      | some (.approved _) => [.relay relay (.run ⟨kept, false⟩ none (.io "sink closed"))]
      | _ => []
    | _ => []
  | .serve key =>
    match gateway.use? key with
    | some (.serving backend _) =>
      .request (.flush backend []) ::
        if gateway.exchange.board.stopped then [.request (.drop backend)] else []
    | _ => []
  | .elsewhere action => if gateway.admits action then [action] else []
  | .hand _ | .collect => []

variable {gateway} {key : SocketKey} {backend : BackendKey} {received : List SocketInput}

theorem foldl_requests (exchange : Exchange) (requests : List Switchboard.Request) :
    (requests.map Action.request).foldl Exchange.perform exchange =
      { exchange with board := requests.foldl Switchboard.perform exchange.board } := by
  induction requests generalizing exchange with
  | nil => rfl
  | cons request requests inductionHypothesis => exact inductionHypothesis _

/-- What came from a backend is carried out action by action. -/
theorem exchange_settleCommands (serves : gateway.use? key = some (.serving backend received)) :
    (gateway.settleCommands key).exchange =
      (gateway.streamActions backend received).foldl Exchange.perform gateway.exchange := by
  rw [settleCommands, serves]
  simp only [receiveCommands_eq]
  rw [streamActions, List.foldl_append, foldl_requests]
  split <;> rfl

theorem use?_of_socket? {socket : Socket} (found : gateway.socket? key = some socket) :
    gateway.use? key = some socket.use := by
  rw [use?, found]
  rfl

theorem socket?_updateSocket_self {socket : Socket} (found : gateway.socket? key = some socket)
    (use : SocketUse) (news : List SocketNews) : (gateway.updateSocket key use news).socket? key =
      some ⟨socket.headers, use, socket.news ++ news⟩ :=
  getElem?_modify_of_some _ found

theorem socket?_updateSocket_ne (gateway : Gateway) {key other : SocketKey} (use : SocketUse)
    (news : List SocketNews) (different : key ≠ other) :
    (gateway.updateSocket key use news).socket? other = gateway.socket? other :=
  List.getElem?_modify_ne _ gateway.sockets different

theorem socket?_abandon_self {socket : Socket} (found : gateway.socket? key = some socket) :
    (gateway.abandon key).socket? key = some ⟨socket.headers, .over, []⟩ :=
  getElem?_modify_of_some _ found

theorem socket?_abandon_ne (gateway : Gateway) {key other : SocketKey} (different : key ≠ other) :
    (gateway.abandon key).socket? other = gateway.socket? other :=
  List.getElem?_modify_ne _ gateway.sockets different

theorem exchange_settleServing (serves : gateway.use? key = some (.serving backend received)) :
    (gateway.settleServing key).exchange =
      (gateway.actions (.serve key)).foldl Exchange.perform gateway.exchange := by
  have same : (gateway.exchange.board.flush backend []).2.2.stopped =
      gateway.exchange.board.stopped := by
    unfold Switchboard.flush
    split <;> rfl
  rw [settleServing, actions, serves]
  simp only [same]
  split <;> rfl

/-- Whatever a step is, its actions are what is done to the exchange. -/
theorem exchange_perform (gateway : Gateway) (step : Step) :
    (gateway.perform step).exchange =
      (gateway.actions step).foldl Exchange.perform gateway.exchange := by
  cases step with
  | connect requestId uptime peer request =>
    have handles := Http.Service.exchange_handle gateway.exchange ⟨requestId, uptime⟩
      request.received
    simp only [perform, connect, actions, List.foldl_append, ← handles]
    cases (Http.Service.handle gateway.exchange ⟨requestId, uptime⟩ request.received).1 with
    | backendListens hub interest =>
      -- the socket shows whether the backend came, the exchange only registers
      simp only [listenActions, List.foldl_cons, List.foldl_nil, Exchange.perform,
        Switchboard.perform]
      cases registered : (Http.Service.handle gateway.exchange ⟨requestId, uptime⟩
          request.received).2.board.tryRegister hub
            ((interest.name.or (peer.map (·.text))).getD "unknown") interest.eventNames with
      | mk backend board => cases backend <;> rfl
    | _ => rfl
  | send key message =>
    simp only [perform, actions]
    cases used : gateway.use? key with
    | none => rw [send, used]; rfl
    | some use => cases use <;> rw [send, used] <;> rfl
  | cut key =>
    simp only [perform, actions]
    cases used : gateway.use? key with
    | none => rw [cut, used]; rfl
    | some use =>
      cases use with
      | serving backend received =>
        obtain ⟨socket, found, same⟩ := Option.map_eq_some_iff.1 used
        have serves := use?_of_socket? (socket?_updateSocket_self found
          (.serving backend (received ++ [.failure])) [])
        rw [cut, used]
        exact exchange_settleCommands serves
      | _ => rw [cut, used]; rfl
  | receive key =>
    simp only [perform, actions]
    split
    · next backend received serves => exact exchange_settleCommands serves
    · next others =>
      unfold settleCommands
      split
      · next backend received serves => exact absurd serves (others backend received)
      · rfl
  | goOn requestId key =>
    simp only [perform, actions, settleWaiting, use?]
    cases gateway.socket? key with
    | none => rfl
    | some socket =>
      obtain ⟨headers, use, news⟩ := socket
      cases use with
      | waiting relay kept severed =>
        simp only [Option.map_some]
        cases gateway.exchange.phase? relay with
        | none => rfl
        | some phase => cases phase <;> rfl
      | _ => rfl
  | hand key =>
    simp only [perform, actions, settleRelaying]
    split
    · split <;> rfl
    · rfl
  | serve key =>
    simp only [perform]
    cases used : gateway.use? key with
    | none => simp only [settleServing, actions, used]; rfl
    | some use =>
      cases use with
      | serving backend received => exact exchange_settleServing used
      | _ => simp only [settleServing, actions, used]; rfl
  | collect => rfl
  | elsewhere action =>
    simp only [perform, actions]
    split <;> rfl

end Gateway

/-! ## Journals -/

/-- The web interface, with everything that has happened on its exchange, and with what the far end
of each socket was told. -/
structure Journal where
  gateway : Gateway
  course : Course
  told : SocketKey → List SocketNews
  /-- The course is that of the exchange. -/
  same : course.exchange = gateway.exchange

/-- What a socket has received that nobody has looked at yet. -/
def Gateway.newsOf (gateway : Gateway) (key : SocketKey) : List SocketNews :=
  ((gateway.socket? key).map (·.news)).getD []

/-- What a step tells the far end of a socket: what its news end with that they did not end with
before. -/
def Gateway.tells (gateway : Gateway) (step : Gateway.Step) (key : SocketKey) : List SocketNews :=
  ((gateway.perform step).newsOf key).drop (gateway.newsOf key).length

namespace Journal

/-- Nothing has happened yet. -/
def start (settings : Settings) (origins : List String) : Journal :=
  ⟨.start settings origins, .start settings, fun _ => [], rfl⟩

/-- One more step. -/
def take (journal : Journal) (step : Gateway.Step) : Journal where
  gateway := journal.gateway.perform step
  course := (journal.gateway.actions step).foldl Course.take journal.course
  told key := journal.told key ++ journal.gateway.tells step key
  same := by
    rw [Course.exchange_foldl_take, journal.same, Gateway.exchange_perform]

/-- Some more steps. -/
def run (journal : Journal) (steps : List Gateway.Step) : Journal :=
  steps.foldl take journal

/-- The journal of some steps. -/
def of (settings : Settings) (origins : List String) (steps : List Gateway.Step) : Journal :=
  (start settings origins).run steps

theorem run_concat (journal : Journal) (steps : List Gateway.Step) (step : Gateway.Step) :
    journal.run (steps ++ [step]) = (journal.run steps).take step :=
  List.foldl_append

theorem course_take (journal : Journal) (step : Gateway.Step) : (journal.take step).course =
    (journal.gateway.actions step).foldl Course.take journal.course :=
  rfl

theorem told_take (journal : Journal) (step : Gateway.Step) (key : SocketKey) :
    (journal.take step).told key = journal.told key ++ journal.gateway.tells step key :=
  rfl

theorem gateway_run (journal : Journal) (steps : List Gateway.Step) :
    (journal.run steps).gateway = steps.foldl Gateway.perform journal.gateway := by
  induction steps generalizing journal with
  | nil => rfl
  | cons step steps inductionHypothesis => exact inductionHypothesis (journal.take step)

/-- What holds of a journal and is kept by one more step holds after any more steps. -/
theorem induction {motive : Journal → Prop} {journal : Journal} (first : motive journal)
    (take : ∀ steps step, motive (journal.run steps) → motive ((journal.run steps).take step))
    (steps : List Gateway.Step) : motive (journal.run steps) := by
  induction steps using List.reverseRecOn with
  | nil => exact first
  | append_singleton steps step inductionHypothesis =>
    rw [run_concat]
    exact take steps step inductionHypothesis

/-- What goes on in a journal goes on in its course. -/
theorem course_run (journal : Journal) (steps : List Gateway.Step) :
    ∃ actions : List Action,
      (journal.run steps).course = actions.foldl Course.take journal.course := by
  refine induction (motive := fun later => ∃ actions : List Action,
    later.course = actions.foldl Course.take journal.course) ⟨[], rfl⟩ ?_ steps
  rintro earlier step ⟨actions, same⟩
  refine ⟨actions ++ (journal.run earlier).gateway.actions step, ?_⟩
  rw [course_take, same, List.foldl_append]

/-- The course of a journal is the course of some actions. -/
theorem course_of (settings : Settings) (origins : List String) (steps : List Gateway.Step) :
    ∃ actions, (of settings origins steps).course = Course.of settings actions :=
  course_run (start settings origins) steps

end Journal

end HubRelay
