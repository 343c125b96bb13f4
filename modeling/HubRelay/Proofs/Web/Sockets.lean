import HubRelay.Proofs.Web.Steps

/-!
Contract: what a step does to one socket.

Owns: how the use of a socket may change in one step and what its far end is told then, and that
only the socket itself intervenes with its relay.

Does not own: what holds along every journal.

A step at one socket leaves all others alone.  So whoever looks at one socket needs to know the
turns that it can take, and nothing of the steps.
-/

namespace HubRelay

namespace SocketNews

/-- Whether something is an answer to the request of a socket. -/
def isAnswer : SocketNews → Bool
  | .upgraded _ | .answered _ _ => true
  | .text _ | .binary _ | .event _ | .closed => false

theorem isAnswer_ofPayload (payload : Payload) : (ofPayload payload).isAnswer = false := by
  cases payload <;> rfl

end SocketNews

namespace Gateway

/-- The socket that a step is made at. -/
def Step.at? : Step → Option SocketKey
  | .send key _ | .cut key | .receive key | .goOn _ key | .hand key | .serve key => some key
  | .connect .. | .collect | .elsewhere _ => none

variable {gateway : Gateway} {step : Step} {key : SocketKey} {socket : Socket}
  {headers : List Http.Header} {use : SocketUse} {news : List SocketNews}

/-! ## Where a step is made -/

theorem socket?_settleCommands_ne (gateway : Gateway) {key other : SocketKey}
    (different : key ≠ other) : (gateway.settleCommands key).socket? other =
      gateway.socket? other := by
  unfold settleCommands
  split
  · simp only
    split <;> exact socket?_updateSocket_ne _ _ _ different
  · rfl

/-- What a request opens is a socket with its headers, and one that uses a relay uses the next
one. -/
theorem socket?_connect (gateway : Gateway) (requestId : String) (uptime : Nat)
    (peer : Option SocketAddress) (request : Http.Request) :
    ∃ use news, (gateway.perform (.connect requestId uptime peer request)).sockets =
        gateway.sockets ++ [⟨request.received.headers, use, news⟩] ∧
      ∀ relay, use.relay? = some relay → relay = gateway.exchange.relays.length ∧
        ∃ hub, request.received.visits? = some hub ∧
          (gateway.exchange.openRelay hub
            (Http.captureContext request.received.headers)).1 = .ok relay := by
  have unused : ∀ relay, SocketUse.over.relay? = some relay → relay =
      gateway.exchange.relays.length ∧ ∃ hub, request.received.visits? = some hub ∧
        (gateway.exchange.openRelay hub
          (Http.captureContext request.received.headers)).1 = .ok relay := fun _ => nofun
  simp only [perform, Gateway.connect]
  split
  · exact ⟨_, _, rfl, unused⟩
  · next opened waits =>
    refine ⟨_, _, rfl, fun relay uses => ?_⟩
    obtain rfl := Option.some.inj uses
    obtain ⟨hub, visits, opens⟩ := Http.Service.visits_of_waits waits
    exact ⟨(Exchange.openRelay_ok opens).1, hub, visits, opens⟩
  · split
    · exact ⟨_, _, rfl, unused⟩
    · exact ⟨_, _, rfl, unused⟩

/-- A step leaves all sockets alone but the one that it is made at, and it keeps those that are
there. -/
theorem socket?_perform_of_far (found : gateway.socket? key = some socket)
    (far : step.at? ≠ some key) (looks : step ≠ .collect) :
    (gateway.perform step).socket? key = some socket := by
  have elsewhere {other : SocketKey} (at? : step.at? = some other) : other ≠ key := by
    rintro rfl
    exact far at?
  cases step with
  | connect requestId uptime peer request =>
    have within : key < gateway.sockets.length := (List.getElem?_eq_some_iff.1 found).1
    have kept (last : Socket) : (gateway.sockets ++ [last])[key]? = some socket := by
      rw [List.getElem?_append_left within]
      exact found
    obtain ⟨use, news, opened, -⟩ := gateway.socket?_connect requestId uptime peer request
    rw [socket?, opened]
    exact kept _
  | send other message =>
    rw [perform, send]
    split
    · exact (socket?_updateSocket_ne _ _ _ (elsewhere rfl)).trans found
    · exact found
    · exact (socket?_updateSocket_ne _ _ _ (elsewhere rfl)).trans found
    · exact found
    · exact found
  | cut other =>
    rw [perform, Gateway.cut]
    split
    · exact (socket?_updateSocket_ne _ _ _ (elsewhere rfl)).trans found
    · exact (socket?_abandon_ne _ (elsewhere rfl)).trans found
    · refine (socket?_abandon_ne _ (elsewhere rfl)).trans ?_
      refine (socket?_settleCommands_ne _ (elsewhere rfl)).trans ?_
      exact (socket?_updateSocket_ne _ _ _ (elsewhere rfl)).trans found
    · exact (socket?_abandon_ne _ (elsewhere rfl)).trans found
    · exact (socket?_abandon_ne _ (elsewhere rfl)).trans found
  | receive other => exact (socket?_settleCommands_ne _ (elsewhere rfl)).trans found
  | goOn requestId other =>
    rw [perform, settleWaiting]
    split
    · split
      · exact (socket?_updateSocket_ne _ _ _ (elsewhere rfl)).trans found
      · exact (socket?_updateSocket_ne _ _ _ (elsewhere rfl)).trans found
      · exact found
    · exact found
  | hand other =>
    rw [perform, settleRelaying]
    split
    · split
      · exact (socket?_updateSocket_ne _ _ _ (elsewhere rfl)).trans found
      · exact (socket?_updateSocket_ne _ _ _ (elsewhere rfl)).trans found
      · exact found
    · exact found
  | serve other =>
    rw [perform, settleServing]
    split
    · simp only
      split <;> exact (socket?_updateSocket_ne _ _ _ (elsewhere rfl)).trans found
    · exact found
  | collect => exact absurd rfl looks
  | elsewhere action =>
    rw [perform]
    split <;> exact found

/-! ## What one socket goes through -/

/-- A turn that a socket may take: from one use to another in a step, and what its far end is told.

Only the request of a client that waits is answered, when the client has been decided about. -/
inductive Turn (gateway : Gateway) (key : SocketKey) (headers : List Http.Header) :
    Step → SocketUse → SocketUse → List SocketNews → Prop where
  | rest {step : Step} (use : SocketUse) : Turn gateway key headers step use use []
  | keep {step : Step} {relay : RelayKey} {kept later : List SourceItem} {severed cut : Bool} :
      Turn gateway key headers step (.waiting relay kept severed) (.waiting relay later cut) []
  | letIn {requestId : String} {relay : RelayKey} {kept : List SourceItem}
      {severed : Bool} {subProtocol : Option String}
      (phase : gateway.exchange.phase? relay = some (.approved subProtocol)) :
      Turn gateway key headers (.goOn requestId key) (.waiting relay kept severed)
        (if severed then .over else .relaying relay 0)
        [.upgraded (Http.Upgrade.agreed headers subProtocol)]
  | refuse {requestId : String} {relay : RelayKey} {kept : List SourceItem}
      {severed : Bool} {error : HandshakeError} {origin : Option (List UInt8)}
      (phase : gateway.exchange.phase? relay = some (.refused error)) :
      Turn gateway key headers (.goOn requestId key) (.waiting relay kept severed) .over
        [.answered (.failure (.ofRelay (.handshake error)) requestId) origin]
  | hand {step : Step} {relay : RelayKey} {received later : Nat} (payloads : List Payload) :
      Turn gateway key headers step (.relaying relay received) (.relaying relay later)
        (payloads.map .ofPayload)
  | leave {step : Step} {relay : RelayKey} {received : Nat} (payloads : List Payload) :
      Turn gateway key headers step (.relaying relay received) .over
        (payloads.map .ofPayload ++ [.closed])
  | serve {step : Step} {backend : BackendKey} {received later : List SocketInput}
      (events : List Event) :
      Turn gateway key headers step (.serving backend received) (.serving backend later)
        (events.map .event)
  | stop {step : Step} {backend : BackendKey} {received : List SocketInput} (events : List Event) :
      Turn gateway key headers step (.serving backend received) .over
        (events.map .event ++ [.closed])
  | sever {use : SocketUse} (answered : ∀ relay kept severed,
      use ≠ .waiting relay kept severed) : Turn gateway key headers (.cut key) use .over []

/-- A socket takes a turn in a step. -/
structure Turns (gateway : Gateway) (step : Step) (key : SocketKey) (socket : Socket)
    (use : SocketUse) (news : List SocketNews) : Prop where
  found : ∃ left, (gateway.perform step).socket? key = some ⟨socket.headers, use, left⟩
  told : gateway.tells step key = news
  turn : Turn gateway key socket.headers step socket.use use news

/-- A socket that is put to another use is told what goes with that. -/
theorem Turns.of_update {other : Gateway} (found : gateway.socket? key = some socket)
    (updated : gateway.perform step = other.updateSocket key use news)
    (same : other.sockets = gateway.sockets)
    (turn : Turn gateway key socket.headers step socket.use use news) :
    gateway.Turns step key socket use news := by
  have there : other.socket? key = some socket := by rw [socket?, same]; exact found
  have after := socket?_updateSocket_self there use news
  rw [← updated] at after
  refine ⟨⟨_, after⟩, ?_, turn⟩
  rw [tells, newsOf, newsOf, found, after]
  exact List.drop_left

/-- A socket that is abandoned, or whose news are taken away, is told nothing. -/
theorem Turns.of_cleared
    (after : (gateway.perform step).socket? key = some ⟨socket.headers, use, []⟩)
    (turn : Turn gateway key socket.headers step socket.use use []) :
    gateway.Turns step key socket use [] where
  found := ⟨_, after⟩
  told := by
    have cleared : (gateway.perform step).newsOf key = [] := by
      rw [newsOf, after]
      rfl
    rw [tells, cleared]
    exact List.drop_nil
  turn := turn

theorem Turns.of_same (found : gateway.socket? key = some socket)
    (same : (gateway.perform step).socket? key = some socket) :
    gateway.Turns step key socket socket.use [] where
  found := ⟨_, same⟩
  told := by
    rw [tells, newsOf, newsOf, found, same]
    exact List.drop_length
  turn := .rest _

theorem turns_send (found : gateway.socket? key = some socket) (message : SocketMessage) :
    ∃ use news, gateway.Turns (.send key message) key socket use news := by
  obtain ⟨headers, use, left⟩ := socket
  have used := use?_of_socket? found
  cases use with
  | waiting relay kept severed =>
    have updated : gateway.perform (.send key message) = gateway.updateSocket key
        (.waiting relay (kept ++ if severed then [] else message.items) severed) [] := by
      rw [perform, send, used]
    exact ⟨_, _, .of_update found updated rfl .keep⟩
  | serving backend received =>
    have updated : gateway.perform (.send key message) = gateway.updateSocket key
        (.serving backend (received ++ [.message message])) [] := by
      rw [perform, send, used]
    exact ⟨_, _, .of_update found updated rfl (.serve [])⟩
  | relaying _ _ | «over» =>
    refine ⟨_, _, .of_same found ?_⟩
    rw [perform, send, used]
    exact found

theorem turns_receive (found : gateway.socket? key = some socket) :
    ∃ use news, gateway.Turns (.receive key) key socket use news := by
  obtain ⟨headers, use, left⟩ := socket
  have used := use?_of_socket? found
  cases use with
  | serving backend received =>
    by_cases ended : received.any (·.ends) = true
    · have updated : gateway.perform (.receive key) = { gateway with
          exchange := (gateway.perform (.receive key)).exchange : Gateway }.updateSocket key .over
            [.closed] := by
        simp only [perform, settleCommands, used, receiveCommands_eq, if_pos ended, updateSocket]
      exact ⟨_, _, .of_update found updated rfl (.stop [])⟩
    · have updated : gateway.perform (.receive key) = { gateway with
          exchange := (gateway.perform (.receive key)).exchange : Gateway }.updateSocket key
            (.serving backend []) [] := by
        simp only [perform, settleCommands, used, receiveCommands_eq, if_neg ended, updateSocket]
      exact ⟨_, _, .of_update found updated rfl (.serve [])⟩
  | _ =>
    refine ⟨_, _, .of_same found ?_⟩
    rw [perform, settleCommands, used]
    exact found

theorem turns_cut (found : gateway.socket? key = some socket) :
    ∃ use news, gateway.Turns (.cut key) key socket use news := by
  obtain ⟨headers, use, left⟩ := socket
  have used := use?_of_socket? found
  cases use with
  | waiting relay kept severed =>
    have updated : gateway.perform (.cut key) = gateway.updateSocket key
        (.waiting relay (kept ++ if severed then [] else [SourceItem.cut]) true) [] := by
      rw [perform, Gateway.cut, used]
    exact ⟨_, _, .of_update found updated rfl .keep⟩
  | relaying relay received =>
    refine ⟨_, _, .of_cleared ?_ (.sever fun _ _ _ => SocketUse.noConfusion)⟩
    rw [perform, Gateway.cut, used]
    exact socket?_abandon_self found
  | serving backend received =>
    obtain ⟨_, _, ⟨_, settled⟩, -, -⟩ := turns_receive
      (socket?_updateSocket_self found (.serving backend (received ++ [.failure])) [])
    refine ⟨_, _, .of_cleared ?_ (.sever fun _ _ _ => SocketUse.noConfusion)⟩
    rw [perform, Gateway.cut, used]
    exact (socket?_abandon_self settled :)
  | «over» =>
    refine ⟨_, _, .of_cleared ?_ (.sever fun _ _ _ => SocketUse.noConfusion)⟩
    rw [perform, Gateway.cut, used]
    exact socket?_abandon_self found

theorem turns_letIn {relay : RelayKey} {kept : List SourceItem} {severed : Bool}
    {left : List SocketNews} {subProtocol : Option String}
    (found : gateway.socket? key = some ⟨headers, .waiting relay kept severed, left⟩)
    (phase : gateway.exchange.phase? relay = some (.approved subProtocol)) (requestId : String) :
    gateway.Turns (.goOn requestId key) key ⟨headers, .waiting relay kept severed, left⟩
      (if severed then .over else .relaying relay 0)
      [.upgraded (Http.Upgrade.agreed headers subProtocol)] := by
  have updated : gateway.perform (.goOn requestId key) = { gateway with
      exchange := gateway.exchange.run relay ⟨kept, false⟩ (.start none)
        : Gateway }.updateSocket key (if severed then .over else .relaying relay 0)
          [.upgraded (Http.Upgrade.agreed headers subProtocol)] := by
    simp only [perform, settleWaiting, found, phase]
  exact .of_update found updated rfl (.letIn phase)

theorem turns_refuse {relay : RelayKey} {kept : List SourceItem} {severed : Bool}
    {left : List SocketNews} {error : HandshakeError}
    (found : gateway.socket? key = some ⟨headers, .waiting relay kept severed, left⟩)
    (phase : gateway.exchange.phase? relay = some (.refused error)) (requestId : String) :
    gateway.Turns (.goOn requestId key) key ⟨headers, .waiting relay kept severed, left⟩ .over
      [.answered (.failure (.ofRelay (.handshake error)) requestId)
        (gateway.origins.allowed headers)] := by
  have updated : gateway.perform (.goOn requestId key) = gateway.updateSocket key .over
      [.answered (.failure (.ofRelay (.handshake error)) requestId)
        (gateway.origins.allowed headers)] := by
    simp only [perform, settleWaiting, found, phase]
  exact .of_update found updated rfl (.refuse phase)

theorem turns_goOn (found : gateway.socket? key = some socket) (requestId : String) :
    ∃ use news, gateway.Turns (.goOn requestId key) key socket use news := by
  obtain ⟨headers, use, left⟩ := socket
  cases use with
  | waiting relay kept severed =>
    cases phase : gateway.exchange.phase? relay with
    | none =>
      refine ⟨_, _, .of_same found ?_⟩
      simp only [perform, settleWaiting, found, phase]
    | some reached =>
      cases reached with
      | approved subProtocol => exact ⟨_, _, turns_letIn found phase requestId⟩
      | refused error => exact ⟨_, _, turns_refuse found phase requestId⟩
      | _ =>
        refine ⟨_, _, .of_same found ?_⟩
        simp only [perform, settleWaiting, found, phase]
  | _ =>
    refine ⟨_, _, .of_same found ?_⟩
    simp only [perform, settleWaiting, found]

theorem turns_hand (found : gateway.socket? key = some socket) :
    ∃ use news, gateway.Turns (.hand key) key socket use news := by
  obtain ⟨headers, use, left⟩ := socket
  have used := use?_of_socket? found
  cases use with
  | relaying relay received =>
    cases phase : gateway.exchange.phase? relay with
    | none =>
      refine ⟨_, _, .of_same found ?_⟩
      simp only [perform, settleRelaying, used, phase]
      exact found
    | some reached =>
      cases reached with
      | running loop =>
        have updated : gateway.perform (.hand key) = gateway.updateSocket key
            (.relaying relay loop.sink.written.length)
            ((loop.sink.written.drop received).map .ofPayload) := by
          simp only [perform, settleRelaying, used, phase]
        exact ⟨_, _, .of_update found updated rfl (.hand _)⟩
      | ended result sink =>
        have updated : gateway.perform (.hand key) = gateway.updateSocket key .over
            ((sink.written.drop received).map .ofPayload ++ [.closed]) := by
          simp only [perform, settleRelaying, used, phase]
        exact ⟨_, _, .of_update found updated rfl (.leave _)⟩
      | _ =>
        refine ⟨_, _, .of_same found ?_⟩
        simp only [perform, settleRelaying, used, phase]
        exact found
  | _ =>
    refine ⟨_, _, .of_same found ?_⟩
    simp only [perform, settleRelaying, used]
    exact found

theorem turns_serve (found : gateway.socket? key = some socket) :
    ∃ use news, gateway.Turns (.serve key) key socket use news := by
  obtain ⟨headers, use, left⟩ := socket
  have used := use?_of_socket? found
  cases use with
  | serving backend received =>
    by_cases stopped : (gateway.exchange.board.flush backend []).2.2.stopped = true
    · have updated : gateway.perform (.serve key) = { gateway with
          exchange := (gateway.perform (.serve key)).exchange : Gateway }.updateSocket key .over
            ((gateway.exchange.board.flush backend []).2.1.map .event ++ [.closed]) := by
        simp only [perform, settleServing, used, if_pos stopped, updateSocket]
      exact ⟨_, _, .of_update found updated rfl (.stop _)⟩
    · have updated : gateway.perform (.serve key) = { gateway with
          exchange := (gateway.perform (.serve key)).exchange : Gateway }.updateSocket key
            (.serving backend received)
            ((gateway.exchange.board.flush backend []).2.1.map .event) := by
        simp only [perform, settleServing, used, if_neg stopped, updateSocket]
      exact ⟨_, _, .of_update found updated rfl (.serve _)⟩
  | _ =>
    refine ⟨_, _, .of_same found ?_⟩
    simp only [perform, settleServing, used]
    exact found

/-- Whatever a step is, a socket takes one of its turns. -/
theorem turns_perform (found : gateway.socket? key = some socket) (step : Step) :
    ∃ use news, gateway.Turns step key socket use news := by
  by_cases looks : step = .collect
  · subst looks
    refine ⟨_, _, .of_cleared ?_ (.rest _)⟩
    rw [perform, collect, socket?, List.getElem?_map]
    exact congrArg (Option.map _) found
  by_cases far : step.at? ≠ some key
  · exact ⟨_, _, .of_same found (socket?_perform_of_far found far looks)⟩
  have here := Classical.not_not.1 far
  cases step with
  | connect requestId uptime peer request => cases here
  | send other message =>
    cases here
    exact turns_send found message
  | cut other =>
    cases here
    exact turns_cut found
  | receive other =>
    cases here
    exact turns_receive found
  | goOn requestId other =>
    cases here
    exact turns_goOn found requestId
  | hand other =>
    cases here
    exact turns_hand found
  | serve other =>
    cases here
    exact turns_serve found
  | collect => cases here
  | elsewhere action => cases here

/-! ## Whose relay it is -/

/-- A socket does not come by a relay in a turn. -/
theorem Turn.relay? {after : SocketUse} {relay : RelayKey}
    (turn : Turn gateway key headers step use after news) (uses : after.relay? = some relay) :
    use.relay? = some relay := by
  cases turn with
  | letIn phase =>
    split at uses
    · contradiction
    · exact uses
  | rest | keep | hand => exact uses
  | refuse | leave | serve | stop | sever => contradiction

/-- The actions of a client that asks to connect are those of opening its relay. -/
theorem actions_of_visits {request : Http.Request} {hub : String}
    (visits : request.received.visits? = some hub) (requestId : String) (uptime : Nat)
    (peer : Option SocketAddress) :
    gateway.actions (.connect requestId uptime peer request) =
      Http.Service.visitActions gateway.exchange hub
        (Http.captureContext request.received.headers) := by
  simp only [actions, Http.Service.actions, visits, Http.Service.handle_of_visits visits]
  cases (gateway.exchange.openRelay hub (Http.captureContext request.received.headers)).1 <;>
    exact List.append_nil _

theorem length_updateSocket (gateway : Gateway) (key : SocketKey) (use : SocketUse)
    (news : List SocketNews) :
    (gateway.updateSocket key use news).sockets.length = gateway.sockets.length :=
  List.length_modify ..

theorem length_abandon (gateway : Gateway) (key : SocketKey) :
    (gateway.abandon key).sockets.length = gateway.sockets.length :=
  List.length_modify ..

theorem length_settleCommands (gateway : Gateway) (key : SocketKey) :
    (gateway.settleCommands key).sockets.length = gateway.sockets.length := by
  unfold settleCommands
  split
  · simp only
    split <;> exact length_updateSocket ..
  · rfl

/-- Only requests open sockets. -/
theorem length_perform (opens : ∀ requestId uptime peer request,
    step ≠ .connect requestId uptime peer request) :
    (gateway.perform step).sockets.length = gateway.sockets.length := by
  cases step with
  | connect requestId uptime peer request => exact absurd rfl (opens requestId uptime peer request)
  | send key message =>
    rw [perform, send]
    split <;> first | rfl | exact length_updateSocket ..
  | cut key =>
    rw [perform, Gateway.cut]
    split
    · exact length_updateSocket ..
    · exact length_abandon ..
    · rw [length_abandon, length_settleCommands, length_updateSocket]
    · exact length_abandon ..
    · exact length_abandon ..
  | receive key => exact length_settleCommands gateway key
  | goOn requestId key =>
    rw [perform, settleWaiting]
    split
    · split <;> first | rfl | exact length_updateSocket ..
    · rfl
  | hand key =>
    rw [perform, settleRelaying]
    split
    · split <;> first | rfl | exact length_updateSocket ..
    · rfl
  | serve key =>
    rw [perform, settleServing]
    split
    · simp only
      split <;> exact length_updateSocket ..
    · rfl
  | collect => exact List.length_map ..
  | elsewhere action =>
    rw [perform]
    split <;> rfl

/-- A socket was there before, and has taken a turn, or a request has just opened it. -/
theorem before_of_after {later : Socket}
    (after : (gateway.perform step).socket? key = some later) :
    (∃ before news, gateway.socket? key = some before ∧
        gateway.Turns step key before later.use news) ∨
      (∀ relay, later.use.relay? = some relay → relay = gateway.exchange.relays.length ∧
        relay < (gateway.perform step).exchange.relays.length) ∧
      key = gateway.sockets.length := by
  cases before : gateway.socket? key with
  | some socket =>
    obtain ⟨use, news, turns⟩ := turns_perform before step
    obtain ⟨left, found⟩ := turns.found
    obtain rfl := Option.some.inj (after.symm.trans found)
    exact Or.inl ⟨socket, news, rfl, turns⟩
  | none =>
    have beyond : gateway.sockets.length ≤ key := List.getElem?_eq_none_iff.1 before
    have within : key < (gateway.perform step).sockets.length :=
      (List.getElem?_eq_some_iff.1 after).1
    by_cases opens : ∃ requestId uptime peer request,
        step = .connect requestId uptime peer request
    · obtain ⟨requestId, uptime, peer, request, rfl⟩ := opens
      obtain ⟨use, news, opened, uses⟩ := gateway.socket?_connect requestId uptime peer request
      rw [opened, List.length_append, List.length_singleton] at within
      obtain rfl : key = gateway.sockets.length :=
        Nat.le_antisymm (Nat.le_of_lt_succ within) beyond
      rw [socket?, opened, List.getElem?_concat_length] at after
      obtain rfl := Option.some.inj after
      refine Or.inr ⟨fun relay used => ?_, rfl⟩
      obtain ⟨next, hub, visits, opens⟩ := uses relay used
      refine ⟨next, ?_⟩
      rw [exchange_perform, actions_of_visits visits, Http.Service.visitActions, List.foldl_cons,
        next]
      refine Nat.lt_of_lt_of_le ?_ (Exchange.length_relays_foldl _ _)
      rw [Exchange.perform, (Exchange.openRelay_ok opens).2]
      exact Nat.lt_succ_self _
    · have same : (gateway.perform step).sockets.length = gateway.sockets.length :=
        length_perform fun requestId uptime peer request connects =>
          opens ⟨requestId, uptime, peer, request, connects⟩
      rw [same] at within
      exact absurd beyond (Nat.not_le_of_lt within)

/-- The relays that sockets use have been opened. -/
def Bounded (gateway : Gateway) : Prop :=
  ∀ key socket relay, gateway.socket? key = some socket → socket.use.relay? = some relay →
    relay < gateway.exchange.relays.length

/-- No other socket uses a relay. -/
def SoleUser (gateway : Gateway) (key : SocketKey) (relay : RelayKey) : Prop :=
  ∀ other socket, gateway.socket? other = some socket → socket.use.relay? = some relay → other = key

theorem SoleUser.eq_of_use? {relay : RelayKey} (sole : gateway.SoleUser key relay)
    {other : SocketKey} {use : SocketUse} (used : gateway.use? other = some use)
    (uses : use.relay? = some relay) : other = key := by
  obtain ⟨socket, found, rfl⟩ := Option.map_eq_some_iff.1 used
  exact sole other socket found uses

theorem length_relays_mono (gateway : Gateway) (step : Step) :
    gateway.exchange.relays.length ≤ (gateway.perform step).exchange.relays.length := by
  rw [exchange_perform]
  exact Exchange.length_relays_foldl _ _

theorem Bounded.perform (bounded : gateway.Bounded) (step : Step) :
    (gateway.perform step).Bounded := by
  intro other later relay after uses
  rcases before_of_after after with ⟨before, news, found, turns⟩ | ⟨opened, -⟩
  · have within := bounded other before relay found (turns.turn.relay? uses)
    exact Nat.lt_of_lt_of_le within (gateway.length_relays_mono step)
  · exact (opened relay uses).2

theorem SoleUser.perform {relay : RelayKey} (sole : gateway.SoleUser key relay)
    (opened : relay < gateway.exchange.relays.length) (step : Step) :
    (gateway.perform step).SoleUser key relay := by
  intro other later after uses
  rcases before_of_after after with ⟨before, news, found, turns⟩ | ⟨fresh, -⟩
  · exact sole other before found (turns.turn.relay? uses)
  · exact absurd (fresh relay uses).1 (Nat.ne_of_lt opened)

/-- The next relay has at most the user that the next socket is. -/
theorem soleUser_connect (bounded : gateway.Bounded) (requestId : String) (uptime : Nat)
    (peer : Option SocketAddress) (request : Http.Request) :
    (gateway.perform (.connect requestId uptime peer request)).SoleUser gateway.sockets.length
      gateway.exchange.relays.length := by
  intro other later after uses
  rcases before_of_after after with ⟨before, news, found, turns⟩ | ⟨-, place⟩
  · exact absurd (bounded other before _ found (turns.turn.relay? uses)) (Nat.lt_irrefl _)
  · exact place

/-- Some actions leave it to a relay to go on by itself. -/
def Spares (actions : List Action) (relay : RelayKey) : Prop :=
  ∀ own, Action.relay relay own ∈ actions → own.isOwn = true

theorem spares_requests {actions : List Action}
    (requests : ∀ action ∈ actions, ∃ request, action = .request request) (relay : RelayKey) :
    Spares actions relay := by
  intro own among
  obtain ⟨request, same⟩ := requests _ among
  contradiction

theorem spares_stream (gateway : Gateway) (backend : BackendKey) (received : List SocketInput)
    (relay : RelayKey) : Spares (gateway.streamActions backend received) relay := by
  refine spares_requests (fun action among => ?_) relay
  rcases List.mem_append.1 among with called | dropped
  · obtain ⟨request, -, same⟩ := List.mem_map.1 called
    exact ⟨request, same.symm⟩
  · split at dropped
    · exact ⟨_, List.mem_singleton.1 dropped⟩
    · exact absurd dropped List.not_mem_nil

theorem spares_connect {relay : RelayKey} (opened : relay < gateway.exchange.relays.length)
    (requestId : String) (uptime : Nat) (peer : Option SocketAddress) (request : Http.Request) :
    Spares (gateway.actions (.connect requestId uptime peer request)) relay := by
  intro own among
  rcases List.mem_append.1 among with asked | listened
  · unfold Http.Service.actions at asked
    split at asked
    · rcases List.mem_cons.1 asked with same | waits
      · contradiction
      · split at waits
        · next fresh opens =>
          obtain ⟨rfl, -⟩ := Action.relay.inj (List.mem_singleton.1 waits)
          exact absurd (Exchange.openRelay_ok opens).1 (Nat.ne_of_lt opened)
        · contradiction
    · split at asked
      · contradiction
      · cases List.mem_singleton.1 asked
    · cases List.mem_singleton.1 asked
    · contradiction
  · unfold listenActions at listened
    split at listened
    · cases List.mem_singleton.1 listened
    · contradiction

/-- While a client waits that has not been let in, its relay is only left to go on by itself. -/
theorem spares_actions {relay : RelayKey} {kept : List SourceItem} {severed : Bool}
    (found : gateway.socket? key = some socket) (waits : socket.use = .waiting relay kept severed)
    (sole : gateway.SoleUser key relay) (opened : relay < gateway.exchange.relays.length)
    (apart : ∀ requestId subProtocol, step = .goOn requestId key →
      gateway.exchange.phase? relay ≠ some (.approved subProtocol)) :
    Spares (gateway.actions step) relay := by
  have uses : socket.use.relay? = some relay := by rw [waits]; rfl
  have used : gateway.use? key = some (.waiting relay kept severed) := by
    rw [use?_of_socket? found, waits]
  -- whoever relays does so with another relay
  have others {other : SocketKey} {received : Nat} {own : RelayAction} {items : List SourceItem}
      {reached : RelayKey} (relays : gateway.use? other = some (.relaying reached received))
      (among : Action.relay relay own ∈ [Action.relay reached (.feed items)]) :
      own.isOwn = true := by
    obtain ⟨rfl, -⟩ := Action.relay.inj (List.mem_singleton.1 among)
    obtain rfl := sole.eq_of_use? relays rfl
    rw [used] at relays
    cases relays
  cases step with
  | connect requestId uptime peer request =>
    exact spares_connect opened requestId uptime peer request
  | send other message =>
    intro own among
    simp only [actions] at among
    split at among
    · next relays => exact others relays among
    · contradiction
  | cut other =>
    simp only [actions]
    split
    · next relays => exact fun own among => others relays among
    · exact spares_stream gateway _ _ relay
    · exact fun _ among => absurd among List.not_mem_nil
  | receive other =>
    simp only [actions]
    split
    · exact spares_stream gateway _ _ relay
    · exact fun _ among => absurd among List.not_mem_nil
  | goOn requestId other =>
    intro own among
    simp only [actions] at among
    split at among
    · next reached others severed waiting =>
      split at among
      · next subProtocol phase =>
        obtain ⟨rfl, -⟩ := Action.relay.inj (List.mem_singleton.1 among)
        obtain rfl := sole.eq_of_use? waiting rfl
        exact absurd phase (apart requestId subProtocol rfl)
      · contradiction
    · contradiction
  | hand other => exact fun _ among => absurd among List.not_mem_nil
  | serve other =>
    refine spares_requests (fun action among => ?_) relay
    simp only [actions] at among
    split at among
    · rcases List.mem_cons.1 among with rfl | dropped
      · exact ⟨_, rfl⟩
      · split at dropped
        · exact ⟨_, List.mem_singleton.1 dropped⟩
        · contradiction
    · contradiction
  | collect => exact fun _ among => absurd among List.not_mem_nil
  | elsewhere action =>
    intro own among
    simp only [actions] at among
    split at among
    · next admitted =>
      obtain rfl := List.mem_singleton.1 among
      rw [admits, Bool.or_eq_true] at admitted
      refine admitted.resolve_right fun nobody => ?_
      have apart := List.all_eq_true.1 nobody socket (List.mem_of_getElem? found)
      rw [uses, bne_self_eq_false] at apart
      contradiction
    · contradiction

/-- A request that is answered opens no socket that is used for anything. -/
theorem perform_of_answered {requestId : String} {uptime : Nat} {request : Http.Request}
    {response : Http.Response} {exchange : Exchange}
    (answered : Http.Service.handle gateway.exchange ⟨requestId, uptime⟩ request.received =
      (.answered response, exchange)) (peer : Option SocketAddress) :
    gateway.perform (.connect requestId uptime peer request) = { gateway with
      exchange := exchange
      sockets := gateway.sockets ++ [⟨request.received.headers, .over,
        [.answered response (gateway.origins.allowed request.received.headers)]⟩] } := by
  simp only [perform, Gateway.connect, answered]

/-- A client for which a relay could be opened waits at its socket. -/
theorem perform_of_opened {requestId : String} {uptime : Nat} {request : Http.Request}
    {hub : String} {relay : RelayKey} {exchange : Exchange}
    (visits : request.received.visits? = some hub)
    (opened : gateway.exchange.openRelay hub (Http.captureContext request.received.headers) =
      (.ok relay, exchange)) (peer : Option SocketAddress) :
    gateway.perform (.connect requestId uptime peer request) = { gateway with
      exchange := exchange.await relay
      sockets := gateway.sockets ++
        [⟨request.received.headers, .waiting relay [] false, []⟩] } := by
  have handled := Http.Service.handle_of_visits visits gateway.exchange ⟨requestId, uptime⟩
  simp only [opened, Http.Service.visitHandling, Http.Service.visitActions, List.foldl_cons,
    List.foldl_nil, Exchange.perform, Exchange.performRelay] at handled
  simp only [perform, Gateway.connect, handled]

theorem newsOf_of_missing (missing : gateway.sockets.length ≤ key) : gateway.newsOf key = [] := by
  rw [newsOf, socket?, List.getElem?_eq_none_iff.2 missing]
  rfl

/-- What a request that opens a socket tells its far end is what the socket starts with. -/
theorem tells_connect {requestId : String} {uptime : Nat} {peer : Option SocketAddress}
    {request : Http.Request}
    (opened : (gateway.perform (.connect requestId uptime peer request)).sockets =
      gateway.sockets ++ [socket]) :
    gateway.tells (.connect requestId uptime peer request) gateway.sockets.length =
      socket.news := by
  rw [tells, newsOf_of_missing (Nat.le_refl _), newsOf, socket?, opened,
    List.getElem?_concat_length]
  rfl

theorem length_sockets_mono (gateway : Gateway) (step : Step) :
    gateway.sockets.length ≤ (gateway.perform step).sockets.length := by
  by_cases opens : ∃ requestId uptime peer request, step = .connect requestId uptime peer request
  · obtain ⟨requestId, uptime, peer, request, rfl⟩ := opens
    obtain ⟨use, news, opened, -⟩ := gateway.socket?_connect requestId uptime peer request
    rw [opened, List.length_append]
    exact Nat.le_add_right _ _
  · refine Nat.le_of_eq (length_perform fun requestId uptime peer request connects => ?_).symm
    exact opens ⟨requestId, uptime, peer, request, connects⟩

end Gateway

/-- A socket that is not there has not been told anything. -/
theorem Journal.told_of_missing (settings : Settings) (origins : List String)
    (steps : List Gateway.Step) {key : SocketKey}
    (missing : (of settings origins steps).gateway.sockets.length ≤ key) :
    (of settings origins steps).told key = [] := by
  refine induction (motive := fun journal =>
    journal.gateway.sockets.length ≤ key → journal.told key = []) (fun _ => rfl) ?_ steps missing
  intro earlier step known missing
  have before := Nat.le_trans (Gateway.length_sockets_mono _ step) missing
  have after := Gateway.newsOf_of_missing missing
  have silent : ((start settings origins).run earlier).gateway.tells step key = [] := by
    rw [Gateway.tells]
    exact (congrArg (List.drop _) after).trans List.drop_nil
  rw [told_take, known before, silent]
  rfl

end HubRelay
