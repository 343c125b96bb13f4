import HubRelay.Proofs.Exchange.Refusal
import HubRelay.Proofs.Web.Sockets

/-!
Contract: the visits of clients that ask to connect.

Owns: that a request which has been answered is not answered again; the stages of a visit whose
backend was asked, that every step keeps a visit at its stage or takes it to a later one, and that a
visit gets on when the relay looks and the request goes on.

Does not own: who is asked, and what is earned.

A client waits from the question to the decision, and meanwhile anything may happen to anybody else.
What is read off a stage does not depend on how the visit got there, so whoever wants to know what
is answered never has to look at steps.
-/

namespace HubRelay

/-- What the far end of a socket was answered. -/
def Journal.answersAt (journal : Journal) (key : SocketKey) : List SocketNews :=
  (journal.told key).filter (·.isAnswer)

/-- Somebody makes a request. -/
structure Visit where
  before : Journal
  requestId : String
  uptime : Nat
  peer : Option SocketAddress
  request : Http.Request

namespace Visit

variable (visit : Visit)

/-- The socket of the request. -/
def socket : SocketKey := visit.before.gateway.sockets.length

/-- The client, if one is added. -/
def client : ClientKey := visit.before.course.exchange.board.clients.length

/-- The relay, if one is opened. -/
def relay : RelayKey := visit.before.course.exchange.relays.length

def headers : List Http.Header := visit.request.received.headers

def context : Context := Http.captureContext visit.headers

def step : Gateway.Step := .connect visit.requestId visit.uptime visit.peer visit.request

/-- The request is made, and then some more happens. -/
def after (later : List Gateway.Step) : Journal := (visit.before.take visit.step).run later

def answers (later : List Gateway.Step) : List SocketNews :=
  (visit.after later).answersAt visit.socket

end Visit

/-! ## What is answered stays answered -/

/-- Whether the request of a socket waits to be answered. -/
def SocketUse.waits : SocketUse → Bool
  | .waiting _ _ _ => true
  | .relaying _ _ | .serving _ _ | .over => false

namespace Gateway

variable {gateway : Gateway} {step : Step} {key : SocketKey} {headers : List Http.Header}
  {use after : SocketUse} {news : List SocketNews}

/-- Whose request has been answered is not answered again. -/
theorem Turn.of_answered (turn : Turn gateway key headers step use after news)
    (answered : use.waits = false) : after.waits = false ∧ news.filter (·.isAnswer) = [] := by
  have silent (payloads : List Payload) :
      (payloads.map SocketNews.ofPayload).filter (·.isAnswer) = [] := by
    refine List.filter_eq_nil_iff.2 fun item among => ?_
    obtain ⟨payload, -, rfl⟩ := List.mem_map.1 among
    rw [SocketNews.isAnswer_ofPayload]
    exact Bool.false_ne_true
  have still (events : List Event) : (events.map SocketNews.event).filter (·.isAnswer) = [] := by
    refine List.filter_eq_nil_iff.2 fun item among => ?_
    obtain ⟨event, -, rfl⟩ := List.mem_map.1 among
    exact Bool.false_ne_true
  cases turn with
  | rest => exact ⟨answered, rfl⟩
  | keep | letIn | refuse => contradiction
  | hand payloads => exact ⟨rfl, silent payloads⟩
  | leave payloads =>
    refine ⟨rfl, ?_⟩
    rw [List.filter_append, silent]
    rfl
  | serve events => exact ⟨rfl, still events⟩
  | stop events =>
    refine ⟨rfl, ?_⟩
    rw [List.filter_append, still]
    rfl
  | sever => exact ⟨rfl, rfl⟩

/-- The request of a socket has been answered. -/
def Settled (gateway : Gateway) (key : SocketKey) : Prop :=
  ∃ socket, gateway.socket? key = some socket ∧ socket.use.waits = false

end Gateway

namespace Journal

variable {journal : Journal} {step : Gateway.Step} {key : SocketKey} {socket : Socket}
  {use : SocketUse} {news : List SocketNews}

theorem answersAt_take (turns : journal.gateway.Turns step key socket use news) :
    (journal.take step).answersAt key =
      journal.answersAt key ++ news.filter (·.isAnswer) := by
  rw [answersAt, told_take, turns.told, List.filter_append]
  rfl

theorem settled_take (settled : journal.gateway.Settled key) (step : Gateway.Step) :
    (journal.take step).gateway.Settled key ∧
      (journal.take step).answersAt key = journal.answersAt key := by
  obtain ⟨socket, found, answered⟩ := settled
  obtain ⟨use, news, turns⟩ := Gateway.turns_perform found step
  obtain ⟨left, after⟩ := turns.found
  obtain ⟨goesOn, silent⟩ := turns.turn.of_answered answered
  refine ⟨⟨_, after, goesOn⟩, ?_⟩
  rw [answersAt_take turns, silent, List.append_nil]

theorem settled_run (settled : journal.gateway.Settled key) (steps : List Gateway.Step) :
    (journal.run steps).gateway.Settled key ∧
      (journal.run steps).answersAt key = journal.answersAt key := by
  refine induction (motive := fun later =>
    later.gateway.Settled key ∧ later.answersAt key = journal.answersAt key) ⟨settled, rfl⟩
    (fun earlier step known => ?_) steps
  obtain ⟨still, same⟩ := settled_take known.1 step
  exact ⟨still, same.trans known.2⟩

/-- A client stays who it is. -/
theorem client?_run {client : ClientKey} {entry : Client}
    (found : journal.course.exchange.board.client? client = some entry)
    (steps : List Gateway.Step) :
    ∃ later, (journal.run steps).course.exchange.board.client? client = some later ∧
      entry.Onward later := by
  obtain ⟨actions, same⟩ := journal.course_run steps
  rw [same, Course.exchange_foldl_take]
  exact Exchange.client?_foldl actions found

theorem bounded_of (settings : Settings) (origins : List String) (steps : List Gateway.Step) :
    (of settings origins steps).gateway.Bounded :=
  induction (motive := fun journal => journal.gateway.Bounded)
    (fun _ _ _ found => by simp [start, Gateway.start, Gateway.socket?] at found)
    (fun _ step known => known.perform step) steps

end Journal

/-! ## The stages of a visit -/

namespace Visit

variable {visit : Visit} {backend : BackendKey} {told : Bool} {journal : Journal}
  {step : Gateway.Step}

/-- How far a visit has come whose backend was asked: the client waits, and perhaps its relay has
been told already, or it was let in, or it was turned away. -/
inductive Stage (visit : Visit) (backend : BackendKey) (told : Bool) (journal : Journal) :
    Prop where
  | waits {kept : List SourceItem} {severed : Bool} {left : List SocketNews} {phase : RelayPhase}
      (found : journal.gateway.socket? visit.socket =
        some ⟨visit.headers, .waiting visit.relay kept severed, left⟩)
      (sole : journal.gateway.SoleUser visit.socket visit.relay)
      (present : journal.gateway.exchange.relay? visit.relay =
        some ⟨⟨visit.client, backend⟩, phase⟩)
      (awaited : phase.isAwaited = true) (heard : told = true → phase.told? ≠ none)
      (silent : journal.answersAt visit.socket = []) : Stage visit backend told journal
  | admitted {subProtocol : Option String} (settled : journal.gateway.Settled visit.socket)
      (applied : journal.course.Applied visit.client (.approve subProtocol))
      (answered : journal.answersAt visit.socket =
        [.upgraded (Http.Upgrade.agreed visit.headers subProtocol)]) :
      Stage visit backend told journal
  | refused {error : HandshakeError} {id : String} {origin : Option (List UInt8)}
      (settled : journal.gateway.Settled visit.socket)
      (present : journal.gateway.exchange.relay? visit.relay =
        some ⟨⟨visit.client, backend⟩, .refused error⟩)
      (answered : journal.answersAt visit.socket =
        [.answered (.failure (.rejected error.reason) id) origin]) :
      Stage visit backend told journal

theorem exchange_take (journal : Journal) (step : Gateway.Step) :
    (journal.take step).gateway.exchange =
      (journal.gateway.actions step).foldl Exchange.perform journal.gateway.exchange :=
  Gateway.exchange_perform journal.gateway step

/-- A client whose relay has been told is answered when its request goes on. -/
theorem Stage.goOn (decided : journal.course.Decided) (informed : journal.course.Informed)
    {kept : List SourceItem} {severed : Bool} {left : List SocketNews} {phase : RelayPhase}
    (found : journal.gateway.socket? visit.socket =
      some ⟨visit.headers, .waiting visit.relay kept severed, left⟩)
    (present : journal.gateway.exchange.relay? visit.relay =
      some ⟨⟨visit.client, backend⟩, phase⟩)
    (heard : phase.told? ≠ none) (silent : journal.answersAt visit.socket = []) (id : String) :
    visit.Stage backend told (journal.take (.goOn id visit.socket)) ∧
      (journal.take (.goOn id visit.socket)).answersAt visit.socket ≠ [] := by
  have reached : journal.gateway.exchange.phase? visit.relay = some phase := by
    rw [Exchange.phase?, present]
    rfl
  cases phase with
  | approved subProtocol =>
    have turns := Gateway.turns_letIn found reached id
    obtain ⟨left, after⟩ := turns.found
    have answers := Journal.answersAt_take turns
    rw [silent] at answers
    obtain ⟨client, there, shows⟩ := informed _ _ _ (journal.same ▸ present) rfl
    have approved : client.handshake.state = .ofDecision (.approve subProtocol) := by
      cases state : client.handshake.state <;> rw [state] at shows <;> cases shows
      rfl
    refine ⟨.admitted ⟨_, after, ?_⟩ (((decided.applied_iff there).2 approved).foldl _) answers, ?_⟩
    · split <;> rfl
    · rw [answers]
      exact List.cons_ne_nil _ _
  | refused error =>
    have turns := Gateway.turns_refuse found reached id
    obtain ⟨left, after⟩ := turns.found
    have answers := Journal.answersAt_take turns
    rw [silent] at answers
    refine ⟨.refused ⟨_, after, rfl⟩ ?_ answers, ?_⟩
    · rw [exchange_take]
      exact Exchange.refused_foldl _ present
    · rw [answers]
      exact List.cons_ne_nil _ _
  | pending | awaiting | running _ | leaving _ _ | ended _ _ | dropped => exact absurd rfl heard

/-- A client that is not answered in a step goes on to wait. -/
theorem Stage.stay {kept : List SourceItem} {severed : Bool} {left : List SocketNews}
    {phase : RelayPhase} (found : journal.gateway.socket? visit.socket =
      some ⟨visit.headers, .waiting visit.relay kept severed, left⟩)
    (sole : journal.gateway.SoleUser visit.socket visit.relay)
    (present : journal.gateway.exchange.relay? visit.relay =
      some ⟨⟨visit.client, backend⟩, phase⟩)
    (awaited : phase.isAwaited = true) (heard : told = true → phase.told? ≠ none)
    (silent : journal.answersAt visit.socket = [])
    (stays : ∀ id, step = .goOn id visit.socket → phase.told? = none) :
    visit.Stage backend told (journal.take step) := by
  have reached : journal.gateway.exchange.phase? visit.relay = some phase := by
    rw [Exchange.phase?, present]
    rfl
  have opened : visit.relay < journal.gateway.exchange.relays.length :=
    (List.getElem?_eq_some_iff.1 present).1
  have spares : Gateway.Spares (journal.gateway.actions step) visit.relay := by
    refine Gateway.spares_actions found rfl sole opened fun id subProtocol goes approved => ?_
    rw [Option.some.inj (reached.symm.trans approved)] at stays
    exact absurd (stays id goes) (Option.some_ne_none _)
  obtain ⟨next, there, awaits, kept⟩ := Exchange.awaited_foldl _ present awaited spares
  have present : (journal.take step).gateway.exchange.relay? visit.relay =
      some ⟨⟨visit.client, backend⟩, next⟩ := by
    rw [exchange_take]
    exact there
  have heard : told = true → next.told? ≠ none := fun was => by
    rw [kept (heard was)]
    exact heard was
  have sole := sole.perform opened step
  obtain ⟨use, news, turns⟩ := Gateway.turns_perform found step
  obtain ⟨left, after⟩ := turns.found
  have answers := Journal.answersAt_take turns
  rw [silent] at answers
  have turn := turns.turn
  cases turn with
  | rest | keep => exact .waits after sole present awaits heard answers
  | letIn phase | refuse phase =>
    rw [Option.some.inj (reached.symm.trans phase)] at stays
    exact absurd (stays _ rfl) (Option.some_ne_none _)
  | sever waits => exact absurd rfl (waits _ _ _)

/-- A step keeps a visit at its stage, or takes it to a later one. -/
theorem Stage.take (stage : visit.Stage backend told journal) (decided : journal.course.Decided)
    (informed : journal.course.Informed) (step : Gateway.Step) :
    visit.Stage backend told (journal.take step) := by
  cases stage with
  | @waits kept severed left phase found sole present awaited heard silent =>
    by_cases goes : ∃ id, step = .goOn id visit.socket ∧ phase.told? ≠ none
    · obtain ⟨id, rfl, was⟩ := goes
      exact (Stage.goOn decided informed found present was silent id).1
    · refine Stage.stay found sole present awaited heard silent fun id same => ?_
      by_contra was
      exact goes ⟨id, same, was⟩
  | admitted settled applied answered =>
    obtain ⟨still, same⟩ := Journal.settled_take settled step
    exact .admitted still (applied.foldl _) (same.trans answered)
  | refused settled present answered =>
    obtain ⟨still, same⟩ := Journal.settled_take settled step
    refine .refused still ?_ (same.trans answered)
    rw [exchange_take]
    exact Exchange.refused_foldl _ present

/-- After a stage in which the relay has been told, the request only has to go on. -/
theorem Stage.answered (stage : visit.Stage backend true journal)
    (decided : journal.course.Decided) (informed : journal.course.Informed) (id : String) :
    (journal.take (.goOn id visit.socket)).answersAt visit.socket ≠ [] := by
  cases stage with
  | waits found sole present awaited heard silent =>
    have goesOn : visit.Stage backend true _ ∧ _ :=
      Stage.goOn decided informed found present (heard rfl) silent id
    exact goesOn.2
  | admitted settled _ answered | refused settled _ answered =>
    rw [(Journal.settled_take settled _).2, answered]
    exact List.cons_ne_nil _ _

/-- What the relay has been told by now is known. -/
theorem Stage.hear (stage : visit.Stage backend told journal) {connection : Connection}
    {phase : RelayPhase}
    (present : journal.gateway.exchange.relay? visit.relay = some ⟨connection, phase⟩)
    (heard : phase.told? ≠ none) : visit.Stage backend true journal := by
  cases stage with
  | waits found sole there awaited _ silent =>
    obtain ⟨-, rfl⟩ := Relay.mk.inj (Option.some.inj (present.symm.trans there))
    exact .waits found sole there awaited (fun _ => heard) silent
  | admitted settled applied answered => exact .admitted settled applied answered
  | refused settled there answered => exact .refused settled there answered

/-- A relay that looks when its client has been decided about, or when it is too late for that, is
told. -/
theorem Stage.settle (stage : visit.Stage backend told journal) {entry : Client}
    (found : journal.gateway.exchange.board.client? visit.client = some entry)
    (due : entry.handshake.state ≠ .pending ∨
      entry.handshake.deadline ≤ journal.gateway.exchange.board.now)
    (decided : journal.course.Decided) (informed : journal.course.Informed) :
    visit.Stage backend true (journal.take (.elsewhere (.relay visit.relay .settle))) := by
  have next := stage.take decided informed (.elsewhere (.relay visit.relay .settle))
  cases stage with
  | @waits _ _ _ phase _ _ present awaited =>
    have acted : (journal.take (.elsewhere (.relay visit.relay .settle))).gateway.exchange =
        journal.gateway.exchange.performRelay visit.relay .settle := by
      rw [exchange_take, Gateway.actions, if_pos (Gateway.admits_own _ rfl)]
      rfl
    have settled := Exchange.relay?_performRelay_self present .settle
    rw [← acted] at settled
    refine next.hear settled ?_
    cases phase with
    | awaiting => exact Relay.told?_settle found due
    | approved _ | refused _ => exact Option.some_ne_none _
    | pending | running _ | leaving _ _ | ended _ _ | dropped => contradiction
  | admitted settled applied answered =>
    exact Stage.take (.admitted settled applied answered) decided informed _
  | refused settled present answered =>
    exact Stage.take (.refused settled present answered) decided informed _

/-! ## Where visits begin -/

variable {settings : Settings} {origins : List String} {steps earlier later : List Gateway.Step}
  {hub : String}

theorem after_append (visit : Visit) (earlier more : List Gateway.Step) :
    visit.after (earlier ++ more) = (visit.after earlier).run more :=
  List.foldl_append

theorem after_eq (known : visit.before = .of settings origins steps) (later : List Gateway.Step) :
    visit.after later = .of settings origins (steps ++ visit.step :: later) := by
  rw [after, known, Journal.of, Journal.of, Journal.run, Journal.run, Journal.run,
    List.foldl_append, List.foldl_cons]

theorem course_after (known : visit.before = .of settings origins steps)
    (later : List Gateway.Step) :
    ∃ actions, (visit.after later).course = Course.of settings actions := by
  rw [after_eq known]
  exact Journal.course_of settings origins _

theorem course_before (known : visit.before = .of settings origins steps) :
    ∃ actions, visit.before.course = Course.of settings actions := by
  rw [known]
  exact Journal.course_of settings origins steps

theorem decided_after (known : visit.before = .of settings origins steps)
    (later : List Gateway.Step) : (visit.after later).course.Decided := by
  obtain ⟨actions, same⟩ := course_after known later
  rw [same]
  exact Course.decided_of settings actions

theorem informed_after (known : visit.before = .of settings origins steps)
    (later : List Gateway.Step) : (visit.after later).course.Informed := by
  obtain ⟨actions, same⟩ := course_after known later
  rw [same]
  exact Course.informed_of settings actions

theorem Stage.run (known : visit.before = .of settings origins steps)
    (stage : visit.Stage backend told (visit.after earlier)) (more : List Gateway.Step) :
    visit.Stage backend told (visit.after (earlier ++ more)) := by
  induction more using List.reverseRecOn with
  | nil => rwa [List.append_nil]
  | append_singleton more step inductionHypothesis =>
    rw [← List.append_assoc, after_append]
    exact inductionHypothesis.take (decided_after known _) (informed_after known _) step

theorem told_before (known : visit.before = .of settings origins steps) :
    visit.before.told visit.socket = [] := by
  have missing : (Journal.of settings origins steps).gateway.sockets.length ≤ visit.socket := by
    rw [socket, known]
  rw [known]
  exact Journal.told_of_missing settings origins steps missing

/-- A request that is answered at once gets no other answer. -/
theorem answers_of_answered (known : visit.before = .of settings origins steps)
    {response : Http.Response} {exchange : Exchange}
    (handled : Http.Service.handle visit.before.gateway.exchange ⟨visit.requestId, visit.uptime⟩
      visit.request.received = (.answered response, exchange)) (later : List Gateway.Step) :
    visit.answers later =
      [.answered response (visit.before.gateway.origins.allowed visit.headers)] := by
  have performed := Gateway.perform_of_answered handled visit.peer
  have opened := congrArg (·.sockets) performed
  have settled : (visit.before.take visit.step).gateway.Settled visit.socket := by
    refine ⟨⟨visit.headers, .over,
      [.answered response (visit.before.gateway.origins.allowed visit.headers)]⟩, ?_, rfl⟩
    show (visit.before.gateway.perform visit.step).sockets[visit.socket]? = _
    rw [step, opened]
    exact List.getElem?_concat_length
  have answers := (Journal.settled_run settled later).2
  refine answers.trans ?_
  rw [Journal.answersAt, Journal.told_take, told_before known]
  refine congrArg (List.filter _) (Eq.trans (List.nil_append _) (Gateway.tells_connect opened))

/-- A client whose backend was asked waits. -/
theorem stage_of_asked (known : visit.before = .of settings origins steps)
    (visits : visit.request.received.visits? = some hub) {asked : Switchboard}
    (opened : visit.before.gateway.exchange.openRelay hub visit.context = (.ok visit.relay,
      ⟨asked, visit.before.gateway.exchange.relays ++ [⟨⟨visit.client, backend⟩, .pending⟩]⟩)) :
    visit.Stage backend false (visit.after []) ∧
      (visit.after []).gateway.exchange.board = asked := by
  have performed : (visit.after []).gateway = _ :=
    Gateway.perform_of_opened visits opened visit.peer
  have place : visit.relay = visit.before.gateway.exchange.relays.length :=
    congrArg (·.relays.length) visit.before.same
  have added : (Exchange.mk asked (visit.before.gateway.exchange.relays ++
      [⟨⟨visit.client, backend⟩, .pending⟩])).relay? visit.relay =
        some ⟨⟨visit.client, backend⟩, .pending⟩ := by
    rw [place]
    exact List.getElem?_concat_length
  have exchange := congrArg (·.exchange) performed
  have board := congrArg (·.board) (Exchange.performRelay_eq added .await)
  have present : (visit.after []).gateway.exchange.relay? visit.relay =
      some ⟨⟨visit.client, backend⟩, .awaiting⟩ := by
    rw [exchange]
    exact Exchange.relay?_performRelay_self added .await
  have found : (visit.after []).gateway.socket? visit.socket =
      some ⟨visit.headers, .waiting visit.relay [] false, []⟩ := by
    rw [performed]
    exact List.getElem?_concat_length
  refine ⟨.waits found ?_ present rfl Bool.noConfusion ?_, ?_⟩
  · rw [place]
    refine Gateway.soleUser_connect ?_ visit.requestId visit.uptime visit.peer visit.request
    rw [known]
    exact Journal.bounded_of settings origins steps
  · have news : visit.before.gateway.tells visit.step visit.socket = [] :=
      Gateway.tells_connect (congrArg (·.sockets) performed)
    show ((visit.before.take visit.step).told visit.socket).filter _ = []
    rw [Journal.told_take, told_before known, news]
    rfl
  · rw [exchange]
    exact board

end Visit

end HubRelay
