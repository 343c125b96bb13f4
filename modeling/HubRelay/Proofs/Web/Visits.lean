import HubRelay.Proofs.Exchange.Routing
import HubRelay.Proofs.Web.Addresses
import HubRelay.Proofs.Web.Stages

/-!
Contract: a client that asks to connect is let in exactly if its backend lets it in.

Owns: what whoever asks to connect earns; that this is answered, once, as soon as the client has
been decided about; that whoever is not let in is gone; and that a request that does not properly
ask for a socket changes nothing.

Does not own: what goes over the socket.
-/

namespace HubRelay

open Switchboard

/-! ## What is answered -/

namespace Http

theorem ApiError.eq_of_message {one other : ApiError} (codes : one.code = other.code)
    (messages : one.message = other.message) : one = other := by
  -- two kinds differ in their codes, and within a kind only the details can differ
  cases one <;> cases other <;> simp only [code, String.reduceEq] at codes
  all_goals exact congrArg _ ((String.append_right_inj _).1 messages)

/-- An answer that reports a failure tells which one. -/
theorem Response.failure_injective {one other : ApiError} {id otherId : String}
    (same : failure one id = failure other otherId) : one = other := by
  simp only [failure, ApiError.body, Response.mk.injEq, Option.some.injEq, Json.object.injEq,
    List.cons.injEq, Prod.mk.injEq, Json.string.injEq, true_and, and_true] at same
  obtain ⟨-, ⟨codes, messages⟩, -⟩ := same
  exact ApiError.eq_of_message codes messages

end Http

/-- What a request to connect is answered. -/
inductive Answer where
  | upgraded (protocol : Option String)
  | failed (error : Http.ApiError)

namespace Visit

variable (visit : Visit)

/-- When a client that is added can be decided about no more. -/
def deadline : Nat :=
  visit.before.course.exchange.board.now +
    visit.before.course.exchange.board.settings.handshakeTimeout

/-- The request was answered so, and not otherwise. -/
def Gets (later : List Gateway.Step) : Answer → Prop
  | .upgraded protocol => visit.answers later = [.upgraded protocol]
  | .failed error => ∃ id origin, visit.answers later = [.answered (.failure error id) origin]

/-- A registered backend of the hub takes connections. -/
def Invited (hub : String) : Prop :=
  ∃ entry ∈ visit.before.course.roll, entry.hub = hub ∧ connectEvent ∈ entry.events

/-- A backend is picked for the client. -/
def Routes (hub : String) (backend : BackendKey) (routed : Switchboard) : Prop :=
  visit.before.course.exchange.board.route hub visit.context connectEvent =
    (.ok (backend, visit.client), routed)

/-- A backend is picked for the client, and its queue answers the question about it so. -/
def Asks (hub : String) (answer : Except RouteError Unit) : Prop :=
  ∃ backend routed, visit.Routes hub backend routed ∧
    (routed.enqueue backend (.connect hub (Exchange.routedId routed visit.client)
      visit.context)).1 = answer

/-- A decision about the client was applied. -/
def Applied (later : List Gateway.Step) (decision : Decision) : Prop :=
  (visit.after later).course.Applied visit.client decision

/-- The deadline of the client has come. -/
def Expired (later : List Gateway.Step) : Prop :=
  visit.deadline ≤ (visit.after later).course.exchange.board.now

/-- What is earned by whoever asks to connect to a hub. -/
inductive Earns (hub : String) (later : List Gateway.Step) : Answer → Prop where
  | noRoute (uninvited : ¬ visit.Invited hub) :
      Earns hub later (.failed (.noRoute (RouteError.noRoute hub connectEvent).message))
  | unavailable {error : RouteError} (refused : visit.Asks hub (.error error)) :
      Earns hub later (.failed (.unavailable error.message))
  | upgraded {chosen : Option String} (asked : visit.Asks hub (.ok ()))
      (approved : visit.Applied later (.approve chosen)) :
      Earns hub later (.upgraded (Http.Upgrade.agreed visit.headers chosen))
  | rejected {reason : String} (asked : visit.Asks hub (.ok ()))
      (rejected : visit.Applied later (.reject reason)) :
      Earns hub later (.failed (.rejected reason))
  | timedOut (asked : visit.Asks hub (.ok ()))
      (undecided : ∀ decision, ¬ visit.Applied later decision) (expired : visit.Expired later) :
      Earns hub later (.failed (.rejected "approval timed out"))

/-- A failure tells by its status and its code what came of asking a backend. -/
structure Reports (hub : String) (error : Http.ApiError) : Prop where
  noRoute : (error.status, error.code) = (503, "NO_ROUTE") ↔ ¬ visit.Invited hub
  unavailable : (error.status, error.code) = (503, "SERVICE_UNAVAILABLE") ↔
    ∃ refusal, visit.Asks hub (.error refusal)
  rejected : (error.status, error.code) = (400, "CONNECTION_REJECTED") ↔ visit.Asks hub (.ok ())

/-- How a request goes on that properly asks to connect to a hub. -/
structure Received (hub : String) (later : List Gateway.Step) : Prop where
  /-- Somebody is asked, or has no room for the question, exactly if the hub takes connections: -/
  invited : visit.Invited hub ↔ ∃ answer, visit.Asks hub answer
  /-- a registered backend of the hub that takes connections. -/
  selected : ∀ backend routed, visit.Routes hub backend routed →
    ∃ entry ∈ visit.before.course.roll, entry.key = backend ∧ entry.hub = hub ∧
      connectEvent ∈ entry.events
  /-- Otherwise nothing is changed by the request. -/
  unchanged : ¬ visit.Invited hub →
    (visit.after []).course.exchange = visit.before.course.exchange
  /-- There is one answer at most, and once there is one it is what is earned. -/
  once : (visit.answers later).length ≤ 1
  exact : ∀ answer, visit.Gets later answer ↔
    visit.answers later ≠ [] ∧ visit.Earns hub later answer
  answered : visit.answers later ≠ [] → ∃ answer, visit.Gets later answer
  reported : ∀ error, visit.Gets later (.failed error) → visit.Reports hub error
  /-- If nobody was asked there is an answer at once.  Otherwise there is one when a decision was
  applied or the deadline has come, and then the relay looks and the request goes on. -/
  immediate : ¬ visit.Asks hub (.ok ()) → visit.answers later ≠ []
  prompt : visit.Asks hub (.ok ()) →
    (∃ decision, visit.Applied later decision) ∨ visit.Expired later →
      ∀ between id, visit.answers (later ++ .elsewhere (.relay visit.relay .settle) ::
        (between ++ [.goOn id visit.socket])) ≠ []
  /-- Decisions were applied before the deadline. -/
  timely : visit.Asks hub (.ok ()) → ∀ decision, visit.Applied later decision →
    ∃ moment ∈ (visit.after later).course.past,
      moment.decided? visit.client = some decision ∧ moment.before.board.now < visit.deadline
  /-- A protocol is named only if the backend chose it and the client offered it. -/
  agreed : ∀ protocol, visit.Gets later (.upgraded (some protocol)) →
    visit.Applied later (.approve (some protocol)) ∧
      protocol ∈ Http.Upgrade.offered visit.headers
  /-- A client that is not let in is in no hub, and nothing but the question was told of it. -/
  gone : ∀ error backend routed, visit.Routes hub backend routed →
    visit.Gets later (.failed error) →
      ∃ entry, entry.hub = hub ∧ entry.context = visit.context ∧
        (visit.after later).course.Departed visit.client entry

/-- A request for a place where clients connect is answered so that does not properly ask to. -/
def improperStatus : Nat :=
  if visit.request.received.method = "OPTIONS" then 200
  else if visit.request.received.method = "GET" then 400 else 405

/-- Nothing comes of a request but a status. -/
structure Ignored (status : Nat) : Prop where
  unchanged : (visit.after []).course = visit.before.course
  answered : ∀ later, visit.answers later = [.answered (.bare status)
    (visit.before.gateway.origins.allowed visit.headers)]

/-- What comes of a request for a place where clients connect. -/
structure Handled : Prop where
  proper : ∀ hub, visit.request.received.visits? = some hub → ∀ later, visit.Received hub later
  improper : ∀ segment,
    Http.Resource.ofPath? visit.request.received.path = some (.client segment) →
      visit.request.received.visits? = none → visit.Ignored visit.improperStatus

end Visit

/-! ## Who is asked -/

namespace Visit

variable {visit : Visit} {settings : Settings} {origins : List String}
  {steps later : List Gateway.Step} {hub : String} {backend : BackendKey} {routed : Switchboard}
  {answer : Answer}

theorem routing_before (known : visit.before = .of settings origins steps) (hub : String) :
    visit.before.course.RoutesExactly settings.selection hub connectEvent visit.context := by
  obtain ⟨actions, same⟩ := course_before known
  rw [same]
  exact Course.routing_exact settings actions hub connectEvent visit.context

theorem invited_iff (known : visit.before = .of settings origins steps) :
    visit.Invited hub ↔ ∃ answer, visit.Asks hub answer := by
  have exact := routing_before known hub
  constructor
  · intro invited
    obtain ⟨route, routed⟩ := exact.succeeds_iff.2 invited
    obtain ⟨entry, -, _, _, -, -, rfl, -⟩ := exact.found route _ (Prod.ext routed rfl)
    exact ⟨_, entry.key, _, Prod.ext routed rfl, rfl⟩
  · rintro ⟨_, backend, routed, routes, -⟩
    exact exact.succeeds_iff.1 ⟨_, congrArg Prod.fst routes⟩

theorem Asks.unique {one other : Except RouteError Unit} (first : visit.Asks hub one)
    (second : visit.Asks hub other) : one = other := by
  obtain ⟨backend, routed, routes, rfl⟩ := first
  obtain ⟨_, _, again, rfl⟩ := second
  obtain ⟨route, rfl⟩ := Prod.mk.inj (routes.symm.trans again)
  obtain ⟨rfl, -⟩ := Prod.mk.inj (Except.ok.inj route)
  rfl

theorem course_first (visits : visit.request.received.visits? = some hub) :
    (visit.after []).course =
      (Http.Service.visitActions visit.before.course.exchange hub visit.context).foldl Course.take
        visit.before.course := by
  have actions : visit.before.gateway.actions visit.step = _ :=
    Gateway.actions_of_visits visits visit.requestId visit.uptime visit.peer
  rw [← visit.before.same] at actions
  exact congrArg (List.foldl _ _) actions

/-- Who has come with a visit, whatever has become of it. -/
structure Guest (visit : Visit) (hub : String) (later : List Gateway.Step) (entry : Client) :
    Prop where
  found : (visit.after later).course.exchange.board.client? visit.client = some entry
  inHub : entry.hub = hub
  withContext : entry.context = visit.context
  deadline : entry.handshake.deadline = visit.deadline

/-- For whom a backend is picked is added, and asked about by its own id. -/
theorem newcomer_of_routes (known : visit.before = .of settings origins steps)
    (routes : visit.Routes hub backend routed) :
    ∃ newcomer, routed.client? visit.client = some newcomer ∧ newcomer.hub = hub ∧
      newcomer.context = visit.context ∧ newcomer.handshake.deadline = visit.deadline ∧
      Exchange.routedId routed visit.client = newcomer.id := by
  obtain ⟨actions, same⟩ := course_before known
  have routing := routes
  rw [Routes, same] at routing
  obtain ⟨-, newcomer, added, inHub, withContext, deadline⟩ :=
    Course.newcomer_of_route settings actions routing
  have named : Exchange.routedId routed visit.client = newcomer.id := by
    rw [Exchange.routedId, added]
    rfl
  refine ⟨newcomer, added, inHub, withContext, ?_, named⟩
  rw [deadline, Visit.deadline, same, Course.settings_of]

theorem guest_of (known : visit.before = .of settings origins steps)
    (visits : visit.request.received.visits? = some hub)
    (routes : visit.Routes hub backend routed) (later : List Gateway.Step) :
    ∃ entry, visit.Guest hub later entry := by
  obtain ⟨newcomer, added, inHub, withContext, deadline, -⟩ := newcomer_of_routes known routes
  obtain ⟨first, there, goesOn⟩ := Course.onward_of_route routes added
  have begins : ∃ entry, (visit.after []).course.exchange.board.client? visit.client = some entry ∧
      first.Onward entry := by
    rw [course_first visits, Course.exchange_foldl_take, Http.Service.visitActions, List.foldl_cons]
    exact Exchange.client?_foldl _ there
  obtain ⟨second, here, onward⟩ := begins
  obtain ⟨entry, found, further⟩ := Journal.client?_run here later
  have all := goesOn.trans (onward.trans further)
  exact ⟨entry, found, all.hub_eq.trans inHub, all.context_eq.trans withContext,
    all.deadline_eq.trans deadline⟩

/-! ## What is earned -/

theorem Gets.answered (gets : visit.Gets later answer) : visit.answers later ≠ [] := by
  cases answer with
  | upgraded protocol =>
    rw [show visit.answers later = _ from gets]
    exact List.cons_ne_nil _ _
  | failed error =>
    obtain ⟨id, origin, answers⟩ := gets
    rw [answers]
    exact List.cons_ne_nil _ _

theorem Gets.unique {other : Answer} (first : visit.Gets later answer)
    (second : visit.Gets later other) : answer = other := by
  cases answer with
  | upgraded protocol =>
    cases other with
    | upgraded _ =>
      have same := List.singleton_inj.1 (first.symm.trans second)
      rw [SocketNews.upgraded.inj same]
    | failed error =>
      obtain ⟨id, origin, answers⟩ := second
      cases first.symm.trans answers
  | failed error =>
    obtain ⟨id, origin, answers⟩ := first
    cases other with
    | upgraded _ => cases answers.symm.trans second
    | failed _ =>
      obtain ⟨otherId, otherOrigin, again⟩ := second
      have same := List.singleton_inj.1 (answers.symm.trans again)
      rw [Http.Response.failure_injective (SocketNews.answered.inj same).1]

/-- Whoever is let in was let in by its backend. -/
theorem Earns.approved (earns : visit.Earns hub later answer) {protocol : Option String}
    (upgraded : answer = .upgraded protocol) : ∃ chosen, visit.Applied later (.approve chosen) ∧
      protocol = Http.Upgrade.agreed visit.headers chosen := by
  cases earns with
  | upgraded asked approved =>
    obtain rfl := Answer.upgraded.inj upgraded
    exact ⟨_, approved, rfl⟩
  | noRoute | unavailable | rejected | timedOut => cases upgraded

/-- There is one thing at most to be earned. -/
theorem Earns.unique (known : visit.before = .of settings origins steps) {other : Answer}
    (first : visit.Earns hub later answer) (second : visit.Earns hub later other) :
    answer = other := by
  have invites {answer : Except RouteError Unit} (asks : visit.Asks hub answer) :
      visit.Invited hub := (invited_iff known).2 ⟨answer, asks⟩
  have decides {one other : Decision} (first : visit.Applied later one)
      (second : visit.Applied later other) : one = other :=
    (decided_after known later).unique first second
  cases first with
  | noRoute uninvited =>
    cases second with
    | noRoute => rfl
    | unavailable asks | upgraded asks _ | rejected asks _ | timedOut asks _ _ =>
      exact absurd (invites asks) uninvited
  | unavailable refused =>
    cases second with
    | noRoute uninvited => exact absurd (invites refused) uninvited
    | unavailable again => rw [Except.error.inj (refused.unique again)]
    | upgraded asks _ | rejected asks _ | timedOut asks _ _ => cases refused.unique asks
  | upgraded asked approved =>
    cases second with
    | noRoute uninvited => exact absurd (invites asked) uninvited
    | unavailable refused => cases asked.unique refused
    | upgraded _ again => rw [Decision.approve.inj (decides approved again)]
    | rejected _ rejected => cases decides approved rejected
    | timedOut _ undecided _ => exact absurd approved (undecided _)
  | rejected asked rejected =>
    cases second with
    | noRoute uninvited => exact absurd (invites asked) uninvited
    | unavailable refused => cases asked.unique refused
    | upgraded _ approved => cases decides rejected approved
    | rejected _ again => rw [Decision.reject.inj (decides rejected again)]
    | timedOut _ undecided _ => exact absurd rejected (undecided _)
  | timedOut asked undecided =>
    cases second with
    | noRoute uninvited => exact absurd (invites asked) uninvited
    | unavailable refused => cases asked.unique refused
    | upgraded _ applied | rejected _ applied => exact absurd applied (undecided _)
    | timedOut => rfl

/-- A failure that is earned tells what came of asking. -/
theorem Earns.reported (known : visit.before = .of settings origins steps) {error : Http.ApiError}
    (earns : visit.Earns hub later (.failed error)) : visit.Reports hub error := by
  have rejected {reason : String} (asked : visit.Asks hub (.ok ())) :
      visit.Reports hub (.rejected reason) := by
    have invited : visit.Invited hub := (invited_iff known).2 ⟨_, asked⟩
    have accepted : ¬ ∃ refusal, visit.Asks hub (.error refusal) := fun ⟨_, refused⟩ => by
      cases asked.unique refused
    constructor <;> simp [Http.ApiError.status, Http.ApiError.code, invited, accepted, asked]
  cases earns with
  | noRoute uninvited =>
    have unasked (answer : Except RouteError Unit) : ¬ visit.Asks hub answer :=
      fun asks => uninvited ((invited_iff known).2 ⟨answer, asks⟩)
    constructor <;> simp [Http.ApiError.status, Http.ApiError.code, uninvited, unasked]
  | unavailable refused =>
    have invited : visit.Invited hub := (invited_iff known).2 ⟨_, refused⟩
    have unasked : ¬ visit.Asks hub (.ok ()) := fun asked => by cases asked.unique refused
    have asks : ∃ refusal, visit.Asks hub (.error refusal) := ⟨_, refused⟩
    constructor <;> simp [Http.ApiError.status, Http.ApiError.code, invited, unasked, asks]
  | rejected asked _ | timedOut asked _ _ => exact rejected asked

/-! ## What is answered at once -/

/-- If no relay can be opened, that is answered. -/
theorem answers_of_unopened (known : visit.before = .of settings origins steps)
    (visits : visit.request.received.visits? = some hub) {error : RelayError} {exchange : Exchange}
    (failed : visit.before.course.exchange.openRelay hub visit.context = (.error error, exchange))
    (later : List Gateway.Step) : ∃ origin, visit.answers later =
      [.answered (.failure (.ofRelay error) visit.requestId) origin] := by
  have handled := Http.Service.handle_of_visits visits visit.before.course.exchange
    ⟨visit.requestId, visit.uptime⟩
  have opening : visit.before.course.exchange.openRelay hub
      (Http.captureContext visit.request.received.headers) = _ := failed
  rw [opening, visit.before.same] at handled
  exact ⟨_, answers_of_answered known handled later⟩

theorem route_of_uninvited (known : visit.before = .of settings origins steps)
    (uninvited : ¬ visit.Invited hub) :
    visit.before.course.exchange.board.route hub visit.context connectEvent =
      (.error (.noRoute hub connectEvent), visit.before.course.exchange.board) := by
  have exact := routing_before known hub
  cases routed : visit.before.course.exchange.board.route hub visit.context connectEvent with
  | mk answer later =>
    cases answer with
    | ok route => exact absurd (exact.succeeds_iff.1 ⟨route, congrArg Prod.fst routed⟩) uninvited
    | error error =>
      obtain ⟨rfl, rfl⟩ := exact.refused error later routed
      rfl

theorem gets_of_uninvited (known : visit.before = .of settings origins steps)
    (visits : visit.request.received.visits? = some hub) (uninvited : ¬ visit.Invited hub)
    (later : List Gateway.Step) :
    visit.Gets later (.failed (.noRoute (RouteError.noRoute hub connectEvent).message)) := by
  have opening := Exchange.openRelay_of_refused (route_of_uninvited known uninvited)
  obtain ⟨origin, answers⟩ := answers_of_unopened known visits opening later
  exact ⟨visit.requestId, origin, answers⟩

/-- A queue that refuses an event is no reason to say that there is no route. -/
theorem ofRelay_of_refused {board : Switchboard} {event : Event} {error : RouteError}
    (refused : (board.enqueue backend event).1 = .error error) :
    Http.ApiError.ofRelay (.route error) = .unavailable error.message := by
  cases found : board.backend? backend with
  | none =>
    rw [enqueue, found] at refused
    cases refused
    rfl
  | some entry =>
    rw [enqueue_eq_error_iff _ found] at refused
    rcases refused with ⟨-, rfl⟩ | ⟨-, -, rfl⟩ <;> rfl

theorem forgotten_of_refused (known : visit.before = .of settings origins steps)
    (routes : visit.Routes hub backend routed) {error : RouteError}
    (refused : (routed.enqueue backend (.connect hub (Exchange.routedId routed visit.client)
      visit.context)).1 = .error error) :
    visit.before.course.exchange.openRelay hub visit.context = (.error (.route error),
        ⟨routed.dropClient visit.client, visit.before.course.exchange.relays⟩) ∧
      (visit.before.course.take (.openRelay hub visit.context)).Forgotten visit.client := by
  obtain ⟨newcomer, added, -, -, -, named⟩ := newcomer_of_routes known routes
  rw [named] at refused
  obtain ⟨actions, same⟩ := course_before known
  have orderly : visit.before.course.Orderly := same ▸ Course.orderly_of settings actions
  exact Course.forgotten_of_full orderly routes added refused

theorem forgotten_later (known : visit.before = .of settings origins steps)
    (visits : visit.request.received.visits? = some hub)
    (routes : visit.Routes hub backend routed) {error : RouteError}
    (refused : (routed.enqueue backend (.connect hub (Exchange.routedId routed visit.client)
      visit.context)).1 = .error error) (later : List Gateway.Step) :
    (visit.after later).course.Forgotten visit.client := by
  obtain ⟨opening, forgotten⟩ := forgotten_of_refused known routes refused
  have first : (visit.after []).course =
      visit.before.course.take (.openRelay hub visit.context) := by
    rw [course_first visits, Http.Service.visitActions, opening]
    rfl
  obtain ⟨actions, same⟩ := course_before known
  obtain ⟨more, goesOn⟩ := (visit.after []).course_run later
  rw [first, same, ← Course.of_concat] at goesOn
  rw [same, ← Course.of_concat] at forgotten
  show ((visit.after []).run later).course.Forgotten visit.client
  rw [goesOn]
  exact forgotten.foldl more

theorem gets_of_refused (known : visit.before = .of settings origins steps)
    (visits : visit.request.received.visits? = some hub) {error : RouteError}
    (asks : visit.Asks hub (.error error)) (later : List Gateway.Step) :
    visit.Gets later (.failed (.unavailable error.message)) := by
  obtain ⟨backend, routed, routes, refused⟩ := asks
  have opening := (forgotten_of_refused known routes refused).1
  obtain ⟨origin, answers⟩ := answers_of_unopened known visits opening later
  rw [ofRelay_of_refused refused] at answers
  exact ⟨visit.requestId, origin, answers⟩

/-! ## What is answered in the end -/

/-- A visit whose backend was asked has come to a stage. -/
theorem stage_of_asks (known : visit.before = .of settings origins steps)
    (visits : visit.request.received.visits? = some hub)
    (routes : visit.Routes hub backend routed)
    (asked : (routed.enqueue backend (.connect hub (Exchange.routedId routed visit.client)
      visit.context)).1 = .ok ()) (later : List Gateway.Step) :
    visit.Stage backend false (visit.after later) := by
  obtain ⟨newcomer, added, -, -, -, named⟩ := newcomer_of_routes known routes
  have opening := Exchange.openRelay_of_routed routes added
  rw [named] at asked
  cases taken : routed.enqueue backend (.connect hub newcomer.id visit.context) with
  | mk answer board =>
    rw [taken] at asked opening
    obtain rfl : answer = .ok () := asked
    have place : visit.relay = visit.before.course.exchange.relays.length := rfl
    rw [← place, visit.before.same] at opening
    exact (stage_of_asked known visits opening).1.run known later

/-- Whoever was turned away by its relay has earned it. -/
theorem earns_of_error (known : visit.before = .of settings origins steps)
    (asks : visit.Asks hub (.ok ())) {entry : Client} (guest : visit.Guest hub later entry)
    {error : HandshakeError} (shows : entry.handshake.state.answer? = some (.error error)) :
    visit.Earns hub later (.failed (.rejected error.reason)) := by
  have decided := decided_after known later
  cases state : entry.handshake.state with
  | pending | approved _ =>
    rw [state] at shows
    cases shows
  | rejected reason =>
    rw [state] at shows
    cases shows
    exact .rejected asks ((decided.applied_iff guest.found).2 state)
  | timedOut =>
    rw [state] at shows
    cases shows
    refine .timedOut asks (fun decision applied => ?_) ?_
    · have shown := (decided.applied_iff guest.found).1 applied
      rw [state] at shown
      cases decision <;> cases shown
    · have late := decided.late guest.found state
      rwa [guest.deadline] at late

/-- A visit whose backend was asked is not answered yet, or as it is earned. -/
theorem gets_of_asks (known : visit.before = .of settings origins steps)
    (visits : visit.request.received.visits? = some hub) (asks : visit.Asks hub (.ok ()))
    (later : List Gateway.Step) :
    visit.answers later = [] ∨
      ∃ answer, visit.Gets later answer ∧ visit.Earns hub later answer := by
  obtain ⟨backend, routed, routes, asked⟩ := asks
  obtain ⟨entry, guest⟩ := guest_of known visits routes later
  cases stage_of_asks known visits routes asked later with
  | waits _ _ _ _ _ silent => exact Or.inl silent
  | admitted _ applied answered =>
    exact Or.inr ⟨.upgraded _, answered, .upgraded ⟨backend, routed, routes, asked⟩ applied⟩
  | refused _ present answered =>
    refine Or.inr ⟨.failed _, ⟨_, _, answered⟩, ?_⟩
    rw [← (visit.after later).same] at present
    obtain ⟨same, found, shows⟩ := informed_after known later _ _ _ present rfl
    obtain rfl := Option.some.inj (guest.found.symm.trans found)
    exact earns_of_error known ⟨backend, routed, routes, asked⟩ guest shows

/-- A visit is answered as it is earned, if it is answered; and it is unless its backend was
asked. -/
theorem gets_of_visits (known : visit.before = .of settings origins steps)
    (visits : visit.request.received.visits? = some hub) (later : List Gateway.Step) :
    (visit.answers later = [] ∧ visit.Asks hub (.ok ())) ∨
      ∃ answer, visit.Gets later answer ∧ visit.Earns hub later answer := by
  by_cases invited : visit.Invited hub
  · obtain ⟨answer, asks⟩ := (invited_iff known).1 invited
    cases answer with
    | error error =>
      exact Or.inr ⟨_, gets_of_refused known visits asks later, .unavailable asks⟩
    | ok => exact (gets_of_asks known visits asks later).imp (fun silent => ⟨silent, asks⟩) id
  · exact Or.inr ⟨_, gets_of_uninvited known visits invited later, .noRoute invited⟩

/-- A client that has been decided about, or that it is too late for, is answered when its relay
looks and its request goes on. -/
theorem prompt_of_asks (known : visit.before = .of settings origins steps)
    (visits : visit.request.received.visits? = some hub) (asks : visit.Asks hub (.ok ()))
    (due : (∃ decision, visit.Applied later decision) ∨ visit.Expired later)
    (between : List Gateway.Step) (id : String) :
    visit.answers (later ++ .elsewhere (.relay visit.relay .settle) ::
      (between ++ [.goOn id visit.socket])) ≠ [] := by
  obtain ⟨backend, routed, routes, asked⟩ := asks
  obtain ⟨entry, guest⟩ := guest_of known visits routes later
  have decided := decided_after known later
  have ended : entry.handshake.state ≠ .pending ∨
      entry.handshake.deadline ≤ (visit.after later).gateway.exchange.board.now := by
    rw [guest.deadline, ← (visit.after later).same]
    refine due.imp (fun ⟨decision, applied⟩ => ?_) fun expired => expired
    rw [(decided.applied_iff guest.found).1 applied]
    exact Course.ofDecision_ne_pending decision
  have found := guest.found
  rw [(visit.after later).same] at found
  have told := (stage_of_asks known visits routes asked later).settle found ended decided
    (informed_after known later)
  have looked : visit.Stage backend true
      (visit.after (later ++ [.elsewhere (.relay visit.relay .settle)])) := by
    rw [after_append]
    exact told
  have goesOn := looked.run known between
  have answered := goesOn.answered (decided_after known _) (informed_after known _) id
  rw [answers, ← List.singleton_append, ← List.append_assoc, ← List.append_assoc, after_append]
  exact answered

theorem timely_of_asks (known : visit.before = .of settings origins steps)
    (visits : visit.request.received.visits? = some hub) (asks : visit.Asks hub (.ok ()))
    {decision : Decision} (applied : visit.Applied later decision) :
    ∃ moment ∈ (visit.after later).course.past, moment.decided? visit.client = some decision ∧
      moment.before.board.now < visit.deadline := by
  obtain ⟨backend, routed, routes, -⟩ := asks
  obtain ⟨entry, guest⟩ := guest_of known visits routes later
  obtain ⟨moment, happened, decides, earlier, found, -, inTime⟩ := applied
  obtain ⟨actions, same⟩ := course_after known later
  have past := Course.onward_of_past settings actions moment (same ▸ happened) found
  rw [← same] at past
  obtain ⟨last, there, onward⟩ := past
  obtain rfl := Option.some.inj (guest.found.symm.trans there)
  rw [← onward.deadline_eq, guest.deadline] at inTime
  exact ⟨moment, happened, decides, inTime⟩

/-- A client that is not let in is gone. -/
theorem departed_of_failed (known : visit.before = .of settings origins steps)
    (visits : visit.request.received.visits? = some hub)
    (routes : visit.Routes hub backend routed) {error : Http.ApiError}
    (fails : visit.Gets later (.failed error)) {entry : Client}
    (guest : visit.Guest hub later entry) :
    (visit.after later).course.Departed visit.client entry := by
  have found := guest.found
  obtain ⟨actions, same⟩ := course_after known later
  rw [same] at found ⊢
  cases asked : (routed.enqueue backend (.connect hub (Exchange.routedId routed visit.client)
      visit.context)).1 with
  | error error =>
    have forgotten := forgotten_later known visits routes asked later
    exact Course.departed_of_forgotten (same ▸ forgotten) found
  | ok =>
    cases stage_of_asks known visits routes asked later with
    | waits _ _ _ _ _ silent => exact absurd silent fails.answered
    | admitted _ _ answered =>
      cases fails.unique (show visit.Gets later (.upgraded _) from answered)
    | refused _ present _ =>
      rw [← (visit.after later).same, same] at present
      exact Course.departed_of_refused settings actions present found

/-! ## What comes of a visit -/

theorem received_of (known : visit.before = .of settings origins steps)
    (visits : visit.request.received.visits? = some hub) (later : List Gateway.Step) :
    visit.Received hub later := by
  have gets := gets_of_visits known visits later
  constructor
  case invited => exact invited_iff known
  case selected =>
    intro backend routed routes
    obtain ⟨entry, among, _, _, inHub, wants, same, -⟩ :=
      (routing_before known hub).found _ _ routes
    exact ⟨entry, among, (Prod.mk.inj same).1.symm, inHub, wants⟩
  case unchanged =>
    intro uninvited
    have opening := Exchange.openRelay_of_refused (route_of_uninvited known uninvited)
    rw [course_first visits, Http.Service.visitActions, opening, Course.exchange_foldl_take]
    exact congrArg Prod.snd opening
  case once =>
    rcases gets with ⟨silent, -⟩ | ⟨answer, gets, -⟩
    · rw [silent]
      exact Nat.zero_le 1
    · cases answer with
      | upgraded protocol =>
        rw [show visit.answers later = _ from gets]
        exact Nat.le_refl 1
      | failed error =>
        obtain ⟨id, origin, answers⟩ := gets
        rw [answers]
        exact Nat.le_refl 1
  case exact =>
    intro answer
    constructor
    · intro asks
      rcases gets with ⟨silent, -⟩ | ⟨other, gets, earns⟩
      · exact absurd silent asks.answered
      · exact ⟨asks.answered, asks.unique gets ▸ earns⟩
    · rintro ⟨answered, earned⟩
      rcases gets with ⟨silent, -⟩ | ⟨other, gets, earns⟩
      · exact absurd silent answered
      · exact earned.unique known earns ▸ gets
  case answered =>
    intro answered
    rcases gets with ⟨silent, -⟩ | ⟨answer, gets, -⟩
    · exact absurd silent answered
    · exact ⟨answer, gets⟩
  case reported =>
    intro error fails
    rcases gets with ⟨silent, -⟩ | ⟨answer, gets, earns⟩
    · exact absurd silent fails.answered
    · exact Earns.reported known (fails.unique gets ▸ earns)
  case immediate =>
    intro unasked
    rcases gets with ⟨-, asks⟩ | ⟨answer, gets, -⟩
    · exact absurd asks unasked
    · exact gets.answered
  case prompt => exact prompt_of_asks known visits
  case timely => exact fun asks decision => timely_of_asks known visits asks
  case agreed =>
    intro protocol named
    rcases gets with ⟨silent, -⟩ | ⟨answer, gets, earns⟩
    · exact absurd silent named.answered
    · obtain ⟨chosen, approved, same⟩ := earns.approved (named.unique gets).symm
      obtain ⟨rfl, offered⟩ := Option.filter_eq_some_iff.1 same.symm
      exact ⟨approved, List.contains_iff_mem.1 offered⟩
  case gone =>
    intro error backend routed routes fails
    obtain ⟨entry, guest⟩ := guest_of known visits routes later
    exact ⟨entry, guest.inHub, guest.withContext,
      departed_of_failed known visits routes fails guest⟩

end Visit

namespace Http.Service

/-- What is answered to a request for a place where clients connect that does not properly ask
to. -/
theorem handle_of_improper {request : Request} {segment : List Char}
    (named : Resource.ofPath? request.path = some (.client segment))
    (improper : request.visits? = none) (exchange : Exchange) (circumstances : Circumstances) :
    handle exchange circumstances request = (.answered (.bare
      (if request.method = "OPTIONS" then 200 else if request.method = "GET" then 400 else 405)),
        exchange) := by
  by_cases options : request.method = "OPTIONS"
  · rw [handle, if_pos options, if_pos options]
  by_cases gets : request.method = "GET"
  · have served : handle exchange circumstances request =
        serve exchange circumstances request (.client segment) := by
      simp [handle, gets, named, Resource.admits]
    rw [served, serve, if_neg options, if_pos gets]
    unfold Request.visits? at improper
    rw [named] at improper
    cases refusal : Upgrade.refusal? request with
    | some status =>
      unfold Upgrade.refusal? at refusal
      rw [if_neg (not_not.2 gets)] at refusal
      split at refusal
      · contradiction
      · rw [← Option.some.inj refusal]
    | none =>
      simp only [refusal, if_true] at improper
      simp only [connect, improper]
  · simp [handle, options, named, Resource.admits, gets]

end Http.Service

namespace Visit

variable {visit : Visit} {settings : Settings} {origins : List String} {steps : List Gateway.Step}

/-- A request for a place where clients connect calls for nothing but to be connected. -/
theorem actions_of_improper {segment : List Char}
    (named : Http.Resource.ofPath? visit.request.received.path = some (.client segment))
    (improper : visit.request.received.visits? = none) :
    visit.before.gateway.actions visit.step = [] := by
  have silent : visit.request.received.approves? = none := by
    unfold Http.Request.approves?
    split
    · next other => cases other.symm.trans named
    · rfl
  have still : visit.request.received.broadcasts? = none := by
    unfold Http.Request.broadcasts?
    split
    · next other => cases other.symm.trans named
    · rfl
  rw [step, Gateway.actions, Http.Service.actions, improper, silent, still,
    Http.Service.handle_of_improper named improper]
  rfl

theorem ignored_of (known : visit.before = .of settings origins steps) {segment : List Char}
    (named : Http.Resource.ofPath? visit.request.received.path = some (.client segment))
    (improper : visit.request.received.visits? = none) : visit.Ignored visit.improperStatus := by
  have handled := Http.Service.handle_of_improper named improper visit.before.gateway.exchange
    ⟨visit.requestId, visit.uptime⟩
  refine ⟨?_, answers_of_answered known handled⟩
  show (visit.before.gateway.actions visit.step).foldl Course.take visit.before.course = _
  rw [actions_of_improper named improper]
  rfl

end Visit

/-- After every journal, whoever asks to connect is answered what it has earned, and comes to
nothing else. -/
theorem Journal.visits_answered (settings : Settings) (origins : List String)
    (steps : List Gateway.Step) (requestId : String) (uptime : Nat) (peer : Option SocketAddress)
    (request : Http.Request) :
    Visit.Handled ⟨of settings origins steps, requestId, uptime, peer, request⟩ where
  proper := fun _ visits later => Visit.received_of rfl visits later
  improper := fun _ named improper => Visit.ignored_of rfl named improper

/-- Somebody asks to connect to a hub with a backend. -/
def Visit.opening : Visit where
  before := .of .standard [] [.elsewhere (.request (.register "chat" "bot" [connectEvent]))]
  requestId := "r"
  uptime := 0
  peer := none
  request := .toConnect "chat"

/-- The backend lets the client in, its relay looks, and the request goes on. -/
def Visit.welcome : List Gateway.Step :=
  [.elsewhere (.request (.decide 0 (.approve none))), .elsewhere (.relay opening.relay .settle),
    .goOn "r" opening.socket]

theorem Visit.opening_upgraded :
    opening.request.received.visits? = some "chat" ∧ opening.Gets welcome (.upgraded none) ∧
      opening.Earns "chat" welcome (.upgraded none) := by
  have visits : opening.request.received.visits? = some "chat" :=
    Http.Request.visits?_toConnect (by decide)
  have gets : opening.Gets welcome (.upgraded none) := by
    show opening.answers welcome = [.upgraded none]
    decide +kernel
  have handled := Journal.visits_answered .standard []
    [.elsewhere (.request (.register "chat" "bot" [connectEvent]))] "r" 0 none (.toConnect "chat")
  exact ⟨visits, gets, (((handled.proper "chat" visits welcome).exact _).1 gets).2⟩

end HubRelay
