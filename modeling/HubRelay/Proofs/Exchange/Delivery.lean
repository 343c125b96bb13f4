import HubRelay.Proofs.Exchange.Fidelity
import HubRelay.Proofs.Exchange.Handing

/-!
Contract: what is sent reaches the clients that are meant whose relays run, and nobody else.

Owns: for whom anything can be handed over along every course, what the three ways to send do and
answer, and that what was handed over for a client is what was sent to it while its relay ran.

Does not own: what is written to a client of what was handed over for it.

Sends do not ask whether a client was let in.  That nobody else is reached follows from who can be
handed anything at all: a relay lets that begin when it starts to run and ends it when it stops,
and nothing else changes it.
-/

namespace HubRelay

open Switchboard

/-- Whether a relay runs. -/
def RelayPhase.isRunning : RelayPhase → Bool
  | .running _ => true
  | _ => false

/-- Somebody is handed something only by a relay that runs, if it was so before. -/
theorem Deed.isRunning {board : Switchboard} {connection : Connection} {client later : Client}
    {given heard : Source} {action : RelayAction} {phase next : RelayPhase} {events : List Event}
    (deed : Deed board connection client given action phase later events next heard)
    (before : client.outbound.isSome = true → phase.isRunning = true)
    (attached : later.outbound.isSome = true) : next.isRunning = true := by
  cases deed with
  | idle => exact before attached
  | await => exact before attached
  | letIn _ outbound =>
    rw [outbound] at attached
    exact before attached
  | turnedAway outbound =>
    rw [outbound] at attached
    contradiction
  | start | feed | endSource | write | takeIn | pass => rfl
  | cancel | failToWrite | failToPass | hearEnd | failToRead | announce | vanish | drop =>
    contradiction

namespace Exchange

/-- Whether the relay of a client runs. -/
def isRunning (exchange : Exchange) (client : ClientKey) : Bool :=
  exchange.relays.any fun relay => relay.phase.isRunning && relay.connection.client == client

variable {exchange : Exchange} {client : ClientKey} {action : Action}

theorem isRunning_iff : exchange.isRunning client = true ↔ ∃ key relay,
    exchange.relay? key = some relay ∧ relay.phase.isRunning = true ∧
      relay.connection.client = client := by
  rw [isRunning, List.any_eq_true]
  constructor
  · rintro ⟨relay, member, runs⟩
    obtain ⟨key, present⟩ := List.mem_iff_getElem?.1 member
    rw [Bool.and_eq_true, beq_iff_eq] at runs
    exact ⟨key, relay, present, runs⟩
  · rintro ⟨key, relay, present, runs, same⟩
    refine ⟨relay, List.mem_of_getElem? present, ?_⟩
    rw [runs, same, Bool.true_and, beq_self_eq_true]

theorem hushed_openRelay (exchange : Exchange) (hub : String) (context : Context) :
    Hushed none exchange.board (exchange.perform (.openRelay hub context)).board := by
  have routes : Hushed none exchange.board
      (exchange.board.route hub context connectEvent).2 := hushed_route _ hub context connectEvent
  rcases exchange.openRelay_cases hub context with
    ⟨error, later, refused, opened⟩ | ⟨backend, client, routed, routing, answer⟩
  · rw [refused] at routes
    rw [opened]
    exact routes
  · rw [routing] at routes
    rcases answer with ⟨error, -, opened⟩ | ⟨-, opened⟩
    · rw [opened]
      intro key far
      by_cases new : client = key
      · -- nobody else is let go of, and whoever is was not there before
        subst new
        have missing : exchange.board.client? client = none := by
          rcases exchange.board.route_cases hub context connectEvent with
            ⟨_, _, answered, -⟩ | ⟨_, _, _, -, -, answered⟩
          · rw [routing] at answered
            cases answered
          · rw [routing] at answered
            cases answered
            exact List.getElem?_eq_none (Nat.le_refl _)
        exact (outbound?_dropClient routed client).trans (outbound?_of_missing missing).symm
      · have dropped := hushed_dropClient routed client key fun same => new (Option.some.inj same)
        exact dropped.trans (routes key far)
    · rw [opened]
      exact routes.trans (.of_same (clients_enqueue routed backend _))

/-- Whatever sends nothing hands nothing over but perhaps for one client. -/
theorem hushed_perform (silent : ∀ request, action = .request request → request.parcel? = none) :
    Hushed (exchange.touched action) exchange.board (exchange.perform action).board := by
  cases action with
  | request request => exact Switchboard.hushed_perform exchange.board (silent request rfl)
  | openRelay hub context => exact exchange.hushed_openRelay hub context
  | release client =>
    show Hushed (exchange.touched (.release client)) exchange.board (exchange.release client).board
    simp only [release, touched]
    split
    · exact .refl exchange.board
    · exact hushed_dropClient exchange.board client
  | relay key own =>
    show Hushed _ exchange.board (exchange.performRelay key own).board
    cases found : exchange.relay? key with
    | none =>
      rw [performRelay_of_missing found]
      exact .refl exchange.board
    | some relay =>
      rw [performRelay_eq found, touched, found]
      exact relay.hushed_act exchange.board own

/-- A client is touched when it is let go of and when its relay acts. -/
theorem touched_cases (touches : exchange.touched action = some client) :
    action = .release client ∧
        exchange.perform action = { exchange with board := exchange.board.dropClient client } ∨
      ∃ key own relay, action = .relay key own ∧ exchange.relay? key = some relay ∧
        relay.connection.client = client := by
  cases action with
  | request request => contradiction
  | openRelay hub context => contradiction
  | release other =>
    simp only [touched] at touches
    split at touches
    · contradiction
    · next free =>
      obtain rfl := Option.some.inj touches
      exact Or.inl ⟨rfl, if_neg free⟩
  | relay key own =>
    obtain ⟨relay, present, same⟩ := Option.map_eq_some_iff.1 touches
    exact Or.inr ⟨key, own, relay, rfl, present, same⟩

end Exchange

/-- An action either sends a payload to some clients, or it sends nothing. -/
theorem Action.parcel_cases (action : Action) :
    (∀ request, action = .request request → request.parcel? = none) ∨
      ∃ request chosen payload, action = .request request ∧
        request.parcel? = some (chosen, payload) := by
  by_cases silent : ∀ request, action = .request request → request.parcel? = none
  · exact Or.inl silent
  · push Not at silent
    obtain ⟨request, rfl, sends⟩ := silent
    obtain ⟨⟨chosen, payload⟩, sends⟩ := Option.ne_none_iff_exists'.1 sends
    exact Or.inr ⟨request, chosen, payload, rfl, sends⟩

/-- What was sent to a client in a moment, if its relay ran. -/
def Moment.addressed (moment : Moment) (key : ClientKey) : List Payload :=
  match moment.action with
  | .request request =>
    match request.parcel?, moment.before.board.client? key with
    | some (chosen, payload), some client =>
      if chosen key client && moment.before.isRunning key then [payload] else []
    | _, _ => []
  | .release _ | .openRelay _ _ | .relay _ _ => []

theorem Moment.addressed_of_silent {moment : Moment}
    (silent : ∀ request, moment.action = .request request → request.parcel? = none)
    (key : ClientKey) : moment.addressed key = [] := by
  unfold addressed
  split
  · next request acts => rw [silent request acts]
  all_goals rfl

namespace Course

/-- What was sent to a client while its relay ran, in order. -/
def addressed (course : Course) (client : ClientKey) : List Payload :=
  course.past.flatMap (·.addressed client)

/-- Something can be handed over for those whose relays run, and for nobody else. -/
def Attaches (course : Course) : Prop :=
  ∀ client, course.exchange.board.isAttached client = course.exchange.isRunning client

variable {course : Course} {action : Action} {key : ClientKey} {client : Client}

/-- A client whose relay runs is held by it. -/
theorem Attaches.attended (attaches : course.Attaches) :
    course.exchange.board.Attended course.holdings.holds := by
  intro client attached
  rw [attaches] at attached
  obtain ⟨key, relay, present, runs, same⟩ := Exchange.isRunning_iff.1 attached
  refine (course.holdings.holds_iff client).2 (Or.inr ⟨key, relay, present, ?_, same⟩)
  obtain ⟨connection, phase⟩ := relay
  cases phase <;> first | rfl | contradiction

/-- The client of a relay does not go away. -/
theorem client_of_relay (settings : Settings) (actions : List Action) (key : RelayKey)
    (relay : Relay) (present : (of settings actions).exchange.relay? key = some relay) :
    ∃ client,
      (of settings actions).exchange.board.client? relay.connection.client = some client := by
  obtain ⟨client, _, _, story⟩ := story_of settings actions present
  exact ⟨client, story.found⟩

theorem isAttached_of_running (settings : Settings) (actions : List Action)
    (runs : (of settings actions).exchange.isRunning key = true) :
    (of settings actions).exchange.board.isAttached key = true := by
  obtain ⟨relayKey, ⟨connection, phase⟩, present, loops, rfl⟩ := Exchange.isRunning_iff.1 runs
  obtain ⟨client, said, left, story⟩ := story_of settings actions present
  cases phase with
  | running loop =>
    obtain ⟨waiting, outbound, -⟩ := Running.shows story.stands
    rw [isAttached_of_client? story.found, outbound]
    rfl
  | _ => contradiction

/-- Whoever is not touched by an action can be handed something after it if it was so before. -/
theorem isAttached_take (orderly : course.Orderly) (attaches : course.Attaches)
    (far : course.exchange.touched action ≠ some key) :
    (course.take action).exchange.board.isAttached key = course.exchange.board.isAttached key := by
  rcases action.parcel_cases with silent | ⟨request, chosen, payload, rfl, sends⟩
  · exact congrArg Option.isSome (Exchange.hushed_perform silent key far)
  · show (course.exchange.board.perform request).isAttached key = _
    rw [perform_of_parcel orderly.sound attaches.attended sends, isAttached_handTo]

/-- What only running relays let begin, no action lets begin otherwise. -/
theorem running_of_attached (orderly : course.Orderly) (attaches : course.Attaches)
    (present : ∀ key relay, course.exchange.relay? key = some relay →
      ∃ client, course.exchange.board.client? relay.connection.client = some client)
    (attached : (course.take action).exchange.board.isAttached key = true) :
    (course.take action).exchange.isRunning key = true := by
  by_cases touches : course.exchange.touched action = some key
  · rcases Exchange.touched_cases touches with
      ⟨-, dropped⟩ | ⟨relayKey, own, relay, rfl, here, rfl⟩
    · have gone : (course.take action).exchange.board.outbound? key = none := by
        show (course.exchange.perform action).board.outbound? key = none
        rw [dropped, outbound?_dropClient]
      rw [isAttached, gone] at attached
      contradiction
    · obtain ⟨client, found⟩ := present relayKey relay here
      obtain ⟨goesOn, events, next, heard, acts⟩ := acts_of_found here found own
      rw [isAttached_of_client? acts.found] at attached
      refine Exchange.isRunning_iff.2 ⟨relayKey, _, acts.present, ?_, rfl⟩
      refine acts.deed.isRunning (fun before => ?_) attached
      rw [← isAttached_of_client? found, attaches] at before
      obtain ⟨other, same, there, runs, agree⟩ := Exchange.isRunning_iff.1 before
      obtain rfl := orderly.exclusive.distinct here there agree
      rwa [Option.some.inj (here.symm.trans there)]
  · rw [isAttached_take orderly attaches touches, attaches] at attached
    obtain ⟨relayKey, relay, here, runs, rfl⟩ := Exchange.isRunning_iff.1 attached
    refine Exchange.isRunning_iff.2 ⟨relayKey, relay, relay?_of_far here ?_, runs, rfl⟩
    rintro own rfl
    exact touches (by rw [Exchange.touched, here, Option.map_some])

theorem attaches_of (settings : Settings) (actions : List Action) :
    (of settings actions).Attaches := by
  -- the induction is on those who are attached; whoever runs is, by the story of the relay
  have only (actions : List Action) : ∀ key,
      (of settings actions).exchange.board.isAttached key = true →
        (of settings actions).exchange.isRunning key = true := by
    refine induction (motive := fun course => ∀ key, course.exchange.board.isAttached key = true →
      course.exchange.isRunning key = true) settings ?_ (fun earlier action known key => ?_) actions
    · intro key attached
      simp [isAttached, outbound?, client?, start, Exchange.start, Switchboard.start] at attached
    · refine running_of_attached (orderly_of settings earlier) (fun client => ?_)
        (client_of_relay settings earlier)
      exact Bool.eq_iff_iff.2 ⟨known client, isAttached_of_running settings earlier⟩
  exact fun key => Bool.eq_iff_iff.2 ⟨only actions key, isAttached_of_running settings actions⟩

/-! ## What was sent is what was handed over -/

/-- In every moment, a client is handed what is sent to it if its relay runs, and nothing else. -/
theorem handedOver_eq_addressed (orderly : course.Orderly) (attaches : course.Attaches)
    (present : ∀ key relay, course.exchange.relay? key = some relay →
      ∃ client, course.exchange.board.client? relay.connection.client = some client)
    (action : Action) (key : ClientKey) :
    Moment.handedOver ⟨course.exchange, action⟩ key =
      Moment.addressed ⟨course.exchange, action⟩ key := by
  rcases action.parcel_cases with silent | ⟨request, chosen, payload, rfl, sends⟩
  · rw [Moment.addressed_of_silent silent]
    by_cases touches : course.exchange.touched action = some key
    · rcases Exchange.touched_cases touches with
        ⟨-, dropped⟩ | ⟨relayKey, own, relay, rfl, here, rfl⟩
      · refine handedOver_of_none ?_
        show (course.exchange.perform action).board.outbound? key = none
        rw [dropped, outbound?_dropClient]
      · obtain ⟨client, found⟩ := present relayKey relay here
        obtain ⟨goesOn, events, next, heard, acts⟩ := acts_of_found here found own
        exact handedOver_of_le found acts.found acts.deed.handsNothing
    · have same : (course.exchange.perform action).board.outbound? key =
          course.exchange.board.outbound? key := Exchange.hushed_perform silent key touches
      cases before : course.exchange.board.outbound? key with
      | none => exact handedOver_of_start before
      | some waiting =>
        refine handedOver_of_append before ?_
        rw [List.append_nil]
        exact same.trans before
  · have handed : (Moment.after ⟨course.exchange, .request request⟩).board =
        course.exchange.board.handTo chosen payload :=
      perform_of_parcel orderly.sound attaches.attended sends
    rw [Moment.handedOver, handed]
    simp only [Moment.addressed, sends]
    cases found : course.exchange.board.client? key with
    | none => exact handedOver_of_start (outbound?_of_missing found)
    | some client =>
      have after : (course.exchange.board.handTo chosen payload).outbound? key = _ :=
        outbound?_handTo found
      simp only [← attaches key, isAttached_of_client? found]
      cases outbound : client.outbound with
      | none =>
        rw [Option.isSome_none, Bool.and_false]
        exact handedOver_of_start ((outbound?_of_client? found).trans outbound)
      | some waiting =>
        have before := (outbound?_of_client? found).trans outbound
        rw [before] at after
        rw [Option.isSome_some, Bool.and_true]
        refine handedOver_of_append before (after.trans ?_)
        split <;> simp

theorem addressed_take (course : Course) (action : Action) (key : ClientKey) :
    (course.take action).addressed key =
      course.addressed key ++ Moment.addressed ⟨course.exchange, action⟩ key := by
  simp only [addressed, take, List.flatMap_append, List.flatMap_cons, List.flatMap_nil,
    List.append_nil]

theorem handed_eq_addressed (settings : Settings) (actions : List Action) (key : ClientKey) :
    (of settings actions).handed key = (of settings actions).addressed key := by
  refine induction (motive := fun course => course.handed key = course.addressed key) settings rfl
    (fun earlier action known => ?_) actions
  rw [handed_take, addressed_take, known]
  exact congrArg _ (handedOver_eq_addressed (orderly_of settings earlier)
    (attaches_of settings earlier) (client_of_relay settings earlier) action key)

/-! ## Sends are exact -/

theorem Attaches.runs (attaches : course.Attaches)
    (found : course.exchange.board.client? key = some client) :
    client.outbound.isSome = course.exchange.isRunning key := by
  rw [← isAttached_of_client? found, attaches]

/-- A payload for a hub is handed over for each of its clients whose relays run. -/
theorem Attaches.broadcast (attaches : course.Attaches) (orderly : course.Orderly) (hub : String)
    (payload : Payload) :
    course.exchange.board.broadcast hub payload =
      ((indices course.exchange.board.clients fun key client =>
          client.hub == hub && course.exchange.isRunning key).length,
        course.exchange.board.handTo (fun key client =>
          client.hub == hub && course.exchange.isRunning key) payload) := by
  rw [broadcast_eq_handTo orderly.sound attaches.attended]
  refine Prod.ext (congrArg List.length (indices_congr fun key client found => ?_))
    (handTo_congr fun key client found attached => ?_)
  · rw [attaches.runs found]
  · rw [← attaches.runs found, attached, Bool.and_true]

/-- A payload for a client whose relay runs is handed over for this client alone. -/
theorem Attaches.single (attaches : course.Attaches) (orderly : course.Orderly) (payload : Payload)
    (found : course.exchange.board.client? key = some client)
    (runs : course.exchange.isRunning key = true) :
    course.exchange.board.sendToConnection client.hub client.id payload =
      (true, course.exchange.board.handTo (fun other _ => other == key) payload) := by
  rw [sendToConnection_eq_handTo orderly.sound attaches.attended]
  refine Prod.ext ?_ (handTo_congr fun other same there attached => ?_)
  · refine List.any_eq_true.2 ⟨client, List.mem_of_getElem? found, ?_⟩
    rw [attaches.runs found, runs, beq_self_eq_true, beq_self_eq_true]
    rfl
  · rw [Bool.eq_iff_iff, Bool.and_eq_true, beq_iff_eq, beq_iff_eq, beq_iff_eq]
    constructor
    · exact fun both => orderly.sound.client_of_id found there both.2
    · rintro rfl
      obtain rfl := Option.some.inj (found.symm.trans there)
      exact ⟨rfl, rfl⟩

/-- A payload for an id that names no client of the hub whose relay runs is for nobody. -/
theorem Attaches.nobody (attaches : course.Attaches) (orderly : course.Orderly) {hub id : String}
    (payload : Payload)
    (absent : ∀ {key client}, course.exchange.board.client? key = some client →
      client.hub = hub → client.id = id → course.exchange.isRunning key = false) :
    course.exchange.board.sendToConnection hub id payload = (false, course.exchange.board) := by
  rw [sendToConnection_eq_handTo orderly.sound attaches.attended]
  refine Prod.ext ?_ (handTo_of_nobody fun key client found attached => ?_)
  · refine List.any_eq_false.2 fun client member named => ?_
    obtain ⟨key, found⟩ := List.mem_iff_getElem?.1 member
    rw [Bool.and_eq_true, Bool.and_eq_true, beq_iff_eq, beq_iff_eq, attaches.runs found] at named
    rw [absent found named.1.1 named.1.2] at named
    exact Bool.noConfusion named.2
  · refine Bool.eq_false_iff.2 fun named => ?_
    rw [Bool.and_eq_true, beq_iff_eq, beq_iff_eq] at named
    rw [attaches.runs found, absent found named.1 named.2] at attached
    contradiction

theorem Attaches.direct (attaches : course.Attaches) (key : ClientKey) (payload : Payload) :
    course.exchange.board.send key payload =
      (course.exchange.isRunning key, if course.exchange.isRunning key
        then course.exchange.board.handTo (fun other _ => other == key) payload
        else course.exchange.board) := by
  rw [send_eq_handTo, attaches]
  split
  · rfl
  · next quiet =>
    refine Prod.ext rfl (handTo_of_nobody fun other client found attached => ?_)
    rw [attaches.runs found] at attached
    exact beq_eq_false_iff_ne.2 fun same => quiet (same ▸ attached)

/-- Only relays of clients that were let in run. -/
theorem isApproved_of_isRunning (settings : Settings) (actions : List Action)
    (found : (of settings actions).exchange.board.client? key = some client)
    (runs : (of settings actions).exchange.isRunning key = true) :
    client.handshake.state.isApproved = true := by
  obtain ⟨relayKey, ⟨connection, phase⟩, present, loops, rfl⟩ := Exchange.isRunning_iff.1 runs
  obtain ⟨same, said, left, story⟩ := story_of settings actions present
  obtain rfl := Option.some.inj (found.symm.trans story.found)
  cases phase with
  | running loop => exact Running.approved story.stands
  | _ => contradiction

/-- What is sent reaches exactly the clients that are meant whose relays run. -/
structure Delivers (course : Course) : Prop where
  attached : ∀ key, (course.exchange.board.outbound? key).isSome = course.exchange.isRunning key
  approved : ∀ {key client}, course.exchange.board.client? key = some client →
    course.exchange.isRunning key = true → client.handshake.state.isApproved = true
  /-- A payload for a hub is handed over once for each of its clients whose relays run, and these
  are counted. -/
  broadcast : ∀ hub payload, course.exchange.board.broadcast hub payload =
    ((indices course.exchange.board.clients fun key client =>
        client.hub == hub && course.exchange.isRunning key).length,
      course.exchange.board.handTo (fun key client =>
        client.hub == hub && course.exchange.isRunning key) payload)
  /-- A payload for an id in a hub is handed over for this client alone, if its relay runs. -/
  single : ∀ {hub id key client} payload, course.exchange.board.client? key = some client →
    client.hub = hub → client.id = id → course.exchange.isRunning key = true →
      course.exchange.board.sendToConnection hub id payload =
        (true, course.exchange.board.handTo (fun other _ => other == key) payload)
  /-- If there is no such client nothing happens. -/
  nobody : ∀ {hub id} payload, (∀ {key client}, course.exchange.board.client? key = some client →
    client.hub = hub → client.id = id → course.exchange.isRunning key = false) →
      course.exchange.board.sendToConnection hub id payload = (false, course.exchange.board)
  direct : ∀ key payload, course.exchange.board.send key payload =
    (course.exchange.isRunning key, if course.exchange.isRunning key
      then course.exchange.board.handTo (fun other _ => other == key) payload
      else course.exchange.board)
  /-- What was handed over for a client is what was sent to it while its relay ran, in order. -/
  handed : ∀ key, course.handed key = course.addressed key
  /-- A relay that runs has written what was handed over, or it waits to be written. -/
  received : ∀ {key connection loop},
    course.exchange.relay? key = some ⟨connection, .running loop⟩ →
      ∃ waiting, course.exchange.board.outbound? connection.client = some waiting ∧
        loop.sink.written ++ waiting = course.handed connection.client
  /-- Whatever was passed on to be written was sent to the client while its relay ran. -/
  shown : ∀ {key relay sink}, course.exchange.relay? key = some relay →
    relay.phase.sink? = some sink → sink.passed <+: course.addressed relay.connection.client

/-- Along every course, sends reach exactly the running relays that are meant. -/
theorem sends_exact (settings : Settings) (actions : List Action) :
    (of settings actions).Delivers := by
  have orderly := orderly_of settings actions
  have attaches := attaches_of settings actions
  constructor
  case attached => exact attaches
  case approved => exact fun found runs => isApproved_of_isRunning settings actions found runs
  case broadcast => exact attaches.broadcast orderly
  case single =>
    rintro _ _ key client payload found rfl rfl runs
    exact attaches.single orderly payload found runs
  case nobody => exact fun payload absent => attaches.nobody orderly payload absent
  case direct => exact attaches.direct
  case handed => exact handed_eq_addressed settings actions
  case received =>
    intro key connection loop present
    obtain ⟨client, said, left, story⟩ := story_of settings actions present
    obtain ⟨waiting, outbound, handed⟩ := Running.shows story.stands
    exact ⟨waiting, (outbound?_of_client? story.found).trans outbound, handed.symm⟩
  case shown =>
    intro key relay sink present shows
    obtain ⟨client, said, left, story⟩ := story_of settings actions present
    rw [← handed_eq_addressed]
    exact story.stands.shown shows

example : (of .standard greeting).addressed 0 = [.text "hello"] := by
  decide

end Course

end HubRelay
