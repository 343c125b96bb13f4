import HubRelay.Proofs.Exchange.Story

/-!
Contract: a relay is faithful to both sides, whatever branches it takes and whatever others do.

Owns: that it passes on what its client says and shows what is handed over, both in order and
without gaps; why it stops; and that it is detached and has closed its sink once before it tells
the backend that the client has left.

Does not own: who else puts events into the queue of the backend.
-/

namespace HubRelay

open Switchboard

namespace RelayPhase

/-- The way to the client, from when a relay runs. -/
def sink? : RelayPhase → Option Sink
  | .running loop => some loop.sink
  | .leaving _ sink | .ended _ sink => some sink
  | _ => none

/-- With what a relay has stopped, if it has. -/
def result? : RelayPhase → Option (Except RelayError RelayEnd)
  | .leaving result _ | .ended result _ => some result
  | _ => none

end RelayPhase

/-- The payloads of the messages among some events. -/
def messages (events : List Event) : List Payload :=
  events.filterMap fun event => if event.kind = .user then event.payload else none

theorem messages_script (client : Client) (said : List Payload) (left : Bool) :
    messages (client.script said left) = said := by
  have spoken : messages (said.map client.message) = said := by
    rw [messages, List.filterMap_map]
    exact List.filterMap_some
  have gone : messages (if left then [client.departure] else []) = [] := by
    cases left <;> rfl
  rw [messages] at spoken gone
  rw [messages, Client.script, List.filterMap_cons_none rfl, List.filterMap_append, spoken, gone,
    List.append_nil]

theorem kind_of_script {client : Client} {said : List Payload} {event : Event}
    (told : event ∈ client.script said false) : event.kind ≠ .disconnect := by
  rcases List.mem_cons.1 told with rfl | later
  · exact EventKind.noConfusion
  · obtain ⟨payload, -, rfl⟩ := List.mem_map.1 (List.append_nil _ ▸ later)
    exact EventKind.noConfusion

namespace Course

/-- What has passed through a relay so far, and why it has stopped if it has. -/
structure Faithful (course : Course) (key : RelayKey) (relay : Relay) : Prop where
  passesOn : messages (course.made key relay.connection.backend) <+: (course.conversation key).1
  elsewhere : ∀ backend ≠ relay.connection.backend, course.made key backend = []
  shows : ∀ {sink}, relay.phase.sink? = some sink →
    sink.passed <+: course.handed relay.connection.client
  /-- The source is at its end, and all that it said before was passed on. -/
  closed : relay.phase.result? = some (.ok .closed) → course.conversation key =
    (messages (course.made key relay.connection.backend), some (.ok none))
  cancelled : relay.phase.result? = some (.ok .cancelled) → course.exchange.board.stopped = true
  /-- The source comes to this error, or the sink refused a payload with it. -/
  transport : ∀ {error}, relay.phase.result? = some (.error (.transport error)) →
    course.conversation key =
        (messages (course.made key relay.connection.backend), some (.error error)) ∨
      ∃ sink, relay.phase.sink? = some sink ∧ sink.refused.isSome = true ∧ sink.failure = error
  /-- The queue refused the next message of the client with this error. -/
  route : ∀ {error}, relay.phase.result? = some (.error (.route error)) →
    ∃ client payload, course.exchange.board.client? relay.connection.client = some client ∧
      messages (course.made key relay.connection.backend) ++ [payload] <+:
        (course.conversation key).1 ∧
      ∃ moment ∈ course.past, moment.action = .relay key (.step .inbound) ∧
        (moment.before.board.enqueue relay.connection.backend (client.message payload)).1 =
          .error error
  handshake : ∀ {error}, relay.phase.result? ≠ some (.error (.handshake error))
  running : ∀ {loop}, relay.phase = .running loop → loop.sink.closes = 0 ∧
    (course.exchange.board.outbound? relay.connection.client).isSome = true
  detached : relay.phase.result?.isSome = true →
    course.exchange.board.outbound? relay.connection.client = none ∧
      ∃ sink, relay.phase.sink? = some sink ∧ sink.closes = 1
  /-- Nobody is told that the client has left before its relay has ended. -/
  present : relay.phase.isEnded = false →
    ∀ backend, ∀ event ∈ course.made key backend, event.kind ≠ .disconnect
  /-- A relay ends only after it has stopped. -/
  ends : ∀ {action result sink},
    (course.exchange.performRelay key action).phase? key = some (.ended result sink) →
      relay.phase = .ended result sink ∨
        action = .finish ∧ relay.phase = .leaving result sink
  /-- A relay that ends then tells the backend that its client has left, if the backend has room. -/
  departs : ∀ {result sink}, relay.phase = .leaving result sink →
    course.exchange.board.settings.announcesDepartures = true →
      ∃ client, course.exchange.board.client? relay.connection.client = some client ∧
        (course.take (.relay key .finish)).made key relay.connection.backend =
          course.made key relay.connection.backend ++
            match (course.exchange.board.enqueue relay.connection.backend client.departure).1 with
            | .ok () => [client.departure]
            | .error _ => []

variable {course : Course} {key : RelayKey} {relay : Relay} {client : Client}
  {said : List Payload} {left : Bool} {sink : Sink} {result : Except RelayError RelayEnd}

theorem Stands.shown {connection : Connection} {phase : RelayPhase}
    (stands : course.Stands key connection client said phase) (shows : phase.sink? = some sink) :
    sink.passed <+: course.handed connection.client := by
  cases phase with
  | running loop =>
    obtain rfl : loop.sink = sink := Option.some.inj shows
    exact Running.shown stands
  | leaving result last | ended result last =>
    obtain rfl : last = sink := Option.some.inj shows
    exact Stopped.shown stands
  | _ => contradiction

theorem Stands.stopped {connection : Connection} {phase : RelayPhase}
    (stands : course.Stands key connection client said phase)
    (stops : phase.result? = some result) :
    ∃ sink, phase.sink? = some sink ∧ course.Stopped key connection client said result sink := by
  cases phase with
  | leaving last sink | ended last sink =>
    obtain rfl : last = result := Option.some.inj stops
    exact ⟨sink, rfl, stands⟩
  | _ => contradiction

/-- A relay ends only after it has stopped. -/
theorem ended_of_performRelay {action : RelayAction}
    (present : course.exchange.relay? key = some relay)
    (found : course.exchange.board.client? relay.connection.client = some client)
    (ended : (course.exchange.performRelay key action).phase? key = some (.ended result sink)) :
    relay.phase = .ended result sink ∨ action = .finish ∧ relay.phase = .leaving result sink := by
  rw [Exchange.phase?, Exchange.relay?_performRelay_self present action] at ended
  have next : (relay.act course.exchange.board action).2 = .ended result sink :=
    Option.some.inj ended
  obtain ⟨connection, phase⟩ := relay
  obtain ⟨goesOn, events, -, deed⟩ := Relay.isDeed_act found (course.given key) action
  rw [next] at deed
  revert deed
  generalize action.given (course.given key) phase = heard
  intro deed
  cases deed with
  | idle => exact Or.inl rfl
  | announce | vanish => exact Or.inr ⟨rfl, rfl⟩

theorem made_finish (story : course.Story key relay client said left)
    (stopped : relay.phase = .leaving result sink)
    (announces : course.exchange.board.settings.announcesDepartures = true) :
    (course.take (.relay key .finish)).made key relay.connection.backend =
      course.made key relay.connection.backend ++
        match (course.exchange.board.enqueue relay.connection.backend client.departure).1 with
        | .ok () => [client.departure]
        | .error _ => [] := by
  have own : Moment.author ⟨course.exchange, .relay key .finish⟩ = some key := rfl
  have board : (course.take (.relay key .finish)).exchange.board =
      Loop.finish course.exchange.board relay.connection := by
    have performed := congrArg (·.board) (Exchange.performRelay_eq story.present .finish)
    obtain ⟨connection, phase⟩ := relay
    obtain rfl : phase = .leaving result sink := stopped
    exact performed
  have asks : Loop.announceDeparture course.exchange.board relay.connection =
      (course.exchange.board.enqueue relay.connection.backend client.departure).2 := by
    rw [Loop.announceDeparture, story.found]
    exact if_pos announces
  rw [made_take, if_pos own]
  refine congrArg _ (arrivals_of_append ?_)
  show (course.take (.relay key .finish)).exchange.board.waiting relay.connection.backend = _
  rw [board, Loop.finish, asks, waiting, backend?, backends_dropClient]
  show (course.exchange.board.enqueue relay.connection.backend client.departure).2.waiting
    relay.connection.backend = _
  cases asked : (course.exchange.board.enqueue relay.connection.backend client.departure).1 with
  | ok => exact (enqueue_ok asked).1
  | error error => rw [enqueue_error asked, List.append_nil]

/-- Every relay is faithful along every course. -/
theorem relays_faithful (settings : Settings) (actions : List Action) (key : RelayKey)
    (relay : Relay) (present : (of settings actions).exchange.relay? key = some relay) :
    (of settings actions).Faithful key relay := by
  obtain ⟨client, said, left, story⟩ := story_of settings actions present
  have stands := story.stands
  have spoken : messages ((of settings actions).made key relay.connection.backend) = said := by
    rw [story.made, messages_script]
  constructor
  case passesOn => rw [spoken]; exact stands.told
  case elsewhere => exact story.elsewhere
  case shows => exact fun shows => stands.shown shows
  case closed =>
    intro stops
    obtain ⟨sink, -, stopped⟩ := stands.stopped stops
    rw [spoken]
    exact stopped.explained
  case cancelled =>
    intro stops
    obtain ⟨sink, -, stopped⟩ := stands.stopped stops
    exact stopped.explained
  case transport =>
    intro error stops
    obtain ⟨sink, shows, stopped⟩ := stands.stopped stops
    rw [spoken]
    exact stopped.explained.imp id fun ⟨refused, failure⟩ => ⟨sink, shows, refused, failure⟩
  case route =>
    intro error stops
    obtain ⟨sink, -, stopped⟩ := stands.stopped stops
    obtain ⟨payload, next, refused⟩ := stopped.explained
    rw [spoken]
    exact ⟨client, payload, story.found, next, refused⟩
  case handshake =>
    intro error stops
    obtain ⟨sink, -, stopped⟩ := stands.stopped stops
    exact stopped.explained
  case running =>
    intro loop runs
    rw [runs] at stands
    obtain ⟨waiting, outbound, -⟩ := Running.shows stands
    refine ⟨Running.unclosed stands, ?_⟩
    rw [outbound?_of_client? story.found, outbound]
    rfl
  case detached =>
    intro stops
    obtain ⟨result, stops⟩ := Option.isSome_iff_exists.1 stops
    obtain ⟨sink, shows, stopped⟩ := stands.stopped stops
    refine ⟨?_, sink, shows, stopped.closed⟩
    rw [outbound?_of_client? story.found]
    exact stopped.outbound
  case present =>
    intro goesOn backend event made disconnects
    obtain rfl := story.stays goesOn
    by_cases here : backend = relay.connection.backend
    · rw [here, story.made] at made
      exact kind_of_script made disconnects
    · rw [story.elsewhere backend here] at made
      contradiction
  case ends => exact fun ended => ended_of_performRelay story.present story.found ended
  case departs =>
    intro result sink stopped announces
    exact ⟨client, story.found, made_finish story stopped announces⟩

/-- A relay that has ended by itself is among them. -/
theorem greeting_faithful :
    (of .standard greeting).exchange.relay? 0 = some ⟨⟨0, 0⟩,
      .ended (.ok .closed) ⟨none, .io "gone", [.text "hello"], none, 1⟩⟩ ∧
    (of .standard greeting).Faithful 0 ⟨⟨0, 0⟩,
      .ended (.ok .closed) ⟨none, .io "gone", [.text "hello"], none, 1⟩⟩ :=
  ⟨rfl, relays_faithful .standard greeting 0 _ rfl⟩

end Course

end HubRelay
