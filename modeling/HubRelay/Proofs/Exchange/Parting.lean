import HubRelay.Proofs.Exchange.Fidelity
import HubRelay.Proofs.Exchange.Queues

/-!
Contract: how a backend hears that a client has left which it let in.

Owns: that a relay tells its backend so when it ends by itself, once, if departures are announced
and the queue takes the event in, and that otherwise nobody is told.

Does not own: who else may put such events into queues.

The client is let go of wherever a relay is let go of, but the backend is told in one place only, at
the end of a relay that has run.  A relay that is dropped earlier leaves its backend without news.
-/

namespace HubRelay

open Switchboard

/-- Whether the queue of a backend takes an event in. -/
def Switchboard.hasRoom (board : Switchboard) (key : BackendKey) : Bool :=
  (board.backend? key).any (·.queue.hasRoom)

theorem Switchboard.enqueue_eq_ok_iff_hasRoom (board : Switchboard) (key : BackendKey)
    (event : Event) : (board.enqueue key event).1 = .ok () ↔ board.hasRoom key = true := by
  rw [hasRoom]
  cases found : board.backend? key with
  | none => simp [enqueue, found]
  | some backend =>
    rw [enqueue_eq_ok_iff board found, Option.any_some, EventQueue.hasRoom, Bool.and_eq_true,
      Bool.not_eq_true', decide_eq_true_eq]

namespace Course

/-- The news of a departure that a relay put into a queue, in order. -/
def farewells (course : Course) (key : RelayKey) (backend : BackendKey) : List Event :=
  (course.made key backend).filter (·.kind = .disconnect)

/-- What a relay that ends tells its backend about its client. -/
def farewell (board : Switchboard) (connection : Connection) (client : Client) : List Event :=
  if board.settings.announcesDepartures && board.hasRoom connection.backend then
    [client.departure] else []

variable {course : Course} {key : RelayKey} {relay : Relay} {client goesOn : Client}
  {said : List Payload} {left : Bool}

theorem farewell_of_onward (onward : client.Onward goesOn) (board : Switchboard)
    (connection : Connection) :
    farewell board connection goesOn = farewell board connection client := by
  have departure : goesOn.departure = client.departure := by
    rw [Client.departure, onward.hub_eq, onward.id_eq, onward.context_eq, Client.departure]
  rw [farewell, farewell, departure]

theorem farewells_of_script {client : Client} {said : List Payload} :
    (client.script said false).filter (·.kind = .disconnect) = [] :=
  List.filter_eq_nil_iff.2 fun _ told => by simpa using kind_of_script told

theorem Story.farewells_elsewhere (story : course.Story key relay client said left)
    {backend : BackendKey} (far : backend ≠ relay.connection.backend) :
    course.farewells key backend = [] := by
  rw [farewells, story.elsewhere backend far]
  rfl

theorem Story.farewells_of_unended (story : course.Story key relay client said left)
    (unended : relay.phase.isEnded = false) (backend : BackendKey) :
    course.farewells key backend = [] := by
  by_cases here : backend = relay.connection.backend
  · rw [here, farewells, story.made, story.stays unended, farewells_of_script]
  · exact story.farewells_elsewhere here

/-- At its end, a relay tells its backend what there is to tell. -/
theorem Story.farewells_finish (story : course.Story key relay client said left)
    {result : Except RelayError RelayEnd} {sink : Sink}
    (stopped : relay.phase = .leaving result sink) :
    (course.take (.relay key .finish)).farewells key relay.connection.backend =
      farewell course.exchange.board relay.connection client := by
  have unended : relay.phase.isEnded = false := by
    rw [stopped]
    rfl
  have before := story.farewells_of_unended unended relay.connection.backend
  rw [farewells] at before
  cases announces : course.exchange.board.settings.announcesDepartures with
  | true =>
    rw [farewells, made_finish story stopped announces, List.filter_append, before, farewell,
      announces, Bool.true_and]
    cases asked : (course.exchange.board.enqueue relay.connection.backend client.departure).1 with
    | ok =>
      rw [if_pos ((enqueue_eq_ok_iff_hasRoom _ _ _).1 asked)]
      rfl
    | error error =>
      have full : ¬ course.exchange.board.hasRoom relay.connection.backend = true := by
        rw [← enqueue_eq_ok_iff_hasRoom _ _ client.departure, asked]
        exact nofun
      rw [if_neg full]
      rfl
  | false =>
    have silent : Loop.announceDeparture course.exchange.board relay.connection =
        course.exchange.board := by
      rw [Loop.announceDeparture, story.found, announces]
      rfl
    have board : (course.take (.relay key .finish)).exchange.board =
        course.exchange.board.dropClient relay.connection.client := by
      have performed := congrArg (·.board) (Exchange.performRelay_eq story.present .finish)
      obtain ⟨connection, phase⟩ := relay
      obtain rfl : phase = .leaving result sink := stopped
      exact performed.trans (congrArg (dropClient · connection.client) silent)
    have own : Moment.author ⟨course.exchange, .relay key .finish⟩ = some key := rfl
    have nothing : Moment.arrivals ⟨course.exchange, .relay key .finish⟩
        relay.connection.backend = [] := by
      refine arrivals_of_same ?_
      show (course.take (.relay key .finish)).exchange.board.waiting _ = _
      rw [board, waiting, backend?, backends_dropClient]
      rfl
    rw [farewells, made_take, if_pos own, nothing, List.append_nil, before, farewell, announces]
    rfl

theorem farewells_of_far {action : Action} (present : course.exchange.relay? key = some relay)
    (far : ∀ own, action ≠ .relay key own) (backend : BackendKey) :
    (course.take action).farewells key backend = course.farewells key backend := by
  rw [farewells, made_of_far present far, farewells]

/-- A relay that has ended does nothing any more. -/
theorem acts_of_ended (present : course.exchange.relay? key = some relay)
    (found : course.exchange.board.client? relay.connection.client = some client)
    (parts : relay.phase.isEnded = true) (own : RelayAction) :
    (course.exchange.perform (.relay key own)).relay? key = some relay ∧
      (course.take (.relay key own)).farewells key relay.connection.backend =
        course.farewells key relay.connection.backend := by
  obtain ⟨goesOn, events, next, heard, acts⟩ := acts_of_found present found own
  have deed := acts.deed
  have presentLater := acts.present
  have made := acts.made
  obtain ⟨connection, phase⟩ := relay
  cases phase with
  | ended result sink =>
    cases deed with
    | idle => exact ⟨presentLater, by rw [farewells, made, List.append_nil, farewells]⟩
    | drop holds => contradiction
  | _ => contradiction

/-- A relay that has ended has told its backend what there was to tell at its end. -/
def Parted (course : Course) (key : RelayKey) (relay : Relay) (client : Client) : Prop :=
  ∃ moment ∈ course.past, moment.action = .relay key .finish ∧
    (∃ result sink, moment.before.phase? key = some (.leaving result sink)) ∧
    moment.before.board.settings = course.exchange.board.settings ∧
    course.farewells key relay.connection.backend =
      farewell moment.before.board relay.connection client

theorem Parted.goOn {action : Action} (parted : course.Parted key relay client)
    (onward : client.Onward goesOn)
    (same : (course.take action).farewells key relay.connection.backend =
      course.farewells key relay.connection.backend) :
    (course.take action).Parted key relay goesOn := by
  obtain ⟨moment, member, acts, stopped, settings, told⟩ := parted
  exact ⟨moment, List.mem_append_left _ member, acts, stopped,
    settings.trans (course.exchange.onward_perform action).settings.symm,
    same.trans (told.trans (farewell_of_onward onward _ _).symm)⟩

/-- The only action by which a relay ends is its own last one. -/
theorem Story.parted_own (story : course.Story key relay client said left) {own : RelayAction}
    (unended : relay.phase.isEnded = false)
    (parts : (relay.act course.exchange.board own).2.isEnded = true)
    (onward : client.Onward goesOn) :
    (course.take (.relay key own)).Parted key
      { relay with phase := (relay.act course.exchange.board own).2 } goesOn := by
  have next := Exchange.relay?_performRelay_self story.present own
  cases phase : (relay.act course.exchange.board own).2 with
  | ended result sink =>
    have ends : (course.exchange.performRelay key own).phase? key = some (.ended result sink) := by
      rw [Exchange.phase?, next, ← phase]
      rfl
    rcases ended_of_performRelay story.present story.found ends with parts | ⟨rfl, stopped⟩
    · rw [parts] at unended
      contradiction
    · refine ⟨⟨course.exchange, .relay key .finish⟩,
        List.mem_append_right _ (List.mem_singleton_self _), rfl, ⟨result, sink, ?_⟩,
        (course.exchange.onward_perform _).settings.symm, ?_⟩
      · rw [Exchange.phase?, story.present, Option.map_some, stopped]
      · exact (story.farewells_finish stopped).trans (farewell_of_onward onward _ _).symm
  | _ =>
    rw [phase] at parts
    contradiction

/-- If relays that have ended before an action have told what there was to tell, so have those that
have ended after it. -/
theorem Story.parted (story : course.Story key relay client said left) {action : Action}
    {later : Relay} (known : relay.phase.isEnded = true → course.Parted key relay client)
    (present : (course.take action).exchange.relay? key = some later)
    (parts : later.phase.isEnded = true) (onward : client.Onward goesOn) :
    (course.take action).Parted key later goesOn := by
  by_cases own : ∃ deed, action = .relay key deed
  · obtain ⟨deed, rfl⟩ := own
    cases ended : relay.phase.isEnded with
    | true =>
      obtain ⟨presentLater, same⟩ := acts_of_ended story.present story.found ended deed
      obtain rfl := Option.some.inj (present.symm.trans presentLater)
      exact (known ended).goOn onward same
    | false =>
      have next := Exchange.relay?_performRelay_self story.present deed
      obtain rfl := Option.some.inj (present.symm.trans next)
      exact story.parted_own ended parts onward
  · have far (deed : RelayAction) : action ≠ .relay key deed := fun same => own ⟨deed, same⟩
    obtain rfl := Option.some.inj (present.symm.trans (relay?_of_far story.present far))
    exact (known parts).goOn onward (farewells_of_far story.present far _)

/-- A relay keeps its connection. -/
theorem connection_take {action : Action} {later : Relay}
    (present : course.exchange.relay? key = some relay)
    (presentLater : (course.take action).exchange.relay? key = some later) :
    later.connection = relay.connection := by
  by_cases own : ∃ deed, action = .relay key deed
  · obtain ⟨deed, rfl⟩ := own
    have next := Exchange.relay?_performRelay_self present deed
    rw [Option.some.inj (presentLater.symm.trans next)]
  · have far (deed : RelayAction) : action ≠ .relay key deed := fun same => own ⟨deed, same⟩
    rw [Option.some.inj (presentLater.symm.trans (relay?_of_far present far))]

theorem parted_of (settings : Settings) (actions : List Action) {key : RelayKey} {relay : Relay}
    {client : Client} (present : (of settings actions).exchange.relay? key = some relay)
    (found : (of settings actions).exchange.board.client? relay.connection.client = some client)
    (parts : relay.phase.isEnded = true) : (of settings actions).Parted key relay client := by
  refine induction (motive := fun course => ∀ relay client,
    course.exchange.relay? key = some relay →
    course.exchange.board.client? relay.connection.client = some client →
    relay.phase.isEnded = true → course.Parted key relay client) settings ?_
    (fun earlier action known relay client present found parts => ?_) actions relay client present
    found parts
  · intro relay client present
    simp [start, Exchange.start, Exchange.relay?] at present
  · cases before : (of settings earlier).exchange.relay? key with
    | none =>
      obtain ⟨_, _, _, -, -, pending, -⟩ := opens_of_new before present
      rw [pending] at parts
      contradiction
    | some entry =>
      obtain ⟨earlierClient, said, left, story⟩ := story_of settings earlier before
      obtain ⟨goesOn, foundLater, onward, -⟩ :=
        ((of settings earlier).exchange.onward_perform action).client story.found
      rw [connection_take before present] at found
      obtain rfl := Option.some.inj (found.symm.trans foundLater)
      exact story.parted (known entry earlierClient before story.found) present parts onward

/-! ## When a backend hears that a client has left -/

/-- What a backend hears about the departure of the client of a relay. -/
structure Parts (course : Course) (key : RelayKey) (relay : Relay) (client : Client) : Prop where
  found : course.exchange.board.client? relay.connection.client = some client
  elsewhere : ∀ backend ≠ relay.connection.backend, course.farewells key backend = []
  /-- Nothing, where departures are not announced. -/
  silent : course.exchange.board.settings.announcesDepartures = false →
    ∀ backend, course.farewells key backend = []
  /-- Nothing, as long as the relay has not ended by itself; one that was dropped never does. -/
  unended : relay.phase.isEnded = false → ∀ backend, course.farewells key backend = []
  /-- One event with the id, the hub and the context of the client, if departures are announced
  and the queue was open and had room when the relay ended; and nothing otherwise. -/
  ended : relay.phase.isEnded = true → course.Parted key relay client

/-- Along every course, a backend hears that a client which it let in has left exactly if the relay
of the client ends by itself while the queue takes the event in. -/
theorem departures_told (settings : Settings) (actions : List Action) (key : RelayKey)
    (relay : Relay) (present : (of settings actions).exchange.relay? key = some relay) :
    ∃ client, (of settings actions).Parts key relay client := by
  obtain ⟨client, said, left, story⟩ := story_of settings actions present
  refine ⟨client, story.found, fun backend far => story.farewells_elsewhere far, ?_,
    story.farewells_of_unended, parted_of settings actions present story.found⟩
  intro quiet backend
  cases parts : relay.phase.isEnded with
  | false => exact story.farewells_of_unended parts backend
  | true =>
    by_cases here : backend = relay.connection.backend
    · obtain ⟨moment, -, -, -, same, told⟩ := parted_of settings actions present story.found parts
      rw [here, told, farewell, same, quiet]
      rfl
    · exact story.farewells_elsewhere here

/-- A relay that has ended by itself has told its backend. -/
theorem greeting_told :
    (of .standard greeting).exchange.relay? 0 = some ⟨⟨0, 0⟩,
      .ended (.ok .closed) ⟨none, .io "gone", [.text "hello"], none, 1⟩⟩ ∧
    ((of .standard greeting).farewells 0 0).length = 1 ∧
    ∃ client, (of .standard greeting).Parts 0 ⟨⟨0, 0⟩,
      .ended (.ok .closed) ⟨none, .io "gone", [.text "hello"], none, 1⟩⟩ client :=
  ⟨rfl, rfl, departures_told .standard greeting 0 _ rfl⟩

/-- A client is let in, and its relay does something and is dropped. -/
def vanishing (own : List RelayAction) : List Action :=
  [.request (.register "chat" "bot" ["connect"]), .openRelay "chat" .empty, .relay 0 .await,
    .request (.decide 0 (.approve none)), .relay 0 .settle] ++ own.map (.relay 0)

/-- A relay that its backend let in and that is then dropped, though departures are announced and
the backend has room: nobody is told. -/
structure Untold (own : List RelayAction) : Prop where
  approved : ((of .standard (vanishing own)).exchange.board.client? 0).any
    (·.handshake.state.isApproved) = true
  held : ((of .standard (vanishing own)).exchange.relay? 0).any (·.holds) = true
  announces : (of .standard (vanishing own)).exchange.board.settings.announcesDepartures = true
  room : (of .standard (vanishing own)).exchange.board.hasRoom 0 = true
  gone : ((of .standard (vanishing (own ++ [.drop]))).exchange.relay? 0).any (·.holds) = false
  farewells : (of .standard (vanishing (own ++ [.drop]))).farewells 0 0 = []

/-- Nobody is told of a relay that is dropped before it runs, while it runs, or while it closes its
sink. -/
theorem vanishings_untold : Untold [] ∧ Untold [.run ⟨[], false⟩ none (.io "gone")] ∧
    Untold [.run ⟨[], true⟩ none (.io "gone"), .step .inbound] := by
  refine ⟨?_, ?_, ?_⟩
  all_goals exact ⟨by decide, by decide, by decide, by decide, by decide, by decide⟩

end Course

end HubRelay
