import HubRelay.Proofs.Exchange.Course
import HubRelay.Proofs.Transcript

/-!
Contract: what a relay can do in one action, as its client, its backend and its source see it.

Owns: the events about a client, what an action does to the client and to the queues, and the list
of all deeds of a relay.

Does not own: what others do between the actions of a relay.

Everything that holds of relays is derived from the list of deeds, so nothing else looks into how
an action is carried out.
-/

namespace HubRelay

namespace Client

/-- The event that asks the backend about a client. -/
def question (client : Client) : Event :=
  .connect client.hub client.id client.context

/-- The event of a message of a client. -/
def message (client : Client) (payload : Payload) : Event :=
  .user client.hub client.id client.context payload

/-- The event that a client has left. -/
def departure (client : Client) : Event :=
  .disconnect client.hub client.id client.context

/-- What a backend is told about a client: that it asks, what it says, and whether it has left. -/
def script (client : Client) (said : List Payload) (left : Bool) : List Event :=
  client.question :: (said.map client.message ++ if left then [client.departure] else [])

variable {client later : Client} {said : List Payload}

theorem Onward.hub_eq (onward : client.Onward later) : later.hub = client.hub :=
  congrArg (·.hub) onward.same

theorem Onward.id_eq (onward : client.Onward later) : later.id = client.id :=
  congrArg (·.id) onward.same

theorem Onward.context_eq (onward : client.Onward later) : later.context = client.context :=
  congrArg (·.context) onward.same

theorem Onward.message_eq (onward : client.Onward later) : later.message = client.message := by
  funext payload
  rw [message, message, onward.hub_eq, onward.id_eq, onward.context_eq]

/-- What is told about a client depends on who it is and not on how it is doing. -/
theorem Onward.script_eq (onward : client.Onward later) (said : List Payload) (left : Bool) :
    later.script said left = client.script said left := by
  rw [script, script, question, question, departure, departure, onward.message_eq, onward.hub_eq,
    onward.id_eq, onward.context_eq]

theorem script_message (client : Client) (said : List Payload) (payload : Payload) :
    client.script (said ++ [payload]) false =
      client.script said false ++ [client.message payload] := by
  simp [script]

theorem script_departure (client : Client) (said : List Payload) :
    client.script said true = client.script said false ++ [client.departure] := by
  simp [script]

theorem Onward.isApproved (onward : client.Onward later)
    (approved : client.handshake.state.isApproved = true) :
    later.handshake.state.isApproved = true := by
  rw [onward.kept (HandshakeState.isPending_of_isApproved approved)]
  exact approved

end Client

/-! ## What a client and the queues see -/

namespace Switchboard

/-- How a switchboard changes by what a relay does: its client goes on as another one, events are
put into the queue of its backend, and no other queue changes. -/
structure Tells (before after : Switchboard) (connection : Connection) (client later : Client)
    (events : List Event) : Prop where
  found : after.client? connection.client = some later
  onward : client.Onward later
  queue : after.waiting connection.backend = before.waiting connection.backend ++ events
  others : ∀ backend ≠ connection.backend, after.waiting backend = before.waiting backend

variable {first second third board : Switchboard} {connection : Connection}
  {client later last : Client} {events more : List Event}

namespace Tells

theorem refl (found : board.client? connection.client = some client) :
    Tells board board connection client client [] where
  found := found
  onward := .refl client
  queue := (List.append_nil _).symm
  others := fun _ _ => rfl

theorem trans (one : Tells first second connection client later events)
    (two : Tells second third connection later last more) :
    Tells first third connection client last (events ++ more) where
  found := two.found
  onward := one.onward.trans two.onward
  queue := by rw [two.queue, one.queue, List.append_assoc]
  others := fun backend far => (two.others backend far).trans (one.others backend far)

theorem updateClient {change : Client → Client}
    (found : board.client? connection.client = some client)
    (onward : client.Onward (change client)) :
    Tells board (board.updateClient connection.client change) connection client (change client)
      [] where
  found := by rw [client?_updateClient_self, found]; rfl
  onward := onward
  queue := (List.append_nil _).symm
  others := fun _ _ => rfl

theorem outbound (found : board.client? connection.client = some client)
    (outbound : Option (List Payload)) :
    Tells board (board.updateClient connection.client fun client =>
      { client with outbound := outbound }) connection client { client with outbound := outbound }
      [] :=
  updateClient found (client.onward_outbound outbound)

theorem dropClient (found : board.client? connection.client = some client) :
    Tells board (board.dropClient connection.client) connection client
      { client with outbound := none } [] where
  found := by
    rw [Switchboard.dropClient, found]
    simp only
    rw [client?, clients_prune]
    exact (outbound found none).found
  onward := client.onward_outbound none
  queue := by rw [waiting, waiting, backend?, backend?, backends_dropClient, List.append_nil]
  others := fun backend _ => by rw [waiting, waiting, backend?, backend?, backends_dropClient]

theorem enqueue {event : Event} (found : board.client? connection.client = some client)
    (accepted : (board.enqueue connection.backend event).1 = .ok ()) :
    Tells board (board.enqueue connection.backend event).2 connection client client [event] where
  found := by
    unfold Switchboard.enqueue
    split
    · exact found
    · split <;> exact found
  onward := .refl client
  queue := (enqueue_ok accepted).1
  others := (enqueue_ok accepted).2

end Tells

end Switchboard

/-! ## Deeds -/

/-- What a source has been given, after an action of its relay in a phase. -/
def RelayAction.given (source : Source) : RelayAction → RelayPhase → Source
  | .run started _ _, .approved _ => started
  | .feed items, .running _ => { source with items := source.items ++ items }
  | .endSource, .running _ => { source with ended := true }
  | _, _ => source

/-- Everything that a relay can do in one action: from a phase and what its source has been given,
how its client goes on, what its backend is told, the next phase, and what its source has been
given then. -/
inductive Deed (board : Switchboard) (connection : Connection) (client : Client) (given : Source) :
    RelayAction → RelayPhase → Client → List Event → RelayPhase → Source → Prop where
  | idle {action : RelayAction} {phase : RelayPhase} :
      Deed board connection client given action phase client [] phase given
  | await : Deed board connection client given .await .pending client [] .awaiting given
  | letIn {later : Client} {subProtocol : Option String}
      (approved : later.handshake.state.isApproved = true)
      (outbound : later.outbound = client.outbound) :
      Deed board connection client given .settle .awaiting later [] (.approved subProtocol) given
  | turnedAway {later : Client} {error : HandshakeError} (outbound : later.outbound = none) :
      Deed board connection client given .settle .awaiting later [] (.refused error) given
  | start {source : Source} {room : Option Nat} {failure : TransportError}
      {subProtocol : Option String} :
      Deed board connection client given (.run source room failure) (.approved subProtocol)
        { client with outbound := some [] } [] (.running ⟨source,
          .start board.settings.messageLimit, false, .start room failure⟩) source
  | feed {items : List SourceItem} {loop : Loop} :
      Deed board connection client given (.feed items) (.running loop) client []
        (.running { loop with source := { loop.source with items := loop.source.items ++ items } })
        { given with items := given.items ++ items }
  | endSource {loop : Loop} :
      Deed board connection client given .endSource (.running loop) client []
        (.running { loop with source := { loop.source with ended := true } })
        { given with ended := true }
  | cancel {loop : Loop} (stopped : board.stopped = true) :
      Deed board connection client given (.step .stop) (.running loop)
        { client with outbound := none } [] (.leaving (.ok .cancelled) loop.sink.close) given
  | write {loop : Loop} {payload : Payload} {waiting : List Payload} {sink : Sink}
      (handed : client.outbound = some (payload :: waiting))
      (written : loop.sink.write payload = (none, sink)) :
      Deed board connection client given (.step .outbound) (.running loop)
        { client with outbound := some waiting } []
        (.running { loop with sink := sink, stalled := false }) given
  | failToWrite {loop : Loop} {payload : Payload} {waiting : List Payload} {sink : Sink}
      {error : TransportError} (handed : client.outbound = some (payload :: waiting))
      (failed : loop.sink.write payload = (some error, sink)) :
      Deed board connection client given (.step .outbound) (.running loop)
        { client with outbound := none } [] (.leaving (.error (.transport error)) sink.close) given
  | takeIn {loop : Loop} {consumed left : List SourceItem} {reader : MessageReader}
      {stalled : Bool} (split : loop.source.items = consumed ++ left)
      (absorbs : loop.reader.Absorbs consumed [] reader) :
      Deed board connection client given (.step .inbound) (.running loop) client []
        (.running ⟨{ loop.source with items := left }, reader, stalled, loop.sink⟩) given
  | pass {loop : Loop} {consumed left : List SourceItem} {reader : MessageReader}
      {payload : Payload} (split : loop.source.items = consumed ++ left)
      (absorbs : loop.reader.Absorbs consumed [payload] reader) :
      Deed board connection client given (.step .inbound) (.running loop) client
        [client.message payload]
        (.running ⟨{ loop.source with items := left }, reader, loop.stalled, loop.sink⟩) given
  | failToPass {loop : Loop} {consumed left : List SourceItem} {reader : MessageReader}
      {payload : Payload} {error : RouteError} (split : loop.source.items = consumed ++ left)
      (absorbs : loop.reader.Absorbs consumed [payload] reader)
      (refused : (board.enqueue connection.backend (client.message payload)).1 = .error error) :
      Deed board connection client given (.step .inbound) (.running loop)
        { client with outbound := none } [] (.leaving (.error (.route error)) loop.sink.close) given
  | hearEnd {loop : Loop}
      (comes : loop.reader.transcript loop.source.ended loop.source.items =
        ([], some (.ok none))) :
      Deed board connection client given (.step .inbound) (.running loop)
        { client with outbound := none } [] (.leaving (.ok .closed) loop.sink.close) given
  | failToRead {loop : Loop} {error : TransportError}
      (comes : loop.reader.transcript loop.source.ended loop.source.items =
        ([], some (.error error))) :
      Deed board connection client given (.step .inbound) (.running loop)
        { client with outbound := none } [] (.leaving (.error (.transport error)) loop.sink.close)
        given
  | announce {result : Except RelayError RelayEnd} {sink : Sink} :
      Deed board connection client given .finish (.leaving result sink)
        { client with outbound := none } [client.departure] (.ended result sink) given
  | vanish {result : Except RelayError RelayEnd} {sink : Sink} :
      Deed board connection client given .finish (.leaving result sink)
        { client with outbound := none } [] (.ended result sink) given
  | drop {phase : RelayPhase} (holds : Relay.holds ⟨connection, phase⟩ = true) :
      Deed board connection client given .drop phase { client with outbound := none } [] .dropped
        given

open Switchboard

/-- A relay hands nothing over for its own client. -/
theorem Deed.handsNothing {board : Switchboard} {connection : Connection} {client later : Client}
    {given heard : Source} {action : RelayAction} {phase next : RelayPhase} {events : List Event}
    (deed : Deed board connection client given action phase later events next heard)
    {waiting left : List Payload} (before : client.outbound = some waiting)
    (after : later.outbound = some left) : left.length ≤ waiting.length := by
  cases deed with
  | idle | await | feed | endSource | takeIn | pass =>
    rw [before] at after
    exact Nat.le_of_eq (congrArg List.length (Option.some.inj after).symm)
  | letIn _ outbound =>
    rw [outbound, before] at after
    exact Nat.le_of_eq (congrArg List.length (Option.some.inj after).symm)
  | turnedAway outbound =>
    rw [outbound] at after
    contradiction
  | start =>
    rw [← Option.some.inj after]
    exact Nat.zero_le _
  | write handed =>
    rw [handed] at before
    rw [← Option.some.inj after, ← Option.some.inj before]
    exact Nat.le_succ _
  | cancel | failToWrite | failToPass | hearEnd | failToRead | announce | vanish | drop =>
    contradiction

/-! ## Everything a relay does is a deed -/

section

variable {board after : Switchboard} {connection : Connection} {client : Client} {given : Source}

/-- A change of the switchboard and of the phase of a relay that is told and is a deed. -/
def IsDeed (board : Switchboard) (connection : Connection) (client : Client) (given : Source)
    (action : RelayAction) (phase : RelayPhase) (after : Switchboard) (next : RelayPhase)
    (later : Source) : Prop :=
  ∃ goesOn events, Tells board after connection client goesOn events ∧
    Deed board connection client given action phase goesOn events next later

theorem isDeed_idle (found : board.client? connection.client = some client) (given : Source)
    (action : RelayAction) (phase : RelayPhase) :
    IsDeed board connection client given action phase board phase given :=
  ⟨client, [], .refl found, .idle⟩

namespace Loop

variable {loop : Loop} {outcome : Outcome}

theorem isDeed_stop (found : board.client? connection.client = some client)
    (stepped : stepStop board connection loop = some (after, outcome)) :
    IsDeed board connection client given (.step .stop) (.running loop) after
      (Relay.phaseOf outcome) given := by
  unfold stepStop at stepped
  split at stepped
  · next stopped =>
    cases stepped
    exact ⟨_, [], .outbound found none, .cancel stopped⟩
  · contradiction

theorem isDeed_outbound (found : board.client? connection.client = some client)
    (stepped : stepOutbound board connection loop = some (after, outcome)) :
    IsDeed board connection client given (.step .outbound) (.running loop) after
      (Relay.phaseOf outcome) given := by
  simp only [stepOutbound, found, Option.bind_some] at stepped
  split at stepped
  · contradiction
  · contradiction
  · next payload waiting handed =>
    have shown : Tells board (board.updateClient connection.client fun client =>
        { client with outbound := some waiting }) connection client
        { client with outbound := some waiting } [] := .outbound found (some waiting)
    split at stepped
    · next sink written =>
      cases stepped
      exact ⟨_, [], shown, .write handed written⟩
    · next error sink failed =>
      cases stepped
      exact ⟨_, [], shown.trans (.outbound shown.found none), .failToWrite handed failed⟩

theorem pass_eq (found : board.client? connection.client = some client) (payload : Payload) :
    pass board connection payload = board.enqueue connection.backend (client.message payload) := by
  rw [pass, found]
  rfl

theorem isDeed_inbound (found : board.client? connection.client = some client)
    (stepped : stepInbound board connection loop = some (after, outcome)) :
    IsDeed board connection client given (.step .inbound) (.running loop) after
      (Relay.phaseOf outcome) given := by
  unfold stepInbound at stepped
  split at stepped
  · contradiction
  · have goes := loop.reader.attempt loop.source.ended loop.source.items
    simp only [MessageReader.read] at stepped
    generalize loop.reader.readItems loop.source.ended loop.source.items = result at goes stepped
    obtain ⟨attempted, reader, left⟩ := result
    cases goes with
    | waiting _ absorbs =>
      simp only at stepped
      split at stepped
      · contradiction
      · cases stepped
        exact ⟨client, [], .refl found, .takeIn (List.append_nil _).symm absorbs⟩
    | stalled consumed split _ absorbs =>
      cases stepped
      exact ⟨client, [], .refl found, .takeIn split absorbs⟩
    | @payload consumed _ payload _ split _ absorbs =>
      simp only [pass_eq found] at stepped
      cases asked : board.enqueue connection.backend (client.message payload) with
      | mk answer told =>
        simp only [asked] at stepped
        cases answer with
        | ok =>
          cases stepped
          have taken := Tells.enqueue found (congrArg (·.1) asked)
          rw [asked] at taken
          exact ⟨client, _, taken, .pass split absorbs⟩
        | error error =>
          cases stepped
          have refused : (board.enqueue connection.backend (client.message payload)).1 =
              .error error := congrArg (·.1) asked
          obtain rfl : told = board := by
            have same := enqueue_error refused
            rwa [asked] at same
          exact ⟨_, [], .outbound found none, .failToPass split absorbs refused⟩
    | answered comes noPayload =>
      rename_i answer
      rcases answer with error | found' | payload
      · cases stepped
        exact ⟨_, [], .outbound found none, .failToRead comes⟩
      · cases stepped
        exact ⟨_, [], .outbound found none, .hearEnd comes⟩
      · exact absurd rfl (noPayload payload)

theorem announceDeparture_cases (found : board.client? connection.client = some client) :
    Tells board (announceDeparture board connection) connection client client [client.departure] ∨
      announceDeparture board connection = board := by
  simp only [announceDeparture, found]
  split
  · cases asked : (board.enqueue connection.backend client.departure).1 with
    | ok => exact Or.inl (.enqueue found asked)
    | error error => exact Or.inr (enqueue_error asked)
  · exact Or.inr rfl

theorem isDeed_finish (found : board.client? connection.client = some client)
    (result : Except RelayError RelayEnd) (sink : Sink) :
    IsDeed board connection client given .finish (.leaving result sink) (finish board connection)
      (.ended result sink) given := by
  rcases announceDeparture_cases found with told | silent
  · exact ⟨_, _, told.trans (.dropClient told.found), .announce⟩
  · rw [finish, silent]
    exact ⟨_, [], .dropClient found, .vanish⟩

end Loop

namespace Relay

variable {relay : Relay}

theorem isDeed_settle (found : board.client? connection.client = some client) :
    IsDeed board connection client given .settle .awaiting
      (settle board ⟨connection, .awaiting⟩).1 (settle board ⟨connection, .awaiting⟩).2 given := by
  have polled : Tells board
      (board.setHandshake connection.client (client.handshake.poll board.now).2) connection client
      { client with handshake := (client.handshake.poll board.now).2 } [] :=
    .updateClient found (client.continues_poll board.now).toOnward
  simp only [settle, found]
  cases answered : (client.handshake.poll board.now).1 with
  | none => exact isDeed_idle found given _ _
  | some answer =>
    cases answer with
    | ok subProtocol =>
      rw [Handshake.poll_eq_answer?] at answered
      have approved : (client.handshake.poll board.now).2.state.isApproved = true :=
        HandshakeState.isApproved_of_answer? answered
      exact ⟨_, [], polled, .letIn approved rfl⟩
    | error error => exact ⟨_, [], polled.trans (.dropClient polled.found), .turnedAway rfl⟩

/-- Whatever a relay does is a deed. -/
theorem isDeed_act (found : board.client? relay.connection.client = some client) (given : Source)
    (action : RelayAction) :
    IsDeed board relay.connection client given action relay.phase (relay.act board action).1
      (relay.act board action).2 (action.given given relay.phase) := by
  obtain ⟨connection, phase⟩ := relay
  have idle := isDeed_idle found given
  cases action with
  | await =>
    cases phase with
    | pending => exact ⟨client, [], .refl found, .await⟩
    | _ => exact idle _ _
  | settle =>
    cases phase with
    | awaiting => exact isDeed_settle found
    | _ => exact idle _ _
  | run source room failure =>
    cases phase with
    | approved subProtocol => exact ⟨_, [], .outbound found (some []), .start⟩
    | _ => exact idle _ _
  | feed items =>
    cases phase with
    | running loop => exact ⟨client, [], .refl found, .feed⟩
    | _ => exact idle _ _
  | endSource =>
    cases phase with
    | running loop => exact ⟨client, [], .refl found, .endSource⟩
    | _ => exact idle _ _
  | step branch =>
    cases phase with
    | running loop =>
      simp only [act]
      cases stepped : Loop.step board connection loop branch with
      | none => exact idle _ _
      | some result =>
        cases branch with
        | stop => exact Loop.isDeed_stop found stepped
        | outbound => exact Loop.isDeed_outbound found stepped
        | inbound => exact Loop.isDeed_inbound found stepped
    | _ => exact idle _ _
  | finish =>
    cases phase with
    | leaving result sink => exact Loop.isDeed_finish found result sink
    | _ => exact idle _ _
  | drop =>
    cases held : Relay.holds ⟨connection, phase⟩ with
    | true =>
      simp only [act, held, if_pos]
      exact ⟨_, [], .dropClient found, .drop held⟩
    | false =>
      simp only [act, held]
      exact idle _ _

end Relay

end

end HubRelay
