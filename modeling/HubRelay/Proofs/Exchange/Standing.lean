import HubRelay.Proofs.Exchange.Ledger

/-!
Contract: where a relay stands, phase by phase.

Owns: what its source says, why it may have stopped, what was said and shown in each phase, and that
a relay stands where it stood while it is left alone.

Does not own: who leaves it alone.

What a relay has read and what it has yet to read are together what its source was given, and so
are, on the other way, what it has written and what waits for what was handed over.  A relay that
has stopped keeps a prefix of either and a reason.
-/

namespace HubRelay

open Switchboard

namespace Sink

variable {sink later : Sink} {payload : Payload}

theorem write_ok (written : sink.write payload = (none, later)) :
    later.written = sink.written ++ [payload] ∧ later.refused = sink.refused ∧
      later.closes = sink.closes := by
  unfold write at written
  split at written <;> cases written <;> exact ⟨rfl, rfl, rfl⟩

theorem write_error {error : TransportError} (failed : sink.write payload = (some error, later)) :
    later = { sink with refused := some payload } ∧ later.failure = error := by
  unfold write at failed
  split at failed <;> cases failed
  exact ⟨rfl, rfl⟩

end Sink

/-- Whether a relay has ended by itself. -/
def RelayPhase.isEnded : RelayPhase → Bool
  | .ended _ _ => true
  | _ => false

theorem RelayPhase.isEnded_of_holds {connection : Connection} {phase : RelayPhase}
    (holds : Relay.holds ⟨connection, phase⟩ = true) : phase.isEnded = false := by
  cases phase <;> first | rfl | contradiction

namespace Course

/-! ## Phase by phase -/

/-- What the source of a relay says altogether, to somebody who reads it and does nothing else. -/
def conversation (course : Course) (key : RelayKey) :
    List Payload × Option MessageReader.Answer :=
  MessageReader.conversation course.exchange.board.settings.messageLimit (course.given key)

/-- A relay was opened for a client of this hub and context, and routed to this backend. -/
def Opened (course : Course) (key : RelayKey) (connection : Connection) (client : Client) : Prop :=
  ∃ moment ∈ course.past, moment.action = .openRelay client.hub client.context ∧
    moment.before.relays.length = key ∧
    (moment.before.board.route client.hub client.context connectEvent).1 =
      .ok (connection.backend, connection.client)

/-- Why a relay stopped with a result, after its client said something. -/
def Explained (course : Course) (key : RelayKey) (connection : Connection) (client : Client)
    (said : List Payload) (sink : Sink) : Except RelayError RelayEnd → Prop
  | .ok .closed => course.conversation key = (said, some (.ok none))
  | .ok .cancelled => course.exchange.board.stopped = true
  | .error (.transport error) =>
    course.conversation key = (said, some (.error error)) ∨
      sink.refused.isSome = true ∧ sink.failure = error
  | .error (.route error) =>
    ∃ payload, said ++ [payload] <+: (course.conversation key).1 ∧
      ∃ moment ∈ course.past, moment.action = .relay key (.step .inbound) ∧
        (moment.before.board.enqueue connection.backend (client.message payload)).1 = .error error
  | .error (.handshake _) => False

/-- Nothing has passed either way. -/
structure Quiet (course : Course) (connection : Connection) (client : Client)
    (said : List Payload) : Prop where
  silent : said = []
  outbound : client.outbound = none
  handed : course.handed connection.client = []

/-- What its source was given at first was read and what was read was told, and what was handed
over was written or waits. -/
structure Running (course : Course) (key : RelayKey) (connection : Connection) (client : Client)
    (said : List Payload) (loop : Loop) : Prop where
  approved : client.handshake.state.isApproved = true
  reads : ∃ consumed, (course.given key).items = consumed ++ loop.source.items ∧
    (MessageReader.start course.exchange.board.settings.messageLimit).Absorbs consumed said
      loop.reader
  ended : (course.given key).ended = loop.source.ended
  shows : ∃ waiting, client.outbound = some waiting ∧
    course.handed connection.client = loop.sink.written ++ waiting
  unrefused : loop.sink.refused = none
  unclosed : loop.sink.closes = 0

/-- Nothing passes any more, and there was a reason to stop. -/
structure Stopped (course : Course) (key : RelayKey) (connection : Connection) (client : Client)
    (said : List Payload) (result : Except RelayError RelayEnd) (sink : Sink) : Prop where
  approved : client.handshake.state.isApproved = true
  told : said <+: (course.conversation key).1
  outbound : client.outbound = none
  shown : sink.passed <+: course.handed connection.client
  closed : sink.closes = 1
  explained : course.Explained key connection client said sink result

/-- Where a relay stands in a phase, after its client said something. -/
def Stands (course : Course) (key : RelayKey) (connection : Connection) (client : Client)
    (said : List Payload) : RelayPhase → Prop
  | .pending | .awaiting => course.Quiet connection client said
  | .refused _ => said = []
  | .approved _ =>
    course.Quiet connection client said ∧ client.handshake.state.isApproved = true
  | .running loop => course.Running key connection client said loop
  | .leaving result sink | .ended result sink =>
    course.Stopped key connection client said result sink
  | .dropped => said <+: (course.conversation key).1 ∧
    (said = [] ∨ client.handshake.state.isApproved = true)

variable {course later : Course} {key : RelayKey} {connection : Connection}
  {client goesOn : Client} {said : List Payload} {left : Bool} {loop : Loop}
  {result : Except RelayError RelayEnd} {sink : Sink} {relay : Relay}

/-- What was told came from the source, in order. -/
theorem Running.conversation_eq (running : course.Running key connection client said loop) :
    course.conversation key =
      (said ++ (loop.reader.transcript loop.source.ended loop.source.items).1,
        (loop.reader.transcript loop.source.ended loop.source.items).2) := by
  obtain ⟨consumed, split, absorbs⟩ := running.reads
  rw [conversation, MessageReader.conversation_eq, split, running.ended]
  exact absorbs _ _

theorem Running.told (running : course.Running key connection client said loop) :
    said <+: (course.conversation key).1 := by
  rw [running.conversation_eq]
  exact List.prefix_append _ _

theorem Running.shown (running : course.Running key connection client said loop) :
    loop.sink.passed <+: course.handed connection.client := by
  obtain ⟨waiting, -, handed⟩ := running.shows
  rw [handed, Sink.passed, running.unrefused, Option.toList_none, List.append_nil]
  exact List.prefix_append _ _

/-- Whatever phase a relay is in, what was told came from the source, in order. -/
theorem Stands.told {phase : RelayPhase}
    (stands : course.Stands key connection client said phase) :
    said <+: (course.conversation key).1 := by
  cases phase with
  | pending | awaiting => exact stands.silent ▸ List.nil_prefix
  | refused error => exact (show said = [] from stands) ▸ List.nil_prefix
  | approved subProtocol => exact stands.1.silent ▸ List.nil_prefix
  | running loop => exact Running.told stands
  | leaving result sink | ended result sink => exact Stopped.told stands
  | dropped => exact stands.1

theorem Stands.approved {phase : RelayPhase}
    (stands : course.Stands key connection client said phase) (spoke : said ≠ []) :
    client.handshake.state.isApproved = true := by
  cases phase with
  | pending | awaiting => exact absurd stands.silent spoke
  | refused error => exact absurd stands spoke
  | approved subProtocol => exact stands.2
  | running loop => exact Running.approved stands
  | leaving result sink | ended result sink => exact Stopped.approved stands
  | dropped => exact stands.2.resolve_left spoke

theorem Opened.goOn (opened : course.Opened key connection client)
    (past : course.past ⊆ later.past) (onward : client.Onward goesOn) :
    later.Opened key connection goesOn := by
  obtain ⟨moment, member, opens, number, routed⟩ := opened
  rw [Opened, onward.hub_eq, onward.context_eq]
  exact ⟨moment, past member, opens, number, routed⟩

/-! ## What others do -/

/-- A relay is left alone from one course to a later one: its source is given nothing, and at most
payloads are handed over for its client. -/
structure Undisturbed (course later : Course) (key : RelayKey) (connection : Connection)
    (client goesOn : Client) : Prop where
  settings : later.exchange.board.settings = course.exchange.board.settings
  halted : course.exchange.board.stopped = true → later.exchange.board.stopped = true
  past : course.past ⊆ later.past
  given : later.given key = course.given key
  onward : client.Onward goesOn
  handed : ∃ more, goesOn.outbound = client.outbound.map (· ++ more) ∧
    later.handed connection.client =
      course.handed connection.client ++ if client.outbound.isSome then more else []

namespace Undisturbed

theorem conversation_eq (undisturbed : Undisturbed course later key connection client goesOn) :
    later.conversation key = course.conversation key := by
  rw [conversation, conversation, undisturbed.settings, undisturbed.given]

theorem explained (undisturbed : Undisturbed course later key connection client goesOn)
    (explained : course.Explained key connection client said sink result) :
    later.Explained key connection goesOn said sink result := by
  rcases result with error | ending
  · cases error with
    | transport error =>
      rw [Explained, undisturbed.conversation_eq]
      exact explained
    | route error =>
      obtain ⟨payload, next, moment, member, acts, refused⟩ := explained
      rw [Explained, undisturbed.conversation_eq, undisturbed.onward.message_eq]
      exact ⟨payload, next, moment, undisturbed.past member, acts, refused⟩
    | handshake error => exact explained
  · cases ending with
    | closed =>
      rw [Explained, undisturbed.conversation_eq]
      exact explained
    | cancelled => exact undisturbed.halted explained

theorem quiet (undisturbed : Undisturbed course later key connection client goesOn)
    (quiet : course.Quiet connection client said) : later.Quiet connection goesOn said := by
  obtain ⟨more, outbound, handed⟩ := undisturbed.handed
  rw [quiet.outbound] at outbound handed
  exact ⟨quiet.silent, outbound, by rw [handed, quiet.handed]; rfl⟩

theorem running (undisturbed : Undisturbed course later key connection client goesOn)
    (running : course.Running key connection client said loop) :
    later.Running key connection goesOn said loop where
  approved := undisturbed.onward.isApproved running.approved
  reads := by
    rw [undisturbed.given, undisturbed.settings]
    exact running.reads
  ended := by
    rw [undisturbed.given]
    exact running.ended
  shows := by
    obtain ⟨waiting, outbound, handed⟩ := running.shows
    obtain ⟨more, outboundLater, handedLater⟩ := undisturbed.handed
    rw [outbound] at outboundLater handedLater
    refine ⟨waiting ++ more, outboundLater, ?_⟩
    rw [handedLater, handed, List.append_assoc]
    rfl
  unrefused := running.unrefused
  unclosed := running.unclosed

theorem stopped (undisturbed : Undisturbed course later key connection client goesOn)
    (stopped : course.Stopped key connection client said result sink) :
    later.Stopped key connection goesOn said result sink where
  approved := undisturbed.onward.isApproved stopped.approved
  told := by
    rw [undisturbed.conversation_eq]
    exact stopped.told
  outbound := by
    obtain ⟨more, outbound, -⟩ := undisturbed.handed
    rw [outbound, stopped.outbound]
    rfl
  shown := by
    obtain ⟨more, -, handed⟩ := undisturbed.handed
    rw [handed]
    exact stopped.shown.trans (List.prefix_append _ _)
  closed := stopped.closed
  explained := undisturbed.explained stopped.explained

/-- A relay that is left alone stands where it stood. -/
theorem stands {phase : RelayPhase}
    (undisturbed : Undisturbed course later key connection client goesOn)
    (stands : course.Stands key connection client said phase) :
    later.Stands key connection goesOn said phase := by
  cases phase with
  | pending | awaiting => exact undisturbed.quiet stands
  | refused error => exact stands
  | approved subProtocol =>
    exact ⟨undisturbed.quiet stands.1, undisturbed.onward.isApproved stands.2⟩
  | running loop => exact undisturbed.running stands
  | leaving result sink | ended result sink => exact undisturbed.stopped stands
  | dropped =>
    refine ⟨?_, stands.2.imp_right undisturbed.onward.isApproved⟩
    rw [undisturbed.conversation_eq]
    exact stands.1

end Undisturbed

end Course

end HubRelay
