import HubRelay.Proofs.Exchange.Standing

/-!
Contract: the story of every relay along every course.

Owns: who the client of a relay is, what was told about it and where, and where the relay stands;
that a story begins when a relay is opened, and goes on by whatever happens.

Does not own: what follows for those who only see the queues.

Others leave a story alone, because nobody else puts in events as this relay, gives its source
anything or touches its client, apart from handing payloads over.  The relay itself goes from one
phase to the next, deed by deed.
-/

namespace HubRelay

open Switchboard

namespace Course

/-- The story of a relay: who its client is and how it came to it, what its backend was told, that
nobody else was told anything, and where it stands. -/
structure Story (course : Course) (key : RelayKey) (relay : Relay) (client : Client)
    (said : List Payload) (left : Bool) : Prop where
  present : course.exchange.relay? key = some relay
  found : course.exchange.board.client? relay.connection.client = some client
  opened : course.Opened key relay.connection client
  made : course.made key relay.connection.backend = client.script said left
  elsewhere : ∀ backend ≠ relay.connection.backend, course.made key backend = []
  gone : left = true → relay.phase.isEnded = true
  stands : course.Stands key relay.connection client said relay.phase

variable {course later : Course} {key : RelayKey} {connection : Connection}
  {client goesOn : Client} {said : List Payload} {left : Bool} {loop : Loop}
  {result : Except RelayError RelayEnd} {sink : Sink} {relay : Relay}

/-- A backend is told that a client has left when its relay ends, and not before. -/
theorem Story.stays (story : course.Story key relay client said left)
    (goesOn : relay.phase.isEnded = false) : left = false := by
  refine Bool.eq_false_iff.2 fun gone => ?_
  rw [story.gone gone] at goesOn
  contradiction

theorem relay?_of_far {exchange : Exchange} {action : Action}
    (present : exchange.relay? key = some relay) (far : ∀ own, action ≠ .relay key own) :
    (exchange.perform action).relay? key = some relay := by
  have within : key < exchange.relays.length := (List.getElem?_eq_some_iff.1 present).1
  cases action with
  | request request => exact present
  | release client =>
    show (exchange.release client).relay? key = some relay
    rw [Exchange.release]
    split <;> exact present
  | openRelay hub context =>
    rcases exchange.openRelay_cases hub context with
      ⟨error, after, -, opened⟩ | ⟨backend, client, routed, -, ⟨error, -, opened⟩ | ⟨-, opened⟩⟩
    · rw [opened]
      exact present
    · rw [opened]
      exact present
    · rw [opened, Exchange.relay?, List.getElem?_append_left within]
      exact present
  | relay other own =>
    have different : other ≠ key := fun same => far own (same ▸ rfl)
    exact (exchange.relay?_performRelay_ne different own).trans present

/-- What is not done by a relay does not touch its client. -/
theorem touched_of_far {action : Action} (orderly : course.Orderly)
    (present : course.exchange.relay? key = some relay) (far : ∀ own, action ≠ .relay key own) :
    course.exchange.touched action ≠ some relay.connection.client := by
  cases action with
  | request request => exact (Option.some_ne_none _).symm
  | openRelay hub context => exact (Option.some_ne_none _).symm
  | release client =>
    intro touched
    rw [Exchange.touched] at touched
    split at touched
    · contradiction
    · next free =>
      refine free (List.any_eq_true.2 ⟨relay, List.mem_of_getElem? present, ?_⟩)
      exact beq_iff_eq.2 (Option.some.inj touched).symm
  | relay other own =>
    intro touched
    rw [Exchange.touched] at touched
    obtain ⟨entry, found, agree⟩ := Option.map_eq_some_iff.1 touched
    have same : other = key := orderly.exclusive.distinct present found agree
    exact far own (same ▸ rfl)

theorem author_of_far {action : Action} (present : course.exchange.relay? key = some relay)
    (far : ∀ own, action ≠ .relay key own) :
    Moment.author ⟨course.exchange, action⟩ ≠ some key := by
  cases action with
  | request request => exact (Option.some_ne_none _).symm
  | release client => exact (Option.some_ne_none _).symm
  | openRelay hub context =>
    have within : key < course.exchange.relays.length := (List.getElem?_eq_some_iff.1 present).1
    exact fun same => Nat.ne_of_gt within (Option.some.inj same)
  | relay other own => exact fun same => far own (by rw [Option.some.inj same])

theorem given_of_far {action : Action} (far : ∀ own, action ≠ .relay key own) (source : Source) :
    Moment.given ⟨course.exchange, action⟩ key source = source := by
  unfold Moment.given
  split
  · next other own phase acts _ =>
    have different : other ≠ key := fun same => far own (same ▸ acts)
    rw [if_neg different]
  · rfl

theorem made_of_far {action : Action} (present : course.exchange.relay? key = some relay)
    (far : ∀ own, action ≠ .relay key own) (backend : BackendKey) :
    (course.take action).made key backend = course.made key backend := by
  rw [made_take, if_neg (author_of_far present far), List.append_nil]

/-- What is not done by a relay leaves it alone. -/
theorem undisturbed_of_far {action : Action} (orderly : course.Orderly)
    (present : course.exchange.relay? key = some relay)
    (found : course.exchange.board.client? relay.connection.client = some client)
    (far : ∀ own, action ≠ .relay key own) :
    ∃ goesOn, (course.take action).exchange.board.client? relay.connection.client = some goesOn ∧
      Undisturbed course (course.take action) key relay.connection client goesOn := by
  have onward := course.exchange.onward_perform action
  obtain ⟨goesOn, foundLater, same, continues⟩ := onward.client found
  have continues := continues (touched_of_far orderly present far)
  obtain ⟨more, grown⟩ := continues.handed
  refine ⟨goesOn, foundLater, onward.settings, onward.stopped, List.subset_append_left _ _, ?_,
    same, more, grown, ?_⟩
  · rw [given_take, given_of_far far]
  · rw [handed_take]
    exact congrArg _ (handedOver_of_continues found foundLater grown)

/-- The story of a relay goes on by what others do. -/
theorem Story.others {action : Action} (story : course.Story key relay client said left)
    (orderly : course.Orderly) (far : ∀ own, action ≠ .relay key own) :
    ∃ goesOn, (course.take action).Story key relay goesOn said left := by
  obtain ⟨goesOn, found, undisturbed⟩ := undisturbed_of_far orderly story.present story.found far
  have opened := story.opened.goOn undisturbed.past undisturbed.onward
  refine ⟨goesOn, relay?_of_far story.present far, found, opened, ?_, ?_, story.gone,
    undisturbed.stands story.stands⟩
  · rw [made_of_far story.present far, story.made, undisturbed.onward.script_eq]
  · intro backend elsewhere
    rw [made_of_far story.present far]
    exact story.elsewhere backend elsewhere

/-! ## What the relay does -/

/-- A relay acts, and this is what comes of it. -/
structure Acts (course : Course) (key : RelayKey) (relay : Relay) (action : RelayAction)
    (client goesOn : Client) (events : List Event) (next : RelayPhase) (heard : Source) :
    Prop where
  deed : Deed course.exchange.board relay.connection client (course.given key) action relay.phase
    goesOn events next heard
  present : (course.take (.relay key action)).exchange.relay? key =
    some { relay with phase := next }
  found : (course.take (.relay key action)).exchange.board.client? relay.connection.client =
    some goesOn
  onward : client.Onward goesOn
  settings : (course.take (.relay key action)).exchange.board.settings =
    course.exchange.board.settings
  halted : course.exchange.board.stopped = true →
    (course.take (.relay key action)).exchange.board.stopped = true
  given : (course.take (.relay key action)).given key = heard
  handed : (course.take (.relay key action)).handed relay.connection.client =
    course.handed relay.connection.client
  made : (course.take (.relay key action)).made key relay.connection.backend =
    course.made key relay.connection.backend ++ events
  elsewhere : ∀ backend ≠ relay.connection.backend,
    (course.take (.relay key action)).made key backend = course.made key backend

/-- Something comes of whatever a relay does. -/
theorem acts_of_found (present : course.exchange.relay? key = some relay)
    (found : course.exchange.board.client? relay.connection.client = some client)
    (action : RelayAction) : ∃ goesOn events next heard,
      course.Acts key relay action client goesOn events next heard := by
  obtain ⟨goesOn, events, tells, deed⟩ :=
    Relay.isDeed_act found (course.given key) action
  have board : (course.take (.relay key action)).exchange.board =
      (relay.act course.exchange.board action).1 :=
    congrArg (·.board) (Exchange.performRelay_eq present action)
  have steady := relay.steady_act course.exchange.board action
  have arrivals (backend : BackendKey) :
      (course.take (.relay key action)).made key backend = course.made key backend ++
        Switchboard.arrivals course.exchange.board (relay.act course.exchange.board action).1
          backend := by
    have own : Moment.author ⟨course.exchange, .relay key action⟩ = some key := rfl
    rw [made_take, if_pos own, ← board]
    rfl
  refine ⟨goesOn, events, (relay.act course.exchange.board action).2,
    action.given (course.given key) relay.phase, ?_⟩
  constructor
  case deed => exact deed
  case present => exact Exchange.relay?_performRelay_self present action
  case found => rw [board]; exact tells.found
  case onward => exact tells.onward
  case settings => rw [board]; exact steady.settings
  case halted => rw [board]; exact steady.stopped
  case given =>
    rw [given_take]
    simp only [Moment.given, Exchange.phase?, present, Option.map_some, if_pos]
  case handed =>
    rw [handed_take]
    have nothing : Moment.handedOver ⟨course.exchange, .relay key action⟩
        relay.connection.client = [] :=
      handedOver_of_le found (board ▸ tells.found) deed.handsNothing
    rw [nothing, List.append_nil]
  case made => rw [arrivals, arrivals_of_append tells.queue]
  case elsewhere =>
    intro backend far
    rw [arrivals, arrivals_of_same (tells.others backend far), List.append_nil]

namespace Acts

variable {action : RelayAction} {events : List Event} {next : RelayPhase} {heard : Source}
  {saidThen : List Payload} {leftThen : Bool}

theorem story (acts : course.Acts key relay action client goesOn events next heard)
    (story : course.Story key relay client said left)
    (told : client.script said left ++ events = client.script saidThen leftThen)
    (gone : leftThen = true → next.isEnded = true)
    (stands : (course.take (.relay key action)).Stands key relay.connection goesOn saidThen next) :
    (course.take (.relay key action)).Story key { relay with phase := next } goesOn saidThen
      leftThen where
  present := acts.present
  found := acts.found
  opened := story.opened.goOn (List.subset_append_left _ _) acts.onward
  made := by rw [acts.made, story.made, told, acts.onward.script_eq]
  elsewhere := fun backend far => by rw [acts.elsewhere backend far, story.elsewhere backend far]
  gone := gone
  stands := stands

/-- The story goes on with nothing told, if the relay had not ended. -/
theorem silently (acts : course.Acts key relay action client goesOn [] next heard)
    (story : course.Story key relay client said left) (unended : relay.phase.isEnded = false)
    (stands : (course.take (.relay key action)).Stands key relay.connection goesOn said next) :
    (course.take (.relay key action)).Story key { relay with phase := next } goesOn said false := by
  obtain rfl := story.stays unended
  exact acts.story story (List.append_nil _) Bool.noConfusion stands

theorem conversation_eq
    (acts : course.Acts key relay action client goesOn events next (course.given key)) :
    (course.take (.relay key action)).conversation key = course.conversation key := by
  rw [conversation, conversation, acts.settings, acts.given]

theorem undisturbed
    (acts : course.Acts key relay action client goesOn events next (course.given key))
    (outbound : goesOn.outbound = client.outbound) :
    Undisturbed course (course.take (.relay key action)) key relay.connection client goesOn where
  settings := acts.settings
  halted := acts.halted
  past := List.subset_append_left _ _
  given := acts.given
  onward := acts.onward
  handed := by
    refine ⟨[], ?_, ?_⟩
    · rw [outbound]
      cases client.outbound <;> simp
    · rw [acts.handed]
      cases client.outbound <;> simp

theorem stopsWith
    (acts : course.Acts key relay action client goesOn events next (course.given key))
    (running : course.Running key relay.connection client said loop)
    (outbound : goesOn.outbound = none)
    (shown : sink.passed <+: course.handed relay.connection.client) (closed : sink.closes = 1)
    (explained : (course.take (.relay key action)).Explained key relay.connection goesOn said sink
      result) :
    (course.take (.relay key action)).Stopped key relay.connection goesOn said result sink where
  approved := acts.onward.isApproved running.approved
  told := by
    rw [acts.conversation_eq]
    exact running.told
  outbound := outbound
  shown := by
    rw [acts.handed]
    exact shown
  closed := closed
  explained := explained

/-- A relay that was running stops, and closes its sink. -/
theorem stops (acts : course.Acts key relay action client { client with outbound := none } events
      next (course.given key))
    (running : course.Running key relay.connection client said loop)
    (result : Except RelayError RelayEnd)
    (explained : (course.take (.relay key action)).Explained key relay.connection
      { client with outbound := none } said loop.sink.close result) :
    (course.take (.relay key action)).Stopped key relay.connection
      { client with outbound := none } said result loop.sink.close := by
  have closed : loop.sink.close.closes = 1 := by
    rw [Sink.close, running.unclosed]
  exact acts.stopsWith running rfl running.shown closed explained

theorem reads {consumed items : List SourceItem} {reader : MessageReader} {more : List Payload}
    (acts : course.Acts key relay action client client events next (course.given key))
    (running : course.Running key relay.connection client said loop)
    (split : loop.source.items = consumed ++ items)
    (absorbs : loop.reader.Absorbs consumed more reader) (stalled : Bool) :
    (course.take (.relay key action)).Running key relay.connection client (said ++ more)
      ⟨{ loop.source with items := items }, reader, stalled, loop.sink⟩ where
  approved := running.approved
  reads := by
    obtain ⟨before, splitBefore, absorbsBefore⟩ := running.reads
    rw [acts.given, acts.settings]
    refine ⟨before ++ consumed, ?_, absorbsBefore.trans absorbs⟩
    rw [splitBefore, split, List.append_assoc]
  ended := by
    rw [acts.given]
    exact running.ended
  shows := by
    rw [acts.handed]
    exact running.shows
  unrefused := running.unrefused
  unclosed := running.unclosed

theorem starts {source : Source} {room : Option Nat} {failure : TransportError}
    (acts : course.Acts key relay action client { client with outbound := some [] } events next
      source) (quiet : course.Quiet relay.connection client said)
    (approved : client.handshake.state.isApproved = true) :
    (course.take (.relay key action)).Running key relay.connection
      { client with outbound := some [] } said ⟨source,
        .start course.exchange.board.settings.messageLimit, false, .start room failure⟩ where
  approved := approved
  reads := by
    rw [acts.given, acts.settings, quiet.silent]
    exact ⟨[], rfl, .refl _⟩
  ended := by rw [acts.given]
  shows := by
    rw [acts.handed, quiet.handed]
    exact ⟨[], rfl, rfl⟩
  unrefused := rfl
  unclosed := rfl

theorem hears {source : Source} {more : List SourceItem}
    (acts : course.Acts key relay action client client events next heard)
    (running : course.Running key relay.connection client said loop)
    (given : heard.items = (course.given key).items ++ more)
    (items : source.items = loop.source.items ++ more) (ended : heard.ended = source.ended) :
    (course.take (.relay key action)).Running key relay.connection client said
      { loop with source := source } where
  approved := running.approved
  reads := by
    obtain ⟨consumed, split, absorbs⟩ := running.reads
    rw [acts.given, acts.settings]
    refine ⟨consumed, ?_, absorbs⟩
    rw [given, split, items, List.append_assoc]
  ended := by
    rw [acts.given]
    exact ended
  shows := by
    rw [acts.handed]
    exact running.shows
  unrefused := running.unrefused
  unclosed := running.unclosed

theorem writes {payload : Payload} {waiting : List Payload}
    (acts : course.Acts key relay action client { client with outbound := some waiting } events
      next (course.given key))
    (running : course.Running key relay.connection client said loop)
    (handed : client.outbound = some (payload :: waiting))
    (written : loop.sink.write payload = (none, sink)) :
    (course.take (.relay key action)).Running key relay.connection
      { client with outbound := some waiting } said
      { loop with sink := sink, stalled := false } where
  approved := running.approved
  reads := by
    rw [acts.given, acts.settings]
    exact running.reads
  ended := by
    rw [acts.given]
    exact running.ended
  shows := by
    obtain ⟨waitingBefore, outbound, handedBefore⟩ := running.shows
    obtain rfl : payload :: waiting = waitingBefore :=
      Option.some.inj (handed.symm.trans outbound)
    refine ⟨waiting, rfl, ?_⟩
    rw [acts.handed, handedBefore, (Sink.write_ok written).1, List.append_assoc]
    rfl
  unrefused := (Sink.write_ok written).2.1.trans running.unrefused
  unclosed := (Sink.write_ok written).2.2.trans running.unclosed

theorem failsToWrite {payload : Payload} {waiting : List Payload} {error : TransportError}
    (acts : course.Acts key relay action client { client with outbound := none } events next
      (course.given key))
    (running : course.Running key relay.connection client said loop)
    (handed : client.outbound = some (payload :: waiting))
    (failed : loop.sink.write payload = (some error, sink)) :
    (course.take (.relay key action)).Stopped key relay.connection
      { client with outbound := none } said (.error (.transport error)) sink.close := by
  obtain ⟨rfl, cause⟩ := Sink.write_error failed
  obtain ⟨waitingBefore, outbound, handedBefore⟩ := running.shows
  obtain rfl : payload :: waiting = waitingBefore :=
    Option.some.inj (handed.symm.trans outbound)
  refine acts.stopsWith running rfl ?_ (congrArg (· + 1) running.unclosed) (Or.inr ⟨rfl, cause⟩)
  rw [handedBefore]
  refine ⟨waiting, ?_⟩
  simp [Sink.passed, Sink.close]

theorem failsToPass {consumed items : List SourceItem} {reader : MessageReader}
    {payload : Payload} {error : RouteError}
    (acts : course.Acts key relay (.step .inbound) client { client with outbound := none } events
      next (course.given key))
    (running : course.Running key relay.connection client said loop)
    (split : loop.source.items = consumed ++ items)
    (absorbs : loop.reader.Absorbs consumed [payload] reader)
    (refused : (course.exchange.board.enqueue relay.connection.backend
      (client.message payload)).1 = .error error) :
    (course.take (.relay key (.step .inbound))).Stopped key relay.connection
      { client with outbound := none } said (.error (.route error)) loop.sink.close := by
  refine acts.stops running (.error (.route error)) ?_
  refine ⟨payload, ?_, ⟨course.exchange, .relay key (.step .inbound)⟩,
    List.mem_append_right _ (List.mem_singleton_self _), rfl, refused⟩
  rw [acts.conversation_eq, running.conversation_eq, split, absorbs]
  refine ⟨(reader.transcript loop.source.ended items).1, ?_⟩
  rw [List.append_assoc]

theorem conversation_of_over {answer : MessageReader.Answer}
    (acts : course.Acts key relay action client goesOn events next (course.given key))
    (running : course.Running key relay.connection client said loop)
    (comes : loop.reader.transcript loop.source.ended loop.source.items = ([], some answer)) :
    (course.take (.relay key action)).conversation key = (said, some answer) := by
  rw [acts.conversation_eq, running.conversation_eq, comes, List.append_nil]

end Acts

/-- The story of a relay goes on by what the relay does. -/
theorem Story.own (story : course.Story key relay client said left) (action : RelayAction) :
    ∃ next goesOn saidThen leftThen, (course.take (.relay key action)).Story key
      { relay with phase := next } goesOn saidThen leftThen := by
  obtain ⟨connection, phase⟩ := relay
  obtain ⟨goesOn, events, next, heard, acts⟩ :=
    acts_of_found story.present story.found action
  have deed : Deed course.exchange.board connection client (course.given key) action phase goesOn
      events next heard := acts.deed
  have stands : course.Stands key connection client said phase := story.stands
  -- only a message and the departure are told; in every other case the phase is all that changes
  cases deed with
  | idle =>
    have same := (acts.undisturbed rfl).stands stands
    exact ⟨phase, client, said, left, acts.story story (List.append_nil _) story.gone same⟩
  | await =>
    have quiet := (acts.undisturbed rfl).quiet stands
    exact ⟨_, _, said, false, acts.silently story rfl quiet⟩
  | letIn approved outbound =>
    have quiet := (acts.undisturbed outbound).quiet stands
    exact ⟨_, _, said, false, acts.silently story rfl ⟨quiet, approved⟩⟩
  | turnedAway => exact ⟨_, _, said, false, acts.silently story rfl stands.silent⟩
  | start =>
    exact ⟨_, _, said, false, acts.silently story rfl (acts.starts stands.1 stands.2)⟩
  | feed =>
    have running : course.Running key connection client said _ := stands
    exact ⟨_, _, said, false, acts.silently story rfl (acts.hears running rfl rfl running.ended)⟩
  | endSource =>
    exact ⟨_, _, said, false, acts.silently story rfl
      (acts.hears stands (List.append_nil _).symm (List.append_nil _).symm rfl)⟩
  | cancel stopped =>
    have stopped := acts.stops stands (.ok .cancelled) (acts.halted stopped)
    exact ⟨_, _, said, false, acts.silently story rfl stopped⟩
  | write handed written =>
    have running := acts.writes stands handed written
    exact ⟨_, _, said, false, acts.silently story rfl running⟩
  | failToWrite handed failed =>
    have stopped := acts.failsToWrite stands handed failed
    exact ⟨_, _, said, false, acts.silently story rfl stopped⟩
  | @takeIn loop consumed items reader stalled split absorbs =>
    have running := acts.reads stands split absorbs stalled
    rw [List.append_nil] at running
    exact ⟨_, _, said, false, acts.silently story rfl running⟩
  | @pass loop consumed items reader payload split absorbs =>
    obtain rfl := story.stays rfl
    have told := (client.script_message said payload).symm
    have running := acts.reads stands split absorbs loop.stalled
    exact ⟨_, _, said ++ [payload], false, acts.story story told Bool.noConfusion running⟩
  | failToPass split absorbs refused =>
    have stopped := acts.failsToPass stands split absorbs refused
    exact ⟨_, _, said, false, acts.silently story rfl stopped⟩
  | hearEnd comes =>
    have ended := acts.conversation_of_over stands comes
    have stopped := acts.stops stands (.ok .closed) ended
    exact ⟨_, _, said, false, acts.silently story rfl stopped⟩
  | @failToRead loop error comes =>
    have ended := acts.conversation_of_over stands comes
    have stopped := acts.stops stands (.error (.transport error)) (Or.inl ended)
    exact ⟨_, _, said, false, acts.silently story rfl stopped⟩
  | @announce result sink =>
    obtain rfl := story.stays rfl
    have stopped : course.Stopped key connection client said result sink := stands
    have stopped := (acts.undisturbed stopped.outbound.symm).stopped stopped
    have told := (client.script_departure said).symm
    exact ⟨_, _, said, true, acts.story story told (fun _ => rfl) stopped⟩
  | @vanish result sink =>
    have stopped : course.Stopped key connection client said result sink := stands
    have stopped := (acts.undisturbed stopped.outbound.symm).stopped stopped
    exact ⟨_, _, said, false, acts.silently story rfl stopped⟩
  | drop holds =>
    refine ⟨_, _, said, false, acts.silently story (RelayPhase.isEnded_of_holds holds) ⟨?_, ?_⟩⟩
    · rw [acts.conversation_eq]
      exact stands.told
    · by_cases spoke : said = []
      · exact Or.inl spoke
      · exact Or.inr (stands.approved spoke)

/-! ## How a story begins -/

theorem relay?_of_missing {exchange : Exchange} {action : Action}
    (missing : (exchange.perform action).relay? key = none) : exchange.relay? key = none := by
  refine Option.eq_none_iff_forall_ne_some.2 fun relay present => ?_
  by_cases own : ∃ deed, action = .relay key deed
  · obtain ⟨deed, rfl⟩ := own
    have acted := Exchange.relay?_performRelay_self present deed
    exact Option.some_ne_none _ (acted.symm.trans missing)
  · rw [relay?_of_far present fun deed same => own ⟨deed, same⟩] at missing
    contradiction

/-- A relay that is there after an action and was not there before was opened by that action. -/
theorem opens_of_new {exchange : Exchange} {action : Action}
    (missing : exchange.relay? key = none)
    (present : (exchange.perform action).relay? key = some relay) :
    ∃ hub context routed, action = .openRelay hub context ∧ key = exchange.relays.length ∧
      relay.phase = .pending ∧
      exchange.board.route hub context connectEvent =
        (.ok (relay.connection.backend, relay.connection.client), routed) ∧
      (routed.enqueue relay.connection.backend (.connect hub
        (Exchange.routedId routed relay.connection.client) context)).1 = .ok () ∧
      (exchange.perform action).board = (routed.enqueue relay.connection.backend (.connect hub
        (Exchange.routedId routed relay.connection.client) context)).2 := by
  have unchanged (same : (exchange.perform action).relay? key = exchange.relay? key) : False := by
    rw [same, missing] at present
    contradiction
  cases action with
  | request request => exact (unchanged rfl).elim
  | release client =>
    refine (unchanged ?_).elim
    show (exchange.release client).relay? key = _
    rw [Exchange.release]
    split <;> rfl
  | relay other own =>
    by_cases same : other = key
    · subst same
      have nothing : exchange.perform (.relay other own) = exchange :=
        Exchange.performRelay_of_missing missing own
      exact (unchanged (by rw [nothing])).elim
    · exact (unchanged (exchange.relay?_performRelay_ne same own)).elim
  | openRelay hub context =>
    rcases exchange.openRelay_cases hub context with
      ⟨error, after, -, opened⟩ | ⟨backend, client, routed, routing, failed | ⟨asked, opened⟩⟩
    · exact (unchanged (by rw [opened]; rfl)).elim
    · obtain ⟨error, -, opened⟩ := failed
      exact (unchanged (by rw [opened]; rfl)).elim
    · rw [opened] at present
      rcases entry_of_concat present with old | ⟨place, rfl⟩
      · rw [Exchange.relay?, old] at missing
        contradiction
      · exact ⟨hub, context, routed, rfl, place, rfl, routing, asked, by rw [opened]⟩

/-- Nothing is known of relays and clients that are not there yet. -/
structure Fresh (course : Course) : Prop where
  made : ∀ {key}, course.exchange.relay? key = none → ∀ backend, course.made key backend = []
  given : ∀ {key}, course.exchange.relay? key = none → course.given key = ⟨[], false⟩
  handed : ∀ {client}, course.exchange.board.client? client = none → course.handed client = []

theorem arrivals_of_missing {exchange : Exchange} {action : Action}
    (missing : (exchange.perform action).relay? key = none)
    (author : Moment.author ⟨exchange, action⟩ = some key) (backend : BackendKey) :
    Moment.arrivals ⟨exchange, action⟩ backend = [] := by
  refine arrivals_of_same ?_
  show (exchange.perform action).board.waiting backend = exchange.board.waiting backend
  cases action with
  | request request => contradiction
  | release client => contradiction
  | relay other own =>
    obtain rfl : other = key := Option.some.inj author
    have same : exchange.perform (.relay other own) = exchange :=
      Exchange.performRelay_of_missing (relay?_of_missing missing) own
    rw [same]
  | openRelay hub context =>
    obtain rfl : exchange.relays.length = key := Option.some.inj author
    have routes := exchange.board.backends_route hub context connectEvent
    rcases exchange.openRelay_cases hub context with
      ⟨error, after, refused, opened⟩ | ⟨_, client, routed, routing, failed | ⟨-, opened⟩⟩
    · rw [refused] at routes
      rw [opened, waiting, backend?, routes]
      rfl
    · obtain ⟨error, -, opened⟩ := failed
      rw [routing] at routes
      rw [opened, waiting, backend?, backends_dropClient, routes]
      rfl
    · rw [opened] at missing
      simp [Exchange.relay?] at missing

theorem fresh_of (settings : Settings) (actions : List Action) : (of settings actions).Fresh := by
  refine induction settings ⟨fun _ _ => rfl, fun _ => rfl, fun _ => rfl⟩
    (fun earlier action fresh => ?_) actions
  constructor
  case made =>
    intro key missing backend
    rw [made_take, fresh.made (relay?_of_missing missing)]
    split
    · next author => exact arrivals_of_missing missing author backend
    · rfl
  case given =>
    intro key missing
    have before := relay?_of_missing missing
    rw [given_take, fresh.given before]
    simp only [Moment.given, Exchange.phase?, before, Option.map_none]
  case handed =>
    intro client missing
    have before : (of settings earlier).exchange.board.client? client = none := by
      refine Option.eq_none_iff_forall_ne_some.2 fun entry found => ?_
      obtain ⟨later, foundLater, -⟩ :=
        ((of settings earlier).exchange.onward_perform action).client found
      exact Option.some_ne_none later (foundLater.symm.trans missing)
    have nothing : Moment.handedOver ⟨(of settings earlier).exchange, action⟩ client = [] :=
      handedOver_of_start (outbound?_of_missing before)
    rw [handed_take, fresh.handed before, nothing]
    rfl

theorem begins {action : Action} (orderly : course.Orderly) (fresh : course.Fresh)
    (missing : course.exchange.relay? key = none)
    (present : (course.take action).exchange.relay? key = some relay) :
    ∃ client, (course.take action).Story key relay client [] false := by
  obtain ⟨hub, context, routed, rfl, place, pending, routing, asked, board⟩ :=
    opens_of_new missing present
  obtain ⟨new, backends, ⟨entry, clients, named, seen, -, outbound⟩, -⟩ :=
    orderly.sound.route_ok routing
  have added : routed.client? relay.connection.client = some entry := by
    rw [client?, clients, new]
    exact List.getElem?_concat_length
  have question : Event.connect hub (Exchange.routedId routed relay.connection.client) context =
      entry.question := by
    rw [Exchange.routedId, added, Client.question, named, seen]
    rfl
  rw [question] at asked board
  have tells := Tells.enqueue added asked
  rw [← board] at tells
  -- the queues were left alone until the backend was asked
  have kept (backend : BackendKey) :
      routed.waiting backend = course.exchange.board.waiting backend := by
    rw [waiting, waiting, backend?, backend?, backends]
  have own : Moment.author ⟨course.exchange, .openRelay hub context⟩ = some key :=
    congrArg some place.symm
  refine ⟨entry, present, tells.found, ?_, ?_, ?_, Bool.noConfusion, ?_⟩
  · refine ⟨⟨course.exchange, .openRelay hub context⟩,
      List.mem_append_right _ (List.mem_singleton_self _), ?_, place.symm, ?_⟩
    · rw [named, seen]
    · rw [named, seen, routing]
  · have arrivals : Moment.arrivals ⟨course.exchange, .openRelay hub context⟩
        relay.connection.backend = [entry.question] :=
      arrivals_of_append (kept _ ▸ tells.queue)
    rw [made_take, fresh.made missing, if_pos own, arrivals]
    rfl
  · intro backend far
    have arrivals : Moment.arrivals ⟨course.exchange, .openRelay hub context⟩ backend = [] :=
      arrivals_of_same ((tells.others backend far).trans (kept backend))
    rw [made_take, fresh.made missing, if_pos own, arrivals]
    rfl
  · have absent : course.exchange.board.client? relay.connection.client = none := by
      rw [client?, new]
      exact List.getElem?_eq_none (Nat.le_refl _)
    have nothing : Moment.handedOver ⟨course.exchange, .openRelay hub context⟩
        relay.connection.client = [] :=
      handedOver_of_start (outbound?_of_missing absent)
    rw [pending]
    refine ⟨rfl, outbound, ?_⟩
    rw [handed_take, fresh.handed absent, nothing]
    rfl

/-- Every relay along every course has a story. -/
theorem story_of (settings : Settings) (actions : List Action) {key : RelayKey} {relay : Relay}
    (present : (of settings actions).exchange.relay? key = some relay) :
    ∃ client said left, (of settings actions).Story key relay client said left := by
  refine induction (motive := fun course => ∀ relay, course.exchange.relay? key = some relay →
    ∃ client said left, course.Story key relay client said left) settings ?_
    (fun earlier action known relay present => ?_) actions relay present
  · intro relay present
    simp [start, Exchange.start, Exchange.relay?] at present
  · cases before : (of settings earlier).exchange.relay? key with
    | none =>
      obtain ⟨client, story⟩ :=
        begins (orderly_of settings earlier) (fresh_of settings earlier) before present
      exact ⟨client, [], false, story⟩
    | some entry =>
      obtain ⟨client, said, left, story⟩ := known entry before
      by_cases own : ∃ deed, action = .relay key deed
      · obtain ⟨deed, rfl⟩ := own
        obtain ⟨next, goesOn, saidThen, leftThen, later⟩ := story.own deed
        obtain rfl : relay = { entry with phase := next } :=
          Option.some.inj (present.symm.trans later.present)
        exact ⟨goesOn, saidThen, leftThen, later⟩
      · obtain ⟨goesOn, later⟩ :=
          story.others (orderly_of settings earlier) fun deed same => own ⟨deed, same⟩
        obtain rfl : relay = entry := Option.some.inj (present.symm.trans later.present)
        exact ⟨goesOn, said, left, later⟩

/-- A client is let in, says something, is shown an answer and leaves. -/
def greeting : List Action :=
  [.request (.register "chat" "bot" ["connect"]), .openRelay "chat" .empty, .relay 0 .await,
    .request (.decide 0 (.approve none)), .relay 0 .settle,
    .relay 0 (.run ⟨[.frame (.start .text [104, 105] true)], true⟩ none (.io "gone")),
    .relay 0 (.step .inbound), .request (.send 0 (.text "hello")), .relay 0 (.step .outbound),
    .relay 0 (.step .inbound), .relay 0 .finish]

example : ((of .standard greeting).made 0 0).map (fun event => (event.kind, event.payload)) =
    [(.connect, none), (.user, some (.text "hi")), (.disconnect, none)] := by
  decide

end Course

end HubRelay
