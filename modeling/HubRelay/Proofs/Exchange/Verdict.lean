import HubRelay.Proofs.Exchange.Story
import HubRelay.Proofs.Exchange.Undecided
import HubRelay.Proofs.Switchboard.Naming

/-!
Contract: how the handshake of every client came to be as it is.

Owns: the decisions that were applied to a client, from what happened alone; that the state of its
handshake is what they make of it; and what the phase of a relay says about this state.

Does not own: who waits for a handshake.

All that resolves a handshake is a decision that somebody sends and a look that comes at the
deadline or later.  So of all that can happen only these have to be looked at.
-/

namespace HubRelay

open Switchboard

/-! ## How one handshake goes on -/

namespace Handshake

/-- How a handshake goes on by one thing that happens at a time: it stays, or a decision that comes
in time is applied, or it times out. -/
inductive Goes (now : Nat) (before : Handshake) : Option Decision → Handshake → Prop where
  | stays {after : Handshake} (same : after.state = before.state) : Goes now before none after
  | decided {decision : Decision} {after : Handshake} (pending : before.state = .pending)
      (inTime : now < before.deadline) (state : after.state = .ofDecision decision) :
      Goes now before (some decision) after
  | expires {after : Handshake} (pending : before.state = .pending)
      (late : before.deadline ≤ now) (state : after.state = .timedOut) : Goes now before none after

variable {handshake : Handshake}

theorem goes_acknowledge (now : Nat) (decision : Decision) :
    Goes now handshake
      (if (handshake.acknowledge now decision).1 = .ok () then some decision else none)
      (handshake.acknowledge now decision).2 := by
  cases pending : handshake.state.isPending with
  | false =>
    rw [acknowledge_of_over now decision pending]
    exact .stays rfl
  | true =>
    have waits := HandshakeState.eq_of_isPending pending
    by_cases late : handshake.deadline ≤ now
    · obtain ⟨answered, state⟩ := acknowledge_late decision pending late
      rw [answered]
      exact .expires waits late state
    · have inTime : now < handshake.deadline := by omega
      obtain ⟨answered, state⟩ := acknowledge_inTime decision pending inTime
      rw [answered]
      exact .decided waits inTime state

theorem goes_poll (now : Nat) : Goes now handshake none (handshake.poll now).2 := by
  cases pending : handshake.state.isPending with
  | false =>
    rw [poll_of_over now pending]
    exact .stays rfl
  | true =>
    by_cases late : handshake.deadline ≤ now
    · exact .expires (HandshakeState.eq_of_isPending pending) late (poll_late pending late).2
    · rw [poll_early pending (by omega)]
      exact .stays rfl

end Handshake

namespace Switchboard

/-- What one thing that happens does to handshakes, given which decision it applies to whom: it
leaves them alone, or one of them goes on. -/
inductive Affects (before : Switchboard) (decided : ClientKey → Option Decision)
    (after : Switchboard) : Prop where
  | nobody (undecided : Undecided before after) (none : ∀ key, decided key = none)
  | somebody {key : ClientKey} {client : Client} {handshake : Handshake}
      (found : before.client? key = some client)
      (goes : client.handshake.Goes before.now (decided key) handshake)
      (rest : Undecided (before.setHandshake key handshake) after)
      (others : ∀ other ≠ key, decided other = none)

variable {before after : Switchboard} {decided : ClientKey → Option Decision} {key : ClientKey}
  {client : Client}

theorem Undecided.client? (undecided : Undecided before after)
    (found : before.client? key = some client) :
    ∃ later, after.client? key = some later ∧ later.handshake = client.handshake := by
  have row : (before.clients.map (·.handshake))[key]? = some client.handshake := by
    rw [List.getElem?_map]
    exact congrArg (Option.map _) found
  have there := undecided.handshakes.getElem? row
  rw [List.getElem?_map] at there
  exact Option.map_eq_some_iff.1 there

/-- Whoever comes has not been decided about. -/
theorem Undecided.pending_of_new (undecided : Undecided before after)
    (missing : before.client? key = none) (found : after.client? key = some client) :
    client.handshake.state = .pending := by
  obtain ⟨added, grown, fresh⟩ := undecided.handshakes
  have row : (after.clients.map (·.handshake))[key]? = some client.handshake := by
    rw [List.getElem?_map]
    exact congrArg (Option.map _) found
  have beyond : (before.clients.map (·.handshake)).length ≤ key := by
    rw [List.length_map]
    exact List.getElem?_eq_none_iff.1 missing
  rw [grown, List.getElem?_append_right beyond] at row
  exact fresh _ (List.mem_of_getElem? row)

theorem client?_setHandshake_self (found : before.client? key = some client)
    (handshake : Handshake) : (before.setHandshake key handshake).client? key =
      some { client with handshake := handshake } := by
  rw [setHandshake, client?_updateClient_self, found]
  rfl

theorem client?_setHandshake_ne (board : Switchboard) {other : ClientKey} (handshake : Handshake)
    (different : other ≠ key) :
    (board.setHandshake other handshake).client? key = board.client? key :=
  client?_updateClient_ne board _ different

namespace Affects

theorem now (affects : Affects before decided after) : before.now ≤ after.now := by
  cases affects with
  | nobody undecided => exact undecided.now
  | somebody _ _ rest => exact rest.now

/-- How the handshake of a client goes on. -/
theorem goes (affects : Affects before decided after) (found : before.client? key = some client) :
    ∃ later, after.client? key = some later ∧
      client.handshake.Goes before.now (decided key) later.handshake := by
  cases affects with
  | nobody undecided none =>
    obtain ⟨later, here, same⟩ := undecided.client? found
    exact ⟨later, here, none key ▸ .stays (congrArg _ same)⟩
  | @somebody other entry handshake here goes rest others =>
    by_cases same : other = key
    · subst same
      obtain rfl : client = entry := Option.some.inj (found.symm.trans here)
      obtain ⟨later, there, kept⟩ := rest.client? (client?_setHandshake_self found handshake)
      exact ⟨later, there, kept ▸ goes⟩
    · have stays := (client?_setHandshake_ne before handshake same).trans found
      obtain ⟨later, there, kept⟩ := rest.client? stays
      exact ⟨later, there, others key (Ne.symm same) ▸ .stays (congrArg _ kept)⟩

/-- Whoever comes has not been decided about. -/
theorem pending_of_new (affects : Affects before decided after)
    (missing : before.client? key = none) (found : after.client? key = some client) :
    client.handshake.state = .pending := by
  cases affects with
  | nobody undecided => exact undecided.pending_of_new missing found
  | @somebody other entry handshake here _ rest =>
    have different : other ≠ key := by
      rintro rfl
      rw [missing] at here
      contradiction
    have stays := (client?_setHandshake_ne before handshake different).trans missing
    exact rest.pending_of_new stays found

/-- A decision is applied to somebody who is there, has not been decided about, and whose deadline
has not come. -/
theorem inTime (affects : Affects before decided after) {decision : Decision}
    (applied : decided key = some decision) :
    ∃ client, before.client? key = some client ∧ client.handshake.state = .pending ∧
      before.now < client.handshake.deadline := by
  cases affects with
  | nobody _ none =>
    rw [none key] at applied
    contradiction
  | @somebody other entry handshake here goes _ others =>
    by_cases same : key = other
    · subst same
      rw [applied] at goes
      cases goes with
      | decided pending inTime => exact ⟨entry, here, pending, inTime⟩
    · rw [others key same] at applied
      contradiction

end Affects

variable (board : Switchboard)

theorem affects_decide (other : ClientKey) (decision : Decision) :
    Affects board (fun key => if other = key ∧ (board.decide other decision).1 = .ok () then
      some decision else none) (board.decide other decision).2 := by
  cases found : board.client? other with
  | none =>
    have refused : board.decide other decision = (.error .unknownConnection, board) := by
      rw [decide, found]
    rw [refused]
    refine .nobody (.refl board) fun key => if_neg fun both => ?_
    cases both.2
  | some client =>
    have decides : board.decide other decision =
        ((client.handshake.acknowledge board.now decision).1,
          board.setHandshake other (client.handshake.acknowledge board.now decision).2) := by
      rw [decide, found]
    rw [decides]
    refine .somebody found ?_ (.refl _) fun key different => ?_
    · simp only [true_and]
      exact Handshake.goes_acknowledge board.now decision
    · exact if_neg fun both => different both.1.symm

theorem affects_acknowledge (hub : String) (approval : Approval) :
    Affects board (fun key => if board.named? hub approval.connectionId = some key ∧
      (board.tryAcknowledge hub approval).1 = .ok () then some approval.decision else none)
      (board.acknowledge hub approval) := by
  unfold acknowledge
  cases named : board.named? hub approval.connectionId with
  | none =>
    rw [tryAcknowledge_of_unnamed named]
    exact .nobody (.refl board) fun key => if_neg fun both => nomatch both.1
  | some other =>
    rw [tryAcknowledge_eq_decide named]
    simp only [Option.some.injEq]
    exact affects_decide board other approval.decision

theorem affects_lookAfter (other : ClientKey) :
    Affects board (fun _ => none) (board.lookAfter other) := by
  unfold lookAfter
  split
  · exact .nobody (.refl board) fun _ => rfl
  · next entry found =>
    split
    · exact .nobody (.refl board) fun _ => rfl
    · exact .somebody found (Handshake.goes_poll board.now) (.refl _) fun _ _ => rfl

end Switchboard

/-! ## What happens to handshakes -/

namespace Moment

/-- The decision that is applied to a client by one thing that happens, if one is. -/
def decided? (moment : Moment) (client : ClientKey) : Option Decision :=
  match moment.action with
  | .request (.decide key decision) =>
    if key = client ∧ (moment.before.board.decide key decision).1 = .ok () then some decision
    else none
  | .request (.acknowledge hub approval) =>
    if moment.before.board.named? hub approval.connectionId = some client ∧
        (moment.before.board.tryAcknowledge hub approval).1 = .ok () then some approval.decision
    else none
  | _ => none

end Moment

namespace Exchange

variable (exchange : Exchange)

theorem undecided_openRelay (hub : String) (context : Context) :
    Undecided exchange.board (exchange.perform (.openRelay hub context)).board := by
  have routes := undecided_route exchange.board hub context connectEvent
  rcases exchange.openRelay_cases hub context with
    ⟨error, later, refused, opened⟩ | ⟨backend, client, routed, routing, answer⟩
  · rw [refused] at routes
    rw [opened]
    exact routes
  · rw [routing] at routes
    rcases answer with ⟨error, -, opened⟩ | ⟨-, opened⟩
    · rw [opened]
      exact routes.trans (undecided_dropClient routed client)
    · rw [opened]
      exact routes.trans (undecided_enqueue routed backend _)

theorem affects_settle (relay : Relay) :
    Affects exchange.board (fun _ => none) (relay.settle exchange.board).1 := by
  unfold Relay.settle
  split
  · exact .nobody (.refl _) fun _ => rfl
  · next client found =>
    have looked : client.handshake.Goes exchange.board.now none
        (client.handshake.poll exchange.board.now).2 := Handshake.goes_poll exchange.board.now
    simp only
    split
    · exact .nobody (.refl _) fun _ => rfl
    · exact .somebody found looked (.refl _) fun _ _ => rfl
    · exact .somebody found looked (undecided_dropClient _ _) fun _ _ => rfl

theorem affects_act (relay : Relay) (action : RelayAction) :
    Affects exchange.board (fun _ => none) (relay.act exchange.board action).1 := by
  obtain ⟨connection, phase⟩ := relay
  by_cases looks : action = .settle
  · subst looks
    cases phase with
    | awaiting => exact exchange.affects_settle _
    | _ => exact .nobody (.refl _) fun _ => rfl
  · exact .nobody (Relay.undecided_act exchange.board _ looks) fun _ => rfl

/-- Whatever happens leaves handshakes alone, or lets one of them go on. -/
theorem affects_perform (action : Action) :
    Affects exchange.board (Moment.decided? ⟨exchange, action⟩)
      (exchange.perform action).board := by
  cases action with
  | request request =>
    cases resolves : request.resolves with
    | false =>
      have none (key : ClientKey) : Moment.decided? ⟨exchange, .request request⟩ key = none := by
        cases request with
        | decide _ _ | acknowledge _ _ => contradiction
        | _ => rfl
      exact .nobody (undecided_perform exchange.board resolves) none
    | true =>
      cases request with
      | decide other decision => exact affects_decide exchange.board other decision
      | acknowledge hub approval => exact affects_acknowledge exchange.board hub approval
      | lookAfter other => exact affects_lookAfter exchange.board other
      | _ => contradiction
  | release other =>
    refine .nobody ?_ fun _ => rfl
    show Undecided exchange.board (exchange.release other).board
    unfold Exchange.release
    split
    · exact .refl _
    · exact undecided_dropClient exchange.board other
  | openRelay hub context =>
    exact .nobody (exchange.undecided_openRelay hub context) fun _ => rfl
  | relay other action =>
    show Affects exchange.board _ (exchange.performRelay other action).board
    cases present : exchange.relay? other with
    | none =>
      rw [performRelay_of_missing present]
      exact .nobody (.refl _) fun _ => rfl
    | some relay =>
      rw [performRelay_eq present]
      exact exchange.affects_act relay action

end Exchange

theorem Client.Onward.deadline_eq {client later : Client} (onward : client.Onward later) :
    later.handshake.deadline = client.handshake.deadline :=
  congrArg (·.handshake.deadline) onward.same

/-! ## Along every course -/

namespace Course

/-- The decisions that were applied to a client. -/
def decisions (course : Course) (client : ClientKey) : List Decision :=
  course.past.filterMap (·.decided? client)

/-- What the decisions that were applied make of a handshake: it is pending or has timed out if
there were none, and otherwise there was one, which it shows. -/
inductive Verdict (now : Nat) (handshake : Handshake) : List Decision → Prop where
  | pending (pending : handshake.state = .pending) : Verdict now handshake []
  | expired (late : handshake.deadline ≤ now) (state : handshake.state = .timedOut) :
      Verdict now handshake []
  | decided {decision : Decision} (state : handshake.state = .ofDecision decision) :
      Verdict now handshake [decision]

variable {course : Course} {key : ClientKey} {client later : Client}

theorem decisions_take (course : Course) (action : Action) (key : ClientKey) :
    (course.take action).decisions key = course.decisions key ++
      (Moment.decided? ⟨course.exchange, action⟩ key).toList := by
  rw [decisions, take, List.filterMap_append, decisions]
  cases decided : Moment.decided? ⟨course.exchange, action⟩ key <;> simp [decided]

theorem ofDecision_ne_pending (decision : Decision) :
    HandshakeState.ofDecision decision ≠ .pending := by
  cases decision <;> exact HandshakeState.noConfusion

/-- One thing that happens to a handshake keeps its verdict. -/
theorem Verdict.goes {now soon : Nat} {before after : Handshake} {decisions : List Decision}
    {decided : Option Decision} (verdict : Verdict now before decisions)
    (goes : before.Goes now decided after) (elapsed : now ≤ soon)
    (deadline : after.deadline = before.deadline) :
    Verdict soon after (decisions ++ decided.toList) := by
  cases goes with
  | stays same =>
    rw [Option.toList_none, List.append_nil]
    cases verdict with
    | pending pending => exact .pending (same.trans pending)
    | expired late state => exact .expired (by omega) (same.trans state)
    | decided state => exact .decided (same.trans state)
  | decided pending _ state =>
    cases verdict with
    | pending => exact .decided state
    | expired _ other =>
      rw [pending] at other
      contradiction
    | decided other => exact absurd (other.symm.trans pending) (ofDecision_ne_pending _)
  | expires pending late state =>
    rw [Option.toList_none, List.append_nil]
    cases verdict with
    | pending => exact .expired (by omega) state
    | expired => exact .expired (by omega) state
    | decided other => exact absurd (other.symm.trans pending) (ofDecision_ne_pending _)

theorem Verdict.mem_iff {now : Nat} {handshake : Handshake} {decisions : List Decision}
    {decision : Decision} (verdict : Verdict now handshake decisions) :
    decision ∈ decisions ↔ handshake.state = .ofDecision decision := by
  cases verdict with
  | pending pending =>
    rw [pending]
    exact iff_of_false List.not_mem_nil (Ne.symm (ofDecision_ne_pending decision))
  | expired _ state =>
    rw [state]
    exact iff_of_false List.not_mem_nil (by cases decision <;> exact HandshakeState.noConfusion)
  | @decided shown state =>
    rw [state, List.mem_singleton]
    constructor
    · rintro rfl
      rfl
    · intro same
      cases decision <;> cases shown <;> cases same <;> rfl

theorem Verdict.late {now : Nat} {handshake : Handshake} {decisions : List Decision}
    (verdict : Verdict now handshake decisions) (timedOut : handshake.state = .timedOut) :
    handshake.deadline ≤ now := by
  cases verdict with
  | pending pending =>
    rw [timedOut] at pending
    contradiction
  | expired late => exact late
  | @decided shown state =>
    rw [timedOut] at state
    cases shown <;> cases state

/-- A decision was applied to a client that had not been decided about, before its deadline. -/
def Applied (course : Course) (client : ClientKey) (decision : Decision) : Prop :=
  ∃ moment ∈ course.past, moment.decided? client = some decision ∧
    ∃ entry, moment.before.board.client? client = some entry ∧
      entry.handshake.state = .pending ∧ moment.before.board.now < entry.handshake.deadline

/-- What the decisions that were applied make of every handshake, and that nothing was applied to
somebody who never came. -/
structure Decided (course : Course) : Prop where
  verdict : ∀ {key client}, course.exchange.board.client? key = some client →
    Verdict course.exchange.board.now client.handshake (course.decisions key)
  missing : ∀ {key}, course.exchange.board.client? key = none → course.decisions key = []
  inTime : ∀ {key decision}, decision ∈ course.decisions key → course.Applied key decision

theorem Decided.take (decided : course.Decided) (action : Action) :
    (course.take action).Decided := by
  have affects := course.exchange.affects_perform action
  have onward := course.exchange.onward_perform action
  have untold (key : ClientKey) (missing : course.exchange.board.client? key = none) :
      (course.take action).decisions key = [] := by
    rw [decisions_take, decided.missing missing, List.nil_append]
    cases applied : Moment.decided? ⟨course.exchange, action⟩ key with
    | none => rfl
    | some decision =>
      obtain ⟨client, found, -⟩ := affects.inTime applied
      rw [missing] at found
      contradiction
  constructor
  case verdict =>
    intro key later found
    cases before : course.exchange.board.client? key with
    | none =>
      rw [untold key before]
      exact .pending (affects.pending_of_new before found)
    | some client =>
      obtain ⟨same, here, goes⟩ := affects.goes before
      obtain rfl : later = same := Option.some.inj (found.symm.trans here)
      obtain ⟨same, here, goesOn, -⟩ := onward.client before
      obtain rfl : later = same := Option.some.inj (found.symm.trans here)
      rw [decisions_take]
      exact (decided.verdict before).goes goes affects.now goesOn.deadline_eq
  case missing =>
    intro key missing
    refine untold key ?_
    cases before : course.exchange.board.client? key with
    | none => rfl
    | some client =>
      obtain ⟨same, here, -⟩ := onward.client before
      exact absurd (here.symm.trans missing) (Option.some_ne_none same)
  case inTime =>
    intro key decision among
    rw [decisions_take, List.mem_append] at among
    rcases among with earlier | now
    · obtain ⟨moment, happened, applied⟩ := decided.inTime earlier
      exact ⟨moment, List.mem_append_left _ happened, applied⟩
    · rw [Option.mem_toList] at now
      exact ⟨⟨course.exchange, action⟩, List.mem_append_right _ (List.mem_singleton_self _), now,
        affects.inTime now⟩

theorem decided_of (settings : Settings) (actions : List Action) :
    (of settings actions).Decided := by
  refine induction settings ?_ (fun earlier action known => known.take action) actions
  constructor
  case verdict =>
    intro key client found
    simp [start, Exchange.start, Switchboard.start, client?] at found
  case missing => exact fun _ => rfl
  case inTime => exact fun among => absurd among List.not_mem_nil

/-- A decision was applied exactly if it is what the handshake shows. -/
theorem Decided.applied_iff (decided : course.Decided) {decision : Decision}
    (found : course.exchange.board.client? key = some client) :
    course.Applied key decision ↔ client.handshake.state = .ofDecision decision := by
  have shows : decision ∈ course.decisions key ↔ client.handshake.state = .ofDecision decision :=
    (decided.verdict found).mem_iff
  constructor
  · rintro ⟨moment, happened, applied, -⟩
    exact shows.1 (List.mem_filterMap.2 ⟨moment, happened, applied⟩)
  · exact fun state => decided.inTime (shows.2 state)

/-- The deadline of whoever has timed out has come. -/
theorem Decided.late (decided : course.Decided)
    (found : course.exchange.board.client? key = some client)
    (timedOut : client.handshake.state = .timedOut) :
    client.handshake.deadline ≤ course.exchange.board.now :=
  (decided.verdict found).late timedOut

end Course

/-! ## What relays know about it -/

/-- What a relay was told about its handshake. -/
def RelayPhase.told? : RelayPhase → Option (Except HandshakeError (Option String))
  | .approved subProtocol => some (.ok subProtocol)
  | .refused error => some (.error error)
  | _ => none

namespace Relay

variable {board : Switchboard} {relay : Relay} {client : Client}
  {answer : Except HandshakeError (Option String)}

/-- Only a look at the handshake tells a relay anything, and that is what the handshake then
shows. -/
theorem told?_act (action : RelayAction)
    (told : (relay.act board action).2.told? = some answer) :
    relay.phase.told? = some answer ∨
      ∃ client, (relay.act board action).1.client? relay.connection.client = some client ∧
        client.handshake.state.answer? = some answer := by
  obtain ⟨connection, phase⟩ := relay
  cases action with
  | settle =>
    cases phase with
    | awaiting =>
      simp only [act, settle] at told ⊢
      cases found : board.client? connection.client with
      | none =>
        rw [found] at told
        contradiction
      | some client =>
        rw [found] at told
        have shows := client.handshake.poll_eq_answer? board.now
        have polled := Switchboard.client?_setHandshake_self found
          (client.handshake.poll board.now).2
        simp only at told ⊢
        cases looked : (client.handshake.poll board.now).1 with
        | none =>
          rw [looked] at told
          contradiction
        | some found =>
          rw [looked] at told shows
          refine Or.inr ?_
          cases found with
          | ok subProtocol =>
            cases told
            exact ⟨_, polled, shows.symm⟩
          | error error =>
            cases told
            obtain ⟨later, here, same⟩ :=
              (Switchboard.undecided_dropClient _ connection.client).client? polled
            exact ⟨later, here, same ▸ shows.symm⟩
    | _ => exact Or.inl told
  | step branch =>
    cases phase with
    | running loop =>
      simp only [act] at told
      cases stepped : Loop.step board connection loop branch with
      | none =>
        rw [stepped] at told
        contradiction
      | some result =>
        obtain ⟨later, outcome⟩ := result
        rw [stepped] at told
        cases outcome <;> contradiction
    | _ => exact Or.inl told
  | drop =>
    simp only [act] at told
    split at told
    · contradiction
    · exact Or.inl told
  | await | run _ _ _ | feed _ | endSource | finish =>
    cases phase <;> first | exact Or.inl told | contradiction

/-- A relay that looks at a handshake which is over, or whose deadline has come, is told. -/
theorem told?_settle {connection : Connection}
    (found : board.client? connection.client = some client)
    (due : client.handshake.state ≠ .pending ∨ client.handshake.deadline ≤ board.now) :
    (act board ⟨connection, .awaiting⟩ .settle).2.told? ≠ none := by
  have answers : (client.handshake.poll board.now).1 ≠ none := by
    cases pending : client.handshake.state.isPending with
    | false =>
      rw [Handshake.poll_of_over board.now pending, Ne, HandshakeState.answer?_eq_none_iff, pending]
      exact Bool.false_ne_true
    | true =>
      have late := due.resolve_left fun ended => ended (HandshakeState.eq_of_isPending pending)
      rw [(Handshake.poll_late pending late).1]
      exact Option.some_ne_none _
  simp only [act, settle, found]
  cases looked : (client.handshake.poll board.now).1 with
  | none => exact absurd looked answers
  | some answer => cases answer <;> exact Option.some_ne_none _

end Relay

namespace Course

/-- Whatever relays were told is what the handshakes of their clients show. -/
def Informed (course : Course) : Prop :=
  ∀ key relay answer, course.exchange.relay? key = some relay →
    relay.phase.told? = some answer →
      ∃ client, course.exchange.board.client? relay.connection.client = some client ∧
        client.handshake.state.answer? = some answer

variable {course : Course}

theorem Informed.take (informed : course.Informed) (action : Action) :
    (course.take action).Informed := by
  have onward := course.exchange.onward_perform action
  -- what a relay was told before still shows
  have still {relay : Relay} {answer : Except HandshakeError (Option String)}
      (before : ∃ client, course.exchange.board.client? relay.connection.client = some client ∧
        client.handshake.state.answer? = some answer) :
      ∃ client, (course.take action).exchange.board.client? relay.connection.client =
        some client ∧ client.handshake.state.answer? = some answer := by
    obtain ⟨client, found, shows⟩ := before
    obtain ⟨later, here, goesOn, -⟩ := onward.client found
    refine ⟨later, here, ?_⟩
    rw [goesOn.kept (HandshakeState.isPending_of_answer? shows)]
    exact shows
  intro key relay answer present told
  cases before : course.exchange.relay? key with
  | none =>
    obtain ⟨_, _, _, -, -, pending, -⟩ := opens_of_new before present
    rw [pending] at told
    contradiction
  | some entry =>
    by_cases own : ∃ deed, action = .relay key deed
    · obtain ⟨deed, rfl⟩ := own
      have acted := Exchange.relay?_performRelay_self before deed
      obtain rfl := Option.some.inj (acted.symm.trans present)
      have board : (course.take (.relay key deed)).exchange.board =
          (entry.act course.exchange.board deed).1 :=
        congrArg (·.board) (Exchange.performRelay_eq before deed)
      rcases entry.told?_act deed told with known | looked
      · have shown := informed key entry answer before known
        exact still shown
      · rw [board]
        exact looked
    · have far : ∀ deed, action ≠ .relay key deed := fun deed same => own ⟨deed, same⟩
      obtain rfl := Option.some.inj ((relay?_of_far before far).symm.trans present)
      exact still (informed _ _ _ before told)

theorem informed_of (settings : Settings) (actions : List Action) :
    (of settings actions).Informed := by
  refine induction settings ?_ (fun earlier action known => known.take action) actions
  intro key relay answer present
  simp [start, Exchange.start, Exchange.relay?] at present

end Course

end HubRelay
