import HubRelay.Proofs.Exchange.Hubs
import HubRelay.Proofs.Switchboard.Naming

/-!
Contract: what an acknowledgement is answered along every course, and what it changes.

Owns: that each answer goes with one situation of the hub, of the client and of its handshake; and
that nothing but this handshake is changed, and it only where the answer says so.

Does not own: what the books say about hubs and clients.

Of the four refusals only the one for a decision that comes too late changes anything: nobody else
looked at the clock before, so it is this decision that lets the handshake time out.
-/

namespace HubRelay

namespace Switchboard

variable {board : Switchboard} {hub : String} {approval : Approval}
  {result : Except AcknowledgeError Unit × Switchboard}

/-- An id names a client whose handshake is in some situation. -/
def NamedWith (board : Switchboard) (hub id : String) (situation : Handshake → Prop) : Prop :=
  ∃ key client, board.named? hub id = some key ∧ board.client? key = some client ∧
    situation client.handshake

theorem namedWith_iff {id : String} {key : ClientKey} {client : Client}
    (named : board.named? hub id = some key) (found : board.client? key = some client)
    (situation : Handshake → Prop) :
    board.NamedWith hub id situation ↔ situation client.handshake := by
  constructor
  · rintro ⟨other, same, namedOther, foundSame, holds⟩
    obtain rfl : key = other := Option.some.inj (named.symm.trans namedOther)
    obtain rfl : client = same := Option.some.inj (found.symm.trans foundSame)
    exact holds
  · intro holds
    exact ⟨key, client, named, found, holds⟩

theorem not_namedWith {id : String} (unnamed : board.named? hub id = none)
    (situation : Handshake → Prop) : ¬ board.NamedWith hub id situation := by
  rintro ⟨key, -, named, -⟩
  rw [unnamed] at named
  contradiction

theorem hub?_ne_none_of_named {id : String} {key : ClientKey}
    (named : board.named? hub id = some key) : board.hub? hub ≠ none := by
  intro absent
  rw [named?_of_absent absent] at named
  contradiction

/-! ## One situation for each answer -/

namespace Acknowledged

theorem unknownHub_iff (met : Acknowledged board hub approval result) :
    result.1 = .error .unknownHub ↔ board.hub? hub = none := by
  cases met with
  | absent absent => simp only [absent]
  | unnamed known => simp [known]
  | resolved named | late named | inTime named => simp [hub?_ne_none_of_named named]

theorem unknownConnection_iff (met : Acknowledged board hub approval result) :
    result.1 = .error .unknownConnection ↔
      board.hub? hub ≠ none ∧ board.named? hub approval.connectionId = none := by
  cases met with
  | absent absent => simp [absent]
  | unnamed known unnamed => simp [known, unnamed]
  | resolved named | late named | inTime named => simp [named]

theorem alreadyResolved_iff (met : Acknowledged board hub approval result) :
    result.1 = .error .alreadyResolved ↔
      board.NamedWith hub approval.connectionId fun handshake => handshake.resolved = true := by
  cases met with
  | absent absent => simp [not_namedWith (named?_of_absent absent _)]
  | unnamed _ unnamed => simp [not_namedWith unnamed]
  | resolved named found resolved => simp [namedWith_iff named found, resolved]
  | late named found pending | inTime named found pending =>
    have unresolved := Handshake.resolved_of_pending (congrArg HandshakeState.isPending pending)
    simp [namedWith_iff named found, unresolved]

theorem deadlineElapsed_iff (met : Acknowledged board hub approval result) :
    result.1 = .error .deadlineElapsed ↔
      board.NamedWith hub approval.connectionId fun handshake =>
        handshake.state = .pending ∧ handshake.deadline ≤ board.now := by
  cases met with
  | absent absent => simp [not_namedWith (named?_of_absent absent _)]
  | unnamed _ unnamed => simp [not_namedWith unnamed]
  | resolved named found resolved =>
    rw [namedWith_iff named found]
    simp [Handshake.ne_pending_of_resolved resolved]
  | late named found pending late => simp [namedWith_iff named found, pending, late]
  | inTime named found pending inTime =>
    simp [namedWith_iff named found, Nat.not_le.2 inTime]

theorem ok_iff (met : Acknowledged board hub approval result) :
    result.1 = .ok () ↔
      board.NamedWith hub approval.connectionId fun handshake =>
        handshake.state = .pending ∧ board.now < handshake.deadline := by
  cases met with
  | absent absent => simp [not_namedWith (named?_of_absent absent _)]
  | unnamed _ unnamed => simp [not_namedWith unnamed]
  | resolved named found resolved =>
    rw [namedWith_iff named found]
    simp [Handshake.ne_pending_of_resolved resolved]
  | late named found pending late => simp [namedWith_iff named found, Nat.not_lt.2 late]
  | inTime named found pending inTime => simp [namedWith_iff named found, pending, inTime]

/-! ## What goes with each answer -/

variable {key : ClientKey} {client : Client}

theorem applied (met : Acknowledged board hub approval result) (accepted : result.1 = .ok ())
    (named : board.named? hub approval.connectionId = some key)
    (found : board.client? key = some client) :
    ∃ handshake : Handshake, result.2 = board.setHandshake key handshake ∧
      handshake.deadline = client.handshake.deadline ∧
      handshake.state = .ofDecision approval.decision := by
  cases met with
  | absent | unnamed | resolved | late => simp at accepted
  | inTime namedOther foundSame _ _ deadline state =>
    obtain rfl := Option.some.inj (named.symm.trans namedOther)
    obtain rfl := Option.some.inj (found.symm.trans foundSame)
    exact ⟨_, rfl, deadline, state⟩

theorem expired (met : Acknowledged board hub approval result)
    (elapsed : result.1 = .error .deadlineElapsed)
    (named : board.named? hub approval.connectionId = some key)
    (found : board.client? key = some client) :
    ∃ handshake : Handshake, result.2 = board.setHandshake key handshake ∧
      handshake.deadline = client.handshake.deadline ∧ handshake.state = .timedOut := by
  cases met with
  | absent | unnamed | resolved | inTime => simp at elapsed
  | late namedOther foundSame _ _ deadline state =>
    obtain rfl := Option.some.inj (named.symm.trans namedOther)
    obtain rfl := Option.some.inj (found.symm.trans foundSame)
    exact ⟨_, rfl, deadline, state⟩

theorem unchanged (met : Acknowledged board hub approval result) (notOk : result.1 ≠ .ok ())
    (notLate : result.1 ≠ .error .deadlineElapsed) : result.2 = board := by
  cases met with
  | absent | unnamed | resolved => rfl
  | late => exact absurd rfl notLate
  | inTime => exact absurd rfl notOk

end Acknowledged

end Switchboard

/-! ## Along every course -/

namespace Course

/-- Somebody holds a client of a hub, whose id it is. -/
structure Lives (course : Course) (hub id : String) (key : ClientKey) (client : Client) :
    Prop where
  held : key ∈ course.holdings.clients
  found : course.exchange.board.client? key = some client
  inHub : client.hub = hub
  called : client.id = id

/-- What an acknowledgement is answered after a course, and what it changes. -/
structure Classifies (course : Course) (hub : String) (approval : Approval)
    (answer : Except AcknowledgeError Unit) (later : Switchboard) : Prop where
  /-- A hub is unknown that nobody is in, and in which no registration broke off. -/
  unknownHub : answer = .error .unknownHub ↔ ¬ (course.Peopled hub ∨ hub ∈ course.stranded)
  /-- No registration breaks off if the settings allow for backends. -/
  admitted : course.exchange.board.settings.Admits → course.stranded = []
  /-- An id is unknown that no client of the hub has which somebody holds, be it that nobody ever
  had it, that its client was let go, or that its client is in another hub. -/
  unknownConnection : answer = .error .unknownConnection ↔
    (course.Peopled hub ∨ hub ∈ course.stranded) ∧
      ¬ ∃ key client, course.Lives hub approval.connectionId key client
  alreadyResolved : answer = .error .alreadyResolved ↔
    ∃ key client, course.Lives hub approval.connectionId key client ∧
      client.handshake.resolved = true
  deadlineElapsed : answer = .error .deadlineElapsed ↔
    ∃ key client, course.Lives hub approval.connectionId key client ∧
      client.handshake.state = .pending ∧ client.handshake.deadline ≤ course.exchange.board.now
  accepted : answer = .ok () ↔
    ∃ key client, course.Lives hub approval.connectionId key client ∧
      client.handshake.state = .pending ∧ course.exchange.board.now < client.handshake.deadline
  /-- No two clients are meant. -/
  alone : ∀ key client other same, course.Lives hub approval.connectionId key client →
    course.Lives hub approval.connectionId other same → other = key ∧ same = client
  /-- An accepted decision changes the handshake of the client that is meant, to what was decided,
  and nothing else. -/
  applied : answer = .ok () → ∀ key client,
    course.Lives hub approval.connectionId key client →
      ∃ handshake : Handshake, later = course.exchange.board.setHandshake key handshake ∧
        handshake.deadline = client.handshake.deadline ∧
        handshake.state = .ofDecision approval.decision
  /-- A decision that comes too late lets the handshake time out, and changes nothing else. -/
  expired : answer = .error .deadlineElapsed → ∀ key client,
    course.Lives hub approval.connectionId key client →
      ∃ handshake : Handshake, later = course.exchange.board.setHandshake key handshake ∧
        handshake.deadline = client.handshake.deadline ∧ handshake.state = .timedOut
  /-- After every other answer all is as it was. -/
  unchanged : answer ≠ .ok () → answer ≠ .error .deadlineElapsed →
    later = course.exchange.board
  /-- Whoever does not ask for the answer changes the same. -/
  quiet : (course.take (.request (.acknowledge hub approval))).exchange =
    { course.exchange with board := later }

variable {course : Course} {hub id : String} {key : ClientKey} {client : Client}

theorem Orderly.lives_iff (orderly : course.Orderly) :
    course.Lives hub id key client ↔
      course.exchange.board.named? hub id = some key ∧
        course.exchange.board.client? key = some client := by
  rw [orderly.sound.named?_eq_some_iff, Holdings.holds, List.contains_iff_mem]
  constructor
  · intro lives
    exact ⟨⟨lives.held, client, lives.found, lives.inHub, lives.called⟩, lives.found⟩
  · rintro ⟨⟨held, same, there, inHub, called⟩, found⟩
    obtain rfl : client = same := Option.some.inj (found.symm.trans there)
    exact ⟨held, found, inHub, called⟩

/-- An id names nobody that no client has which somebody holds. -/
theorem Orderly.named?_eq_none_iff (orderly : course.Orderly) :
    course.exchange.board.named? hub id = none ↔
      ¬ ∃ key client, course.Lives hub id key client := by
  constructor
  · rintro unnamed ⟨key, client, lives⟩
    rw [(orderly.lives_iff.1 lives).1] at unnamed
    contradiction
  · intro nobody
    rw [Option.eq_none_iff_forall_ne_some]
    intro key named
    obtain ⟨-, client, found, -⟩ := orderly.sound.named?_eq_some_iff.1 named
    exact nobody ⟨key, client, orderly.lives_iff.2 ⟨named, found⟩⟩

theorem Orderly.namedWith_iff (orderly : course.Orderly) (situation : Handshake → Prop) :
    course.exchange.board.NamedWith hub id situation ↔
      ∃ key client, course.Lives hub id key client ∧ situation client.handshake := by
  simp only [Switchboard.NamedWith, orderly.lives_iff, and_assoc]

variable (settings : Settings) (actions : List Action)

theorem hub?_ne_none_iff (hub : String) : (of settings actions).exchange.board.hub? hub ≠ none ↔
    (of settings actions).Peopled hub ∨ hub ∈ (of settings actions).stranded := by
  rw [← named_iff, Switchboard.hubNames, Dictionary.mem_names_iff, Option.ne_none_iff_exists']
  rfl

/-- Along every course each answer to an acknowledgement goes with one situation, and what the
acknowledgement changes is told by the answer. -/
theorem acknowledgements_classified (hub : String) (approval : Approval) :
    (of settings actions).Classifies hub approval
      ((of settings actions).exchange.board.tryAcknowledge hub approval).1
      ((of settings actions).exchange.board.tryAcknowledge hub approval).2 := by
  have orderly := orderly_of settings actions
  have met := (of settings actions).exchange.board.acknowledged_tryAcknowledge hub approval
  constructor
  case unknownHub =>
    rw [← hub?_ne_none_iff, not_not]
    exact met.unknownHub_iff
  case admitted =>
    rw [settings_of]
    exact stranded_of_admits actions
  case unknownConnection =>
    rw [← hub?_ne_none_iff, ← orderly.named?_eq_none_iff]
    exact met.unknownConnection_iff
  case alreadyResolved => exact met.alreadyResolved_iff.trans (orderly.namedWith_iff _)
  case deadlineElapsed => exact met.deadlineElapsed_iff.trans (orderly.namedWith_iff _)
  case accepted => exact met.ok_iff.trans (orderly.namedWith_iff _)
  case alone =>
    intro key client other same lives livesSame
    obtain ⟨named, found⟩ := orderly.lives_iff.1 lives
    obtain ⟨namedSame, foundSame⟩ := orderly.lives_iff.1 livesSame
    obtain rfl : other = key := Option.some.inj (namedSame.symm.trans named)
    exact ⟨rfl, Option.some.inj (foundSame.symm.trans found)⟩
  case applied =>
    intro accepted key client lives
    obtain ⟨named, found⟩ := orderly.lives_iff.1 lives
    exact met.applied accepted named found
  case expired =>
    intro elapsed key client lives
    obtain ⟨named, found⟩ := orderly.lives_iff.1 lives
    exact met.expired elapsed named found
  case unchanged => exact met.unchanged
  case quiet => rfl

/-- A hub in which a registration broke off is known to an acknowledgement, though nobody is in
it. -/
theorem stranded_hub_known :
    ¬ ∀ (settings : Settings) (actions : List Action) (hub : String) (approval : Approval),
      ((of settings actions).exchange.board.tryAcknowledge hub approval).1 = .error .unknownHub ↔
        ¬ (of settings actions).Peopled hub := by
  intro always
  let registering : List Action := [.request (.register "chat" "bot" [connectEvent])]
  have refuses : ¬ Settings.oversized.Admits := by decide
  have barren := (deserted_of_not_admits registering refuses).barren
  have unknown := (always .oversized registering "chat" ⟨"x", .approve none⟩).2
    ((orderly_of .oversized registering).not_peopled barren "chat")
  revert unknown
  decide

end Course

end HubRelay
