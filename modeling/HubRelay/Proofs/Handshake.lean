import HubRelay.Handshake

/-!
Contract: one call on a handshake.

Owns: what one acknowledgement and one look of a waiter do in each situation, and that neither
leaves a resolved state again.

Does not own: whose handshake it is, what comes of many calls as time passes, and when waiters are
woken.

Nobody resolves a handshake when its deadline comes.  So all statements are about calls, which may
come at any times and in any order, and the one fact that carries over from call to call is that a
resolved state is never left.
-/

namespace HubRelay

namespace HandshakeState

theorem answer?_eq_none_iff (state : HandshakeState) :
    state.answer? = none ↔ state.isPending = true := by
  cases state <;> simp [answer?, isPending]

theorem isPending_of_answer? {state : HandshakeState}
    {answer : Except HandshakeError (Option String)} (told : state.answer? = some answer) :
    state.isPending = false := by
  cases state with
  | pending => simp [answer?] at told
  | approved subProtocol => rfl
  | rejected reason => rfl
  | timedOut => rfl

theorem isApproved_of_answer? {state : HandshakeState} {subProtocol : Option String}
    (told : state.answer? = some (.ok subProtocol)) : state.isApproved = true := by
  cases state with
  | approved subProtocol => rfl
  | pending | rejected _ | timedOut => simp [answer?] at told

theorem eq_of_isPending {state : HandshakeState} (pending : state.isPending = true) :
    state = .pending := by
  cases state with
  | pending => rfl
  | approved _ | rejected _ | timedOut => simp [isPending] at pending

theorem isPending_of_isApproved {state : HandshakeState} (approved : state.isApproved = true) :
    state.isPending = false := by
  cases state with
  | approved subProtocol => rfl
  | pending | rejected _ | timedOut => simp [isApproved] at approved

end HandshakeState

namespace Handshake

variable {handshake : Handshake}

/-! ## One acknowledgement -/

theorem resolved_of_pending (pending : handshake.state.isPending = true) :
    handshake.resolved = false := by
  rw [handshake.published, pending]
  rfl

theorem resolved_of_over (ended : handshake.state.isPending = false) :
    handshake.resolved = true := by
  rw [handshake.published, ended]
  rfl

theorem ne_pending_of_resolved (resolved : handshake.resolved = true) :
    handshake.state ≠ .pending := by
  intro pending
  rw [handshake.published, pending] at resolved
  contradiction

theorem acknowledge_of_over (now : Nat) (decision : Decision)
    (ended : handshake.state.isPending = false) :
    handshake.acknowledge now decision = (.error .alreadyResolved, handshake) := by
  unfold acknowledge
  rw [if_pos (resolved_of_over ended)]

/-- A decision that comes at the deadline or later makes a pending handshake time out. -/
theorem acknowledge_late {now : Nat} (decision : Decision)
    (pending : handshake.state.isPending = true) (late : handshake.deadline ≤ now) :
    (handshake.acknowledge now decision).1 = .error .deadlineElapsed ∧
      (handshake.acknowledge now decision).2.state = .timedOut := by
  have unresolved := resolved_of_pending pending
  simp [acknowledge, resolve, unresolved, late]

theorem acknowledge_inTime {now : Nat} (decision : Decision)
    (pending : handshake.state.isPending = true) (inTime : now < handshake.deadline) :
    (handshake.acknowledge now decision).1 = .ok () ∧
      (handshake.acknowledge now decision).2.state = .ofDecision decision := by
  have unresolved := resolved_of_pending pending
  have early : ¬ handshake.deadline ≤ now := by omega
  simp [acknowledge, resolve, unresolved, early]

/-- A decision is taken exactly by a pending handshake before its deadline. -/
theorem acknowledge_eq_ok_iff (now : Nat) (decision : Decision) :
    (handshake.acknowledge now decision).1 = .ok () ↔
      handshake.state.isPending = true ∧ now < handshake.deadline := by
  cases pending : handshake.state.isPending with
  | false => simp [acknowledge_of_over now decision pending]
  | true =>
    by_cases late : handshake.deadline ≤ now
    · rw [(acknowledge_late decision pending late).1]
      simp [Nat.not_lt.2 late]
    · have inTime : now < handshake.deadline := by omega
      simp [(acknowledge_inTime decision pending inTime).1, inTime]

theorem deadline_acknowledge (now : Nat) (decision : Decision) :
    (handshake.acknowledge now decision).2.deadline = handshake.deadline := by
  cases pending : handshake.state.isPending with
  | false => rw [acknowledge_of_over now decision pending]
  | true =>
    have unresolved := resolved_of_pending pending
    by_cases late : handshake.deadline ≤ now <;> simp [acknowledge, resolve, unresolved, late]

theorem state_acknowledge_of_over (now : Nat) (decision : Decision)
    (ended : handshake.state.isPending = false) :
    (handshake.acknowledge now decision).2.state = handshake.state := by
  rw [acknowledge_of_over now decision ended]

/-! ## One look of a waiter -/

theorem poll_of_over (now : Nat) (ended : handshake.state.isPending = false) :
    handshake.poll now = (handshake.state.answer?, handshake) := by
  unfold poll
  cases told : handshake.state.answer? with
  | some answer => rfl
  | none =>
    rw [(HandshakeState.answer?_eq_none_iff _).1 told] at ended
    contradiction

theorem poll_late {now : Nat} (pending : handshake.state.isPending = true)
    (late : handshake.deadline ≤ now) :
    (handshake.poll now).1 = some (.error .timedOut) ∧
      (handshake.poll now).2.state = .timedOut := by
  have silent := (HandshakeState.answer?_eq_none_iff _).2 pending
  have unresolved := resolved_of_pending pending
  simp [poll, silent, resolve, unresolved, late]

theorem poll_early {now : Nat} (pending : handshake.state.isPending = true)
    (early : now < handshake.deadline) : handshake.poll now = (none, handshake) := by
  have silent := (HandshakeState.answer?_eq_none_iff _).2 pending
  unfold poll
  rw [silent]
  exact if_neg (by omega)

theorem deadline_poll (now : Nat) :
    (handshake.poll now).2.deadline = handshake.deadline := by
  cases pending : handshake.state.isPending with
  | false => rw [poll_of_over now pending]
  | true =>
    by_cases late : handshake.deadline ≤ now
    · have silent := (HandshakeState.answer?_eq_none_iff _).2 pending
      simp [poll, silent, resolve, resolved_of_pending pending, late]
    · rw [poll_early pending (by omega)]

/-- A waiter is always told what the state dictates after it looked. -/
theorem poll_eq_answer? (now : Nat) :
    (handshake.poll now).1 = (handshake.poll now).2.state.answer? := by
  cases pending : handshake.state.isPending with
  | false => rw [poll_of_over now pending]
  | true =>
    by_cases late : handshake.deadline ≤ now
    · rw [(poll_late pending late).1, (poll_late pending late).2]
      rfl
    · rw [poll_early pending (by omega)]
      exact ((HandshakeState.answer?_eq_none_iff _).2 pending).symm

theorem state_poll_of_over (now : Nat) (ended : handshake.state.isPending = false) :
    (handshake.poll now).2.state = handshake.state := by
  rw [poll_of_over now ended]

/-- No waiter approves anything. -/
theorem isApproved_of_poll {now : Nat}
    (approved : (handshake.poll now).2.state.isApproved = true) :
    handshake.state.isApproved = true := by
  cases pending : handshake.state.isPending with
  | false => rwa [poll_of_over now pending] at approved
  | true =>
    by_cases late : handshake.deadline ≤ now
    · rw [(poll_late pending late).2] at approved
      contradiction
    · rwa [poll_early pending (by omega)] at approved

end Handshake

end HubRelay
