import HubRelay.Envelope.Approval
import HubRelay.Refusal

/-!
Contract: the handshake of a client with a backend.

Owns: its states, the deadline, resolving and acknowledging a handshake, and waiting for it.

Does not own: whose handshake it is, and calls that come in the middle of others.

A handshake is resolved once: by the first decision that comes before the deadline, or as timed
out.  The deadline takes effect when somebody acknowledges or waits; nothing else looks at the
clock.
-/

namespace HubRelay

/-- How far a handshake has come. -/
inductive HandshakeState where
  | pending
  | approved (subProtocol : Option String)
  | rejected (reason : String)
  | timedOut
deriving DecidableEq, Repr

namespace HandshakeState

def ofDecision : Decision → HandshakeState
  | .approve subProtocol => .approved subProtocol
  | .reject reason => .rejected reason

def isPending : HandshakeState → Bool
  | .pending => true
  | _ => false

def isApproved : HandshakeState → Bool
  | .approved _ => true
  | _ => false

/-- What somebody who waits is told in a state; nothing while it is pending. -/
def answer? : HandshakeState → Option (Except HandshakeError (Option String))
  | .pending => none
  | .approved subProtocol => some (.ok subProtocol)
  | .rejected reason => some (.error (.rejected reason))
  | .timedOut => some (.error .timedOut)

end HandshakeState

/-- A handshake: its deadline, whether somebody has resolved it, and the state that shows. -/
structure Handshake where
  deadline : Nat
  resolved : Bool
  state : HandshakeState
  /-- Whoever resolves a handshake also publishes its state. -/
  published : resolved = !state.isPending
deriving DecidableEq, Repr

namespace Handshake

/-- A handshake that starts now and may take so long. -/
def start (now timeout : Nat) : Handshake :=
  ⟨now + timeout, false, .pending, rfl⟩

/-- Resolve a handshake, which only the first of several resolvers does; whether it was this one. -/
def resolve (handshake : Handshake) (state : HandshakeState) (ended : state.isPending = false) :
    Bool × Handshake :=
  if handshake.resolved then (false, handshake)
  else
    (true, { handshake with
      resolved := true
      state := state
      published := by rw [ended]; rfl })

/-- The state that a decision leads to is not pending. -/
theorem isPending_ofDecision (decision : Decision) :
    (HandshakeState.ofDecision decision).isPending = false := by
  cases decision <;> rfl

/-- Apply a decision.

It counts if the handshake is pending and the deadline has not been reached.  A decision that
comes later than that makes the handshake time out. -/
def acknowledge (handshake : Handshake) (now : Nat) (decision : Decision) :
    Except AcknowledgeError Unit × Handshake :=
  if handshake.resolved then (.error .alreadyResolved, handshake)
  else if handshake.deadline ≤ now then
    (.error .deadlineElapsed, (handshake.resolve .timedOut rfl).2)
  else
    match handshake.resolve (.ofDecision decision) (isPending_ofDecision decision) with
    | (true, handshake) => (.ok (), handshake)
    | (false, handshake) => (.error .alreadyResolved, handshake)

/-- Look whether the handshake is over, for somebody who waits for it.

The state is looked at before the clock.  A pending handshake times out when its deadline has been
reached; if another resolver was first, its answer counts. -/
def poll (handshake : Handshake) (now : Nat) :
    Option (Except HandshakeError (Option String)) × Handshake :=
  match handshake.state.answer? with
  | some answer => (some answer, handshake)
  | none =>
    if handshake.deadline ≤ now then
      match handshake.resolve .timedOut rfl with
      | (true, handshake) => (some (.error .timedOut), handshake)
      | (false, handshake) => (handshake.state.answer?, handshake)
    else (none, handshake)

def remaining (handshake : Handshake) (now : Nat) : Nat :=
  handshake.deadline - now

end Handshake

end HubRelay
