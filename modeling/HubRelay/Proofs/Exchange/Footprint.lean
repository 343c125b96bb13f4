import HubRelay.Proofs.Exchange.Delivery
import HubRelay.Proofs.Exchange.Lasting
import HubRelay.Proofs.Retention

/-!
Contract: how much is held of unfinished messages.

Owns: that along every course the reader of every running relay keeps to the limit on messages, and
that all clients together therefore cost no more than that limit for each of them whose relay runs.

Does not own: what a reader holds on to.

A relay changes its reader only by attempts to read, and others leave it alone, so the invariant of
readers is kept along courses.
-/

namespace HubRelay

/-- A phase in which no more is held of a message than a limit allows. -/
def RelayPhase.KeepsTo (limit : Nat) : RelayPhase → Prop
  | .running loop => ∃ past, loop.reader.Retains limit past
  | _ => True

/-- The bytes that are held of an unfinished message in a phase. -/
def RelayPhase.held : RelayPhase → List UInt8
  | .running loop => loop.reader.buffer
  | _ => []

theorem RelayPhase.KeepsTo.length_held_le {limit : Nat} {phase : RelayPhase}
    (keeps : phase.KeepsTo limit) :
    phase.held.length ≤ if phase.isRunning then limit else 0 := by
  cases phase with
  | running loop =>
    obtain ⟨past, retains⟩ := keeps
    exact retains.bounded
  | _ => exact Nat.le_refl 0

namespace Loop

variable {board later : Switchboard} {connection : Connection} {loop next : Loop}

/-- A step changes a reader only by what it takes in. -/
theorem reader_of_step {branch : Branch}
    (stepped : step board connection loop branch = some (later, .running next)) :
    ∃ taken, next.reader = loop.reader.after taken := by
  cases branch with
  | stop =>
    simp only [step, stepStop, leave] at stepped
    split at stepped <;> cases stepped
  | outbound =>
    simp only [step, stepOutbound, leave] at stepped
    split at stepped
    · cases stepped
    · cases stepped
    · split at stepped
      · cases stepped
        exact ⟨[], rfl⟩
      · cases stepped
  | inbound =>
    obtain ⟨taken, left, outcome, -, reads, -⟩ :=
      loop.reader.readItems_goes loop.source.ended loop.source.items
    simp only [step, stepInbound, MessageReader.read, reads, leave] at stepped
    split at stepped
    · cases stepped
    · split at stepped
      · split at stepped
        · cases stepped
        · cases stepped
          exact ⟨taken, rfl⟩
      · cases stepped
        exact ⟨taken, rfl⟩
      · cases stepped
      · cases stepped
      · split at stepped
        · cases stepped
          exact ⟨taken, rfl⟩
        · cases stepped

end Loop

/-- Whatever a relay does, it keeps to the limit. -/
theorem Relay.keepsTo_act (board : Switchboard) (relay : Relay) (action : RelayAction)
    (keeps : relay.phase.KeepsTo board.settings.messageLimit) :
    (relay.act board action).2.KeepsTo board.settings.messageLimit := by
  obtain ⟨connection, phase⟩ := relay
  cases action with
  | await | feed _ | endSource => cases phase <;> exact keeps
  | settle =>
    cases phase with
    | awaiting =>
      simp only [act, settle]
      split
      · trivial
      · split <;> trivial
    | _ => exact keeps
  | run source room failure =>
    cases phase with
    | approved _ => exact ⟨[], MessageReader.retains_start _⟩
    | _ => exact keeps
  | step branch =>
    cases phase with
    | running loop =>
      simp only [act]
      cases stepped : Loop.step board connection loop branch with
      | none => exact keeps
      | some result =>
        obtain ⟨later, outcome⟩ := result
        cases outcome with
        | leaving result sink => trivial
        | running next =>
          obtain ⟨past, retains⟩ := keeps
          obtain ⟨taken, reader⟩ := Loop.reader_of_step stepped
          refine ⟨past ++ loop.reader.trace taken, ?_⟩
          rw [reader]
          exact MessageReader.retains_after retains taken
    | _ => exact keeps
  | finish => cases phase <;> exact keeps
  | drop => cases phase <;> trivial

namespace Course

/-- Whatever happens, the reader of every running relay holds no more bytes of an unfinished message
than the settings allow, and none where no message is under way. -/
theorem relays_keepTo (settings : Settings) (actions : List Action) {key : RelayKey} {relay : Relay}
    (present : (of settings actions).exchange.relay? key = some relay) :
    relay.phase.KeepsTo settings.messageLimit := by
  refine induction (motive := fun course => ∀ relay, course.exchange.relay? key = some relay →
    relay.phase.KeepsTo settings.messageLimit) settings ?_
    (fun earlier action known relay present => ?_) actions relay present
  · intro relay present
    simp [start, Exchange.start, Exchange.relay?] at present
  · cases before : (of settings earlier).exchange.relay? key with
    | none =>
      obtain ⟨-, -, -, -, -, pending, -⟩ := opens_of_new before present
      rw [pending]
      trivial
    | some entry =>
      by_cases own : ∃ deed, action = .relay key deed
      · obtain ⟨deed, rfl⟩ := own
        have acted := Exchange.relay?_performRelay_self before deed
        obtain rfl := Option.some.inj (present.symm.trans acted)
        have kept := entry.keepsTo_act (of settings earlier).exchange.board deed
        rw [settings_of settings earlier] at kept
        exact kept (known entry before)
      · have same := relay?_of_far before fun deed same => own ⟨deed, same⟩
        obtain rfl := Option.some.inj (present.symm.trans same)
        exact known _ before

/-- The bytes that are held of unfinished messages, of all clients together. -/
def heldBytes (course : Course) : List UInt8 :=
  course.exchange.relays.flatMap fun relay => relay.phase.held

theorem length_held_le {limit : Nat} {relays : List Relay}
    (keep : ∀ relay ∈ relays, relay.phase.KeepsTo limit) :
    (relays.flatMap fun relay => relay.phase.held).length ≤
      relays.countP (·.phase.isRunning) * limit := by
  induction relays with
  | nil => exact Nat.zero_le _
  | cons relay relays inductionHypothesis =>
    obtain ⟨first, rest⟩ := List.forall_mem_cons.1 keep
    have own := first.length_held_le
    have others := inductionHypothesis rest
    rw [List.flatMap_cons, List.length_append, List.countP_cons]
    split at own
    · next runs => rw [if_pos runs, Nat.succ_mul]; omega
    · next idle => rw [if_neg idle, Nat.add_zero]; omega

/-- Whatever happens, no more bytes of unfinished messages are held than the limit on messages for
each relay that runs, whoever else is there. -/
theorem heldBytes_le (settings : Settings) (actions : List Action) :
    (of settings actions).heldBytes.length ≤
      (of settings actions).exchange.relays.countP (·.phase.isRunning) * settings.messageLimit := by
  refine length_held_le fun relay among => ?_
  obtain ⟨key, present⟩ := List.mem_iff_getElem?.1 among
  exact relays_keepTo settings actions present

end Course

end HubRelay
