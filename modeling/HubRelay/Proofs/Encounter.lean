import HubRelay.Proofs.Handshake

/-!
Contract: one handshake among everybody who has to do with it.

Owns: a handshake together with the clock and those who wait for it, the calls that can be made
and their replies, runs of calls, and that a handshake is resolved once, with one answer for
everybody.

Does not own: what a single acknowledgement or look does, and calls in the middle of others.

The induction along a run rests on two facts: a resolved state is never left, and whoever has been
told something has been told what the state dictates.
-/

namespace HubRelay

/-- What somebody who waits for a handshake is told. -/
abbrev HandshakeAnswer := Except HandshakeError (Option String)

/-- A handshake, the time, and what each of those who wait for it has been told so far. -/
structure Encounter where
  now : Nat
  handshake : Handshake
  waiters : List (Option HandshakeAnswer)

namespace Encounter

/-- A handshake that starts now and may take so long; nobody waits for it yet. -/
def start (now timeout : Nat) : Encounter :=
  ⟨now, .start now timeout, []⟩

/-- What can happen. -/
inductive Call where
  | acknowledge (decision : Decision)
  /-- Somebody starts to wait. -/
  | wait
  /-- Somebody who waits looks whether the handshake is over. -/
  | poll (waiter : Nat)
  | pass (milliseconds : Nat)
deriving DecidableEq, Repr

/-- What a call returns. -/
inductive Reply where
  | acknowledged (answer : Except AcknowledgeError Unit)
  /-- A waiter has been told something, or goes on waiting. -/
  | polled (answer : Option HandshakeAnswer)
  | done

/-- Make a call.  Somebody who has been told something does not look again. -/
def perform (encounter : Encounter) : Call → Reply × Encounter
  | .acknowledge decision =>
    let (answer, handshake) := encounter.handshake.acknowledge encounter.now decision
    (.acknowledged answer, { encounter with handshake := handshake })
  | .wait => (.done, { encounter with waiters := encounter.waiters ++ [none] })
  | .poll waiter =>
    match encounter.waiters[waiter]? with
    | none => (.done, encounter)
    | some (some answer) => (.polled (some answer), encounter)
    | some none =>
      let (answer, handshake) := encounter.handshake.poll encounter.now
      (.polled answer, { encounter with
        handshake := handshake
        waiters := encounter.waiters.set waiter answer })
  | .pass milliseconds => (.done, { encounter with now := encounter.now + milliseconds })

/-- Make one call after the other. -/
def run (encounter : Encounter) : List Call → Encounter
  | [] => encounter
  | call :: calls => (encounter.perform call).2.run calls

/-- A call with its reply, and how things stood before and after it. -/
structure Moment where
  before : Encounter
  call : Call
  reply : Reply
  after : Encounter

/-- The moments of a run. -/
def moments (encounter : Encounter) : List Call → List Moment
  | [] => []
  | call :: calls =>
    ⟨encounter, call, (encounter.perform call).1, (encounter.perform call).2⟩ ::
      (encounter.perform call).2.moments calls

/-- How far the handshake has come. -/
def state (encounter : Encounter) : HandshakeState :=
  encounter.handshake.state

namespace Moment

/-- Whether the handshake was resolved in this moment. -/
def resolves (moment : Moment) : Bool :=
  moment.before.state.isPending && !moment.after.state.isPending

/-- Whether a decision was accepted in this moment. -/
def accepts (moment : Moment) : Bool :=
  match moment.reply with
  | .acknowledged (.ok ()) => true
  | _ => false

/-- What holds of each moment of a run that has a deadline and ends in a state. -/
structure Lawful (moment : Moment) (deadline : Nat) (final : HandshakeState) : Prop where
  /-- A state that is over is the last one. -/
  kept : moment.before.state.isPending = false →
    moment.after.state = moment.before.state ∧ moment.before.state = final
  /-- A decision is accepted exactly while the handshake is pending and the deadline not reached. -/
  accepted_iff : ∀ decision, moment.call = .acknowledge decision →
    (moment.accepts = true ↔
      moment.before.state.isPending = true ∧ moment.before.now < deadline)
  /-- The state is what the accepted decision says, then and at the end. -/
  applied : ∀ decision, moment.call = .acknowledge decision → moment.accepts = true →
    moment.after.state = .ofDecision decision ∧ final = .ofDecision decision
  /-- A decision that comes too late for a pending handshake makes it time out. -/
  late : ∀ decision, moment.call = .acknowledge decision →
    moment.before.state.isPending = true → deadline ≤ moment.before.now →
      moment.reply = .acknowledged (.error .deadlineElapsed) ∧ moment.after.state = .timedOut
  /-- A decision about a handshake that is over changes nothing at all. -/
  repeated : ∀ decision, moment.call = .acknowledge decision →
    moment.before.state.isPending = false →
      moment.reply = .acknowledged (.error .alreadyResolved) ∧ moment.after = moment.before
  /-- Whoever waits is told the answer of the last state as soon as the handshake is over or the
  deadline is reached. -/
  answered : ∀ waiter, moment.call = .poll waiter → waiter < moment.before.waiters.length →
    moment.before.state.isPending = false ∨ deadline ≤ moment.before.now →
      ∃ answer, final.answer? = some answer ∧ moment.reply = .polled (some answer) ∧
        moment.after.waiters[waiter]? = some (some answer)
  /-- Until then, looking changes nothing at all. -/
  waiting : ∀ waiter, moment.call = .poll waiter → waiter < moment.before.waiters.length →
    moment.before.state.isPending = true → moment.before.now < deadline →
      moment.reply = .polled none ∧ moment.after = moment.before
  /-- Nobody is let in at the deadline or later, and nobody without a decision. -/
  approvedInTime : moment.before.state.isApproved = false →
    moment.after.state.isApproved = true →
      moment.before.now < deadline ∧ ∃ decision, moment.call = .acknowledge decision ∧
        moment.accepts = true

end Moment

/-! ## What a call keeps -/

variable {encounter : Encounter}

/-- Whoever has been told something has been told what the state dictates. -/
def Consistent (encounter : Encounter) : Prop :=
  ∀ (waiter : Nat) (answer : HandshakeAnswer), encounter.waiters[waiter]? = some (some answer) →
    encounter.state.answer? = some answer

theorem consistent_start (now timeout : Nat) : (start now timeout).Consistent := by
  intro waiter answer told
  simp [start] at told

theorem deadline_perform (call : Call) :
    (encounter.perform call).2.handshake.deadline = encounter.handshake.deadline := by
  cases call with
  | acknowledge decision => exact Handshake.deadline_acknowledge encounter.now decision
  | wait | pass milliseconds => rfl
  | poll waiter =>
    simp only [perform]
    split
    · rfl
    · rfl
    · exact Handshake.deadline_poll encounter.now

theorem state_perform_of_over (call : Call) (ended : encounter.state.isPending = false) :
    (encounter.perform call).2.state = encounter.state := by
  cases call with
  | acknowledge decision => exact Handshake.state_acknowledge_of_over encounter.now decision ended
  | wait | pass milliseconds => rfl
  | poll waiter =>
    simp only [perform]
    split
    · rfl
    · rfl
    · exact Handshake.state_poll_of_over encounter.now ended

/-- No call makes what somebody was told untrue. -/
theorem consistent_perform (call : Call) (consistent : encounter.Consistent) :
    (encounter.perform call).2.Consistent := by
  have kept (waiter : Nat) (answer : HandshakeAnswer)
      (told : encounter.waiters[waiter]? = some (some answer)) :
      (encounter.perform call).2.state.answer? = some answer := by
    have dictated := consistent waiter answer told
    rw [state_perform_of_over call (HandshakeState.isPending_of_answer? dictated)]
    exact dictated
  intro waiter answer told
  cases call with
  | acknowledge decision => exact kept waiter answer told
  | pass milliseconds => exact kept waiter answer told
  | wait =>
    refine kept waiter answer ?_
    simp only [perform, List.getElem?_append] at told
    split at told
    · exact told
    · simp [List.getElem?_singleton] at told
  | poll polled =>
    by_cases waits : encounter.waiters[polled]? = some none
    · -- the waiter that looked now was told what the state dictates; the others keep theirs
      simp only [perform, waits, List.getElem?_set] at told
      split at told
      · split at told
        · simp only [Option.some.injEq] at told
          simp only [perform, waits, state]
          rw [← Handshake.poll_eq_answer?]
          exact told
        · simp at told
      · exact kept waiter answer told
    · have unchanged : (encounter.perform (.poll polled)).2 = encounter := by
        simp only [perform]
        split
        · rfl
        · rfl
        · next found => exact absurd found waits
      rw [unchanged] at told
      exact kept waiter answer told

theorem state_run_of_over (calls : List Call) (ended : encounter.state.isPending = false) :
    (encounter.run calls).state = encounter.state := by
  induction calls generalizing encounter with
  | nil => rfl
  | cons call calls inductionHypothesis =>
    have same := state_perform_of_over call ended
    rw [run, inductionHypothesis (by rw [same]; exact ended), same]

theorem consistent_run (calls : List Call) (consistent : encounter.Consistent) :
    (encounter.run calls).Consistent := by
  induction calls generalizing encounter with
  | nil => exact consistent
  | cons call calls inductionHypothesis =>
    exact inductionHypothesis (consistent_perform call consistent)

/-! ## The moments of a run -/

theorem accepts_acknowledge_iff (decision : Decision) (after : Encounter) :
    Moment.accepts ⟨encounter, .acknowledge decision,
        (encounter.perform (.acknowledge decision)).1, after⟩ = true ↔
      encounter.state.isPending = true ∧ encounter.now < encounter.handshake.deadline := by
  rw [state, ← Handshake.acknowledge_eq_ok_iff encounter.now decision]
  simp only [Moment.accepts, perform]
  split
  · next accepted => simpa using accepted
  · next refused =>
    simp only [Bool.false_eq_true, false_iff]
    intro accepted
    exact refused (by rw [accepted])

theorem acknowledge_of_accepts {call : Call} {after : Encounter}
    (accepts : Moment.accepts ⟨encounter, call, (encounter.perform call).1, after⟩ = true) :
    ∃ decision, call = .acknowledge decision := by
  cases call with
  | acknowledge decision => exact ⟨decision, rfl⟩
  | wait | pass milliseconds => simp [Moment.accepts, perform] at accepts
  | poll waiter =>
    simp only [Moment.accepts, perform] at accepts
    split at accepts
    · next reply => split at reply <;> cases reply
    · contradiction

theorem state_perform_of_accepts {decision : Decision} {after : Encounter}
    (accepts : Moment.accepts ⟨encounter, .acknowledge decision,
      (encounter.perform (.acknowledge decision)).1, after⟩ = true) :
    (encounter.perform (.acknowledge decision)).2.state = .ofDecision decision := by
  obtain ⟨pending, inTime⟩ := (accepts_acknowledge_iff decision after).1 accepts
  exact (Handshake.acknowledge_inTime decision pending inTime).2

/-- A handshake becomes approved only by a decision that is accepted. -/
theorem accepts_of_isApproved {call : Call} (after : Encounter)
    (before : encounter.state.isApproved = false)
    (approved : (encounter.perform call).2.state.isApproved = true) :
    Moment.accepts ⟨encounter, call, (encounter.perform call).1, after⟩ = true := by
  have notBefore : ¬ encounter.state.isApproved = true := by rw [before]; exact Bool.false_ne_true
  cases call with
  | acknowledge decision =>
    refine (accepts_acknowledge_iff decision after).2 ?_
    cases pending : encounter.state.isPending with
    | false =>
      rw [state_perform_of_over _ pending] at approved
      exact absurd approved notBefore
    | true =>
      refine ⟨rfl, Nat.lt_of_not_le fun late => ?_⟩
      have timedOut : (encounter.perform (.acknowledge decision)).2.state = .timedOut :=
        (Handshake.acknowledge_late decision pending late).2
      rw [timedOut] at approved
      contradiction
  | wait | pass milliseconds => exact absurd approved notBefore
  | poll waiter =>
    refine absurd ?_ notBefore
    simp only [perform] at approved
    split at approved
    · exact approved
    · exact approved
    · exact Handshake.isApproved_of_poll approved

theorem answer?_of_poll {now : Nat} {handshake : Handshake}
    (endedOrLate : handshake.state.isPending = false ∨ handshake.deadline ≤ now) :
    ∃ answer, (handshake.poll now).2.state.answer? = some answer := by
  rw [← Option.ne_none_iff_exists', Ne, HandshakeState.answer?_eq_none_iff, Bool.not_eq_true]
  cases pending : handshake.state.isPending with
  | false =>
    rw [Handshake.state_poll_of_over now pending]
    exact pending
  | true =>
    have late : handshake.deadline ≤ now := by
      rcases endedOrLate with ended | late
      · rw [pending] at ended
        contradiction
      · exact late
    rw [(Handshake.poll_late pending late).2]
    rfl

/-- Whoever looks when the handshake is over or the deadline is reached is told the answer of the
last state. -/
theorem answered_perform (calls : List Call) (consistent : encounter.Consistent) {waiter : Nat}
    (within : waiter < encounter.waiters.length)
    (endedOrLate : encounter.state.isPending = false ∨
      encounter.handshake.deadline ≤ encounter.now) :
    ∃ answer, ((encounter.perform (.poll waiter)).2.run calls).state.answer? = some answer ∧
      (encounter.perform (.poll waiter)).1 = .polled (some answer) ∧
      (encounter.perform (.poll waiter)).2.waiters[waiter]? = some (some answer) := by
  have found : encounter.waiters[waiter]? = some encounter.waiters[waiter] :=
    List.getElem?_eq_getElem within
  cases told : encounter.waiters[waiter] with
  | some answer =>
    rw [told] at found
    have dictated := consistent waiter answer found
    have unchanged : encounter.perform (.poll waiter) = (.polled (some answer), encounter) := by
      simp only [perform, found]
    simp only [unchanged]
    refine ⟨answer, ?_, rfl, found⟩
    rw [state_run_of_over calls (HandshakeState.isPending_of_answer? dictated)]
    exact dictated
  | none =>
    rw [told] at found
    have looked : (encounter.perform (.poll waiter)).2.state =
        (encounter.handshake.poll encounter.now).2.state := by
      simp only [perform, found, state]
    obtain ⟨answer, dictated⟩ := answer?_of_poll endedOrLate
    refine ⟨answer, ?_, ?_, ?_⟩
    · rw [state_run_of_over calls, looked, dictated]
      rw [looked]
      exact HandshakeState.isPending_of_answer? dictated
    · simp only [perform, found, Handshake.poll_eq_answer?, dictated]
    · simp only [perform, found, Handshake.poll_eq_answer?, dictated]
      exact List.getElem?_set_self within

theorem waiting_perform (consistent : encounter.Consistent) {waiter : Nat}
    (within : waiter < encounter.waiters.length) (pending : encounter.state.isPending = true)
    (early : encounter.now < encounter.handshake.deadline) :
    encounter.perform (.poll waiter) = (.polled none, encounter) := by
  have silent := (HandshakeState.answer?_eq_none_iff _).2 pending
  have found : encounter.waiters[waiter]? = some none := by
    cases told : encounter.waiters[waiter] with
    | none => rw [List.getElem?_eq_getElem within, told]
    | some answer =>
      have dictated := consistent waiter answer (by
        rw [List.getElem?_eq_getElem within, told])
      rw [silent] at dictated
      contradiction
  have nothing := Handshake.poll_early pending early
  obtain ⟨_, stillWaiting⟩ := List.getElem?_eq_some_iff.1 found
  simp only [perform, found, nothing]
  rw [← stillWaiting, List.set_getElem_self]

theorem lawful_head (call : Call) (consistent : encounter.Consistent) (calls : List Call) :
    Moment.Lawful ⟨encounter, call, (encounter.perform call).1, (encounter.perform call).2⟩
      encounter.handshake.deadline ((encounter.perform call).2.run calls).state where
  kept := by
    intro ended
    have same := state_perform_of_over call ended
    exact ⟨same, by rw [state_run_of_over calls (by rw [same]; exact ended), same]⟩
  accepted_iff := by
    rintro decision rfl
    exact accepts_acknowledge_iff decision _
  applied := by
    rintro decision rfl accepts
    have applied := state_perform_of_accepts accepts
    refine ⟨applied, ?_⟩
    rw [state_run_of_over calls (by rw [applied]; exact Handshake.isPending_ofDecision decision)]
    exact applied
  late := by
    rintro decision rfl pending late
    obtain ⟨answer, timedOut⟩ := Handshake.acknowledge_late decision pending late
    exact ⟨congrArg Reply.acknowledged answer, timedOut⟩
  repeated := by
    rintro decision rfl ended
    have refused := Handshake.acknowledge_of_over encounter.now decision ended
    simp only [perform, refused, and_self]
  answered := by
    rintro waiter rfl within endedOrLate
    exact answered_perform calls consistent within endedOrLate
  waiting := by
    rintro waiter rfl within pending early
    have nothing := waiting_perform consistent within pending early
    exact ⟨congrArg Prod.fst nothing, congrArg Prod.snd nothing⟩
  approvedInTime := by
    intro before approved
    have accepts := accepts_of_isApproved (encounter.perform call).2 before approved
    obtain ⟨decision, rfl⟩ := acknowledge_of_accepts accepts
    exact ⟨((accepts_acknowledge_iff decision _).1 accepts).2, decision, rfl, accepts⟩

/-- Every moment of a run is lawful. -/
theorem lawful_of_mem_moments (calls : List Call) (consistent : encounter.Consistent)
    {moment : Moment} (member : moment ∈ encounter.moments calls) :
    moment.Lawful encounter.handshake.deadline (encounter.run calls).state := by
  induction calls generalizing encounter with
  | nil => simp [moments] at member
  | cons call calls inductionHypothesis =>
    rcases List.mem_cons.1 member with head | tail
    · rw [head]
      exact lawful_head call consistent calls
    · have lawful := inductionHypothesis (consistent_perform call consistent) tail
      rwa [deadline_perform] at lawful

theorem countP_resolves_of_over (calls : List Call) (ended : encounter.state.isPending = false) :
    (encounter.moments calls).countP Moment.resolves = 0 := by
  induction calls generalizing encounter with
  | nil => rfl
  | cons call calls inductionHypothesis =>
    have same := state_perform_of_over call ended
    rw [moments, List.countP_cons_of_neg (by simp [Moment.resolves, ended])]
    exact inductionHypothesis (by rw [same]; exact ended)

/-- The handshake is resolved at most once in a run. -/
theorem countP_resolves_le_one (encounter : Encounter) (calls : List Call) :
    (encounter.moments calls).countP Moment.resolves ≤ 1 := by
  induction calls generalizing encounter with
  | nil => exact Nat.zero_le 1
  | cons call calls inductionHypothesis =>
    rw [moments, List.countP_cons]
    split
    · next resolves =>
      have ended : (encounter.perform call).2.state.isPending = false := by
        simp only [Moment.resolves, Bool.and_eq_true, Bool.not_eq_true'] at resolves
        exact resolves.2
      have afterwards := countP_resolves_of_over calls ended
      omega
    · exact inductionHypothesis (encounter.perform call).2

theorem resolves_of_accepts {calls : List Call} {moment : Moment}
    (member : moment ∈ encounter.moments calls) (accepts : moment.accepts = true) :
    (∃ decision, moment.call = .acknowledge decision) ∧ moment.resolves = true := by
  induction calls generalizing encounter with
  | nil => simp [moments] at member
  | cons call calls inductionHypothesis =>
    rcases List.mem_cons.1 member with head | tail
    · subst head
      obtain ⟨decision, rfl⟩ := acknowledge_of_accepts accepts
      have pending := ((accepts_acknowledge_iff decision _).1 accepts).1
      have applied := state_perform_of_accepts accepts
      refine ⟨⟨decision, rfl⟩, ?_⟩
      simp only [Moment.resolves, pending, applied, Handshake.isPending_ofDecision,
        Bool.not_false, Bool.and_self]
    · exact inductionHypothesis tail

/-- A handshake is resolved once: along every sequence of acknowledgements, waits and moves of the
clock each moment is lawful with respect to the deadline and the last state, the pending state is
left at most once, at most one decision is accepted, and everybody who was ever told something was
told the answer that the last state dictates, which is not that time is up if a decision was
accepted. -/
theorem handshake_resolves_once (created timeout : Nat) (calls : List Call) :
    let final := (start created timeout).run calls
    (∀ moment ∈ (start created timeout).moments calls,
      moment.Lawful (created + timeout) final.state) ∧
    ((start created timeout).moments calls).countP Moment.resolves ≤ 1 ∧
    ((start created timeout).moments calls).countP Moment.accepts ≤ 1 ∧
    (∀ (waiter : Nat) (answer : HandshakeAnswer), final.waiters[waiter]? = some (some answer) →
      final.state.answer? = some answer) ∧
    (∀ moment ∈ (start created timeout).moments calls, moment.accepts = true →
      ∀ waiter : Nat, final.waiters[waiter]? ≠ some (some (.error .timedOut))) := by
  intro final
  have consistent := consistent_run calls (consistent_start created timeout)
  have lawful : ∀ moment ∈ (start created timeout).moments calls,
      moment.Lawful (created + timeout) final.state :=
    fun moment member => lawful_of_mem_moments calls (consistent_start created timeout) member
  have resolvedOnce := countP_resolves_le_one (start created timeout) calls
  refine ⟨lawful, resolvedOnce, ?_, consistent, ?_⟩
  · refine Nat.le_trans (List.countP_mono_left fun moment member accepts => ?_) resolvedOnce
    exact (resolves_of_accepts member accepts).2
  · intro moment member accepts waiter told
    have dictated := consistent waiter _ told
    obtain ⟨decision, acknowledged⟩ := (resolves_of_accepts member accepts).1
    rw [((lawful moment member).applied decision acknowledged accepts).2] at dictated
    cases decision <;> simp [HandshakeState.ofDecision, HandshakeState.answer?] at dictated

end Encounter

end HubRelay
