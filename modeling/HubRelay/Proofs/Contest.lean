import HubRelay.Proofs.Encounter
import HubRelay.Proofs.Indices
import Mathlib.Data.List.Nodup

/-!
Contract: one handshake among those who go about it step by step.

Owns: the steps that acknowledging and waiting are made of, with the steps of others in between;
that a handshake is claimed once, and shows what was claimed for it once that is published; what
everybody is told; that nobody is held up but by whoever has claimed the handshake and not published
yet; and that an encounter is a contest in which every call is left to itself.

Does not own: calls that are made at one go.

Whoever resolves a handshake first claims it and then publishes its state.  In between, the
handshake is resolved and shows that it is pending, so that others lose to a state that nobody can
see yet.
-/

namespace HubRelay

/-! ## Steps -/

/-- What somebody wants to resolve a handshake with, and when it has looked at the clock. -/
inductive Claim where
  /-- A decision that came in time. -/
  | decided (time : Nat) (decision : Decision)
  /-- A decision that came too late. -/
  | tooLate (time : Nat) (decision : Decision)
  /-- That the deadline has come for somebody who waits. -/
  | expired (time : Nat)

/-- The decision that somebody has come with, if it has. -/
def Claim.decision? : Claim → Option Decision
  | .decided _ decision | .tooLate _ decision => some decision
  | .expired _ => none

/-- What is next for somebody who acknowledges a handshake or waits for it. -/
inductive Party where
  /-- To look whether the handshake is resolved, with a decision. -/
  | entering (decision : Decision)
  /-- To look at the clock, with a decision. -/
  | timing (decision : Decision)
  /-- To look at the state. -/
  | waiting
  /-- To look at the clock, the state having been pending. -/
  | expiring
  | claiming (claim : Claim)
  /-- To publish the state, having claimed the handshake. -/
  | publishing (claim : Claim)
  /-- To look at the state, another having claimed the handshake. -/
  | following
  /-- Nothing, its decision having been answered. -/
  | acknowledged (decision : Decision) (answer : Except AcknowledgeError Unit)
  /-- Nothing, having waited and been told. -/
  | told (answer : HandshakeAnswer)

namespace Party

/-- Whether nothing is next for a party. -/
def isFinished : Party → Bool
  | .acknowledged _ _ | .told _ => true
  | _ => false

/-- The decision that a party has come with; none if it has come to wait. -/
def decision? : Party → Option Decision
  | .entering decision | .timing decision | .acknowledged decision _ => some decision
  | .claiming claim | .publishing claim => claim.decision?
  | .waiting | .expiring | .following | .told _ => none

end Party

namespace Claim

/-- The state that a claim leads to. -/
def state : Claim → HandshakeState
  | .decided _ decision => .ofDecision decision
  | .tooLate _ _ | .expired _ => .timedOut

/-- What becomes of whoever has published its claim. -/
def won : Claim → Party
  | .decided _ decision => .acknowledged decision (.ok ())
  | .tooLate _ decision => .acknowledged decision (.error .deadlineElapsed)
  | .expired _ => .told (.error .timedOut)

/-- What becomes of whoever was not the first to claim a handshake. -/
def lost : Claim → Party
  | .decided _ decision => .acknowledged decision (.error .alreadyResolved)
  | .tooLate _ decision => .acknowledged decision (.error .deadlineElapsed)
  | .expired _ => .following

/-- Whether a claim may have been made by a time, under a deadline. -/
def Fits (deadline now : Nat) : Claim → Prop
  | .decided time _ => time ≤ now ∧ time < deadline
  | .tooLate time _ | .expired time => time ≤ now ∧ deadline ≤ time

/-- The whole call in which a claim is made, at the time that it looks at the clock. -/
def call (handshake : Handshake) : Claim → Handshake
  | .decided time decision | .tooLate time decision => (handshake.acknowledge time decision).2
  | .expired time => (handshake.poll time).2

end Claim

/-- What everybody sees: the parts of a handshake, and the time. -/
structure Sight where
  now : Nat
  deadline : Nat
  /-- Whether somebody has claimed the handshake. -/
  resolved : Bool
  state : HandshakeState

/-- What is to be seen of a handshake at a time. -/
def Handshake.sight (handshake : Handshake) (now : Nat) : Sight :=
  ⟨now, handshake.deadline, handshake.resolved, handshake.state⟩

namespace Sight

/-- What becomes of a party that does what is next for it. -/
def next (sight : Sight) : Party → Party
  | .entering decision =>
    if sight.resolved then .acknowledged decision (.error .alreadyResolved) else .timing decision
  | .timing decision =>
    if sight.deadline ≤ sight.now then .claiming (.tooLate sight.now decision)
    else .claiming (.decided sight.now decision)
  | .waiting => sight.state.answer?.elim .expiring .told
  | .expiring =>
    if sight.deadline ≤ sight.now then .claiming (.expired sight.now) else .waiting
  | .claiming claim => if sight.resolved then claim.lost else .publishing claim
  | .publishing claim => claim.won
  | .following => sight.state.answer?.elim .following .told
  | .acknowledged decision answer => .acknowledged decision answer
  | .told answer => .told answer

/-- What is to be seen when a party has done what is next for it. -/
def after (sight : Sight) : Party → Sight
  | .claiming _ => { sight with resolved := true }
  | .publishing claim => { sight with state := claim.state }
  | _ => sight

/-- What is to be seen and what becomes of a party when it has taken so many steps by itself. -/
def alone (sight : Sight) (party : Party) : Nat → Sight × Party
  | 0 => (sight, party)
  | steps + 1 => (sight.after party).alone (sight.next party) steps

end Sight

/-- A handshake with everybody who goes about it. -/
structure Contest extends Sight where
  parties : List Party

namespace Contest

/-- A handshake that starts now and may take so long; nobody goes about it yet. -/
def start (now timeout : Nat) : Contest :=
  ⟨(Handshake.start now timeout).sight now, []⟩

/-- What can happen. -/
inductive Move where
  /-- Somebody comes with a decision. -/
  | acknowledge (decision : Decision)
  /-- Somebody comes to wait. -/
  | wait
  /-- A party does what is next for it. -/
  | advance (party : Nat)
  | pass (milliseconds : Nat)

/-- Let one thing happen. -/
def take (contest : Contest) : Move → Contest
  | .acknowledge decision => ⟨contest.toSight, contest.parties ++ [.entering decision]⟩
  | .wait => ⟨contest.toSight, contest.parties ++ [.waiting]⟩
  | .advance party =>
    match contest.parties[party]? with
    | none => contest
    | some stands => ⟨contest.after stands, contest.parties.modify party contest.next⟩
  | .pass milliseconds => { contest with now := contest.now + milliseconds }

/-- Let one thing happen after the other. -/
def run (contest : Contest) (moves : List Move) : Contest :=
  moves.foldl take contest

end Contest

/-! ## Claims -/

namespace Claim

theorem isPending_state (claim : Claim) : claim.state.isPending = false := by
  cases claim with
  | decided time decision => exact Handshake.isPending_ofDecision decision
  | tooLate time decision | expired time => rfl

theorem isFinished_won (claim : Claim) : claim.won.isFinished = true := by
  cases claim <;> rfl

theorem decision?_won (claim : Claim) : claim.won.decision? = claim.decision? := by
  cases claim <;> rfl

theorem decision?_lost (claim : Claim) : claim.lost.decision? = claim.decision? := by
  cases claim <;> rfl

/-- A claim that may have been made may have been made later too. -/
theorem Fits.later {claim : Claim} {deadline now later : Nat} (fits : claim.Fits deadline now)
    (after : now ≤ later) : claim.Fits deadline later := by
  cases claim <;> exact ⟨Nat.le_trans fits.1 after, fits.2⟩

/-- A whole call in which a claim is made resolves a pending handshake as was claimed. -/
theorem sight_call {claim : Claim} {handshake : Handshake} {now : Nat}
    (pending : handshake.state.isPending = true) (fits : claim.Fits handshake.deadline now) :
    (claim.call handshake).sight now = ⟨now, handshake.deadline, true, claim.state⟩ := by
  have whole {later : Handshake} (deadline : later.deadline = handshake.deadline)
      (state : later.state = claim.state) :
      later.sight now = ⟨now, handshake.deadline, true, claim.state⟩ := by
    have resolved := Handshake.resolved_of_over (state ▸ claim.isPending_state)
    rw [Handshake.sight, deadline, resolved, state]
  cases claim with
  | decided time decision =>
    exact whole (Handshake.deadline_acknowledge time decision)
      (Handshake.acknowledge_inTime decision pending fits.2).2
  | tooLate time decision =>
    exact whole (Handshake.deadline_acknowledge time decision)
      (Handshake.acknowledge_late decision pending fits.2).2
  | expired time =>
    exact whole (Handshake.deadline_poll time) (Handshake.poll_late pending fits.2).2

end Claim

namespace Sight

theorem next_of_finished {party : Party} (finished : party.isFinished = true) (sight : Sight) :
    sight.next party = party ∧ sight.after party = sight := by
  cases party <;> first | exact ⟨rfl, rfl⟩ | cases finished

/-- Nobody changes its decision, or comes to have one. -/
theorem decision?_next (sight : Sight) (party : Party) :
    (sight.next party).decision? = party.decision? := by
  cases party with
  | entering decision | timing decision | expiring =>
    rw [next]
    split <;> rfl
  | waiting | following =>
    rw [next]
    cases sight.state.answer? <;> rfl
  | claiming claim =>
    rw [next]
    split
    · exact claim.decision?_lost
    · rfl
  | publishing claim => exact claim.decision?_won
  | acknowledged | told => rfl

end Sight

/-! ## Who was first -/

namespace Contest

/-- How far a contest has come: nobody has claimed the handshake, or a party has, and has published
the state or not. -/
inductive Stage (contest : Contest) : Option (Nat × Claim) → Prop
  | unclaimed (unresolved : contest.resolved = false) (pending : contest.state = .pending) :
      Stage contest none
  | claimed {party : Nat} {claim : Claim} (resolved : contest.resolved = true)
      (pending : contest.state = .pending)
      (holds : contest.parties[party]? = some (.publishing claim)) :
      Stage contest (some (party, claim))
  | published {party : Nat} {claim : Claim} (resolved : contest.resolved = true)
      (shows : contest.state = claim.state)
      (won : contest.parties[party]? = some claim.won) : Stage contest (some (party, claim))

/-- Whether a party is where it may be, given who was first. -/
def Honest (sight : Sight) (first : Option (Nat × Claim)) (index : Nat) : Party → Prop
  | .entering _ | .timing _ | .waiting | .expiring => True
  | .claiming claim => claim.Fits sight.deadline sight.now
  | .publishing claim => first = some (index, claim)
  | .following => first ≠ none
  | .acknowledged decision (.ok ()) => ∃ time, first = some (index, .decided time decision)
  | .acknowledged _ (.error .deadlineElapsed) => first ≠ none ∧ sight.deadline ≤ sight.now
  | .acknowledged _ (.error _) => first ≠ none
  | .told answer => sight.state.answer? = some answer

/-- What holds of a contest in which nobody was first, or one party was, with a claim. -/
structure Fair (contest : Contest) (first : Option (Nat × Claim)) : Prop where
  stage : contest.Stage first
  fits : ∀ party claim, first = some (party, claim) → claim.Fits contest.deadline contest.now
  honest : ∀ (index : Nat) party, contest.parties[index]? = some party →
    Honest contest.toSight first index party

variable {contest : Contest} {sight : Sight} {first : Option (Nat × Claim)} {index : Nat}
  {claim : Claim} {party : Party}

theorem fair_start (now timeout : Nat) : (start now timeout).Fair none where
  stage := .unclaimed rfl rfl
  fits := fun _ _ some => nomatch some
  honest := fun _ _ found => nomatch found

/-- As long as nobody was first, nobody says that anybody was. -/
theorem Honest.of_none (honest : Honest sight none index party) (first : Option (Nat × Claim)) :
    Honest sight first index party := by
  cases party with
  | entering _ | timing _ | waiting | expiring => trivial
  | claiming claim => exact honest
  | publishing claim => cases honest
  | following => exact absurd rfl honest
  | acknowledged decision answer =>
    cases answer with
    | ok => obtain ⟨_, none⟩ := honest; cases none
    | error reason =>
      cases reason with
      | deadlineElapsed => exact absurd rfl honest.1
      | _ => exact absurd rfl honest
  | told answer => exact honest

/-- Whoever is where it may be stays so as time passes and until the handshake is over, and what is
over stays as it is. -/
theorem Honest.later {later : Sight} (honest : Honest sight first index party)
    (deadline : later.deadline = sight.deadline) (now : sight.now ≤ later.now)
    (state : sight.state.isPending = false → later.state = sight.state) :
    Honest later first index party := by
  cases party with
  | entering _ | timing _ | waiting | expiring => trivial
  | claiming claim =>
    rw [Honest, deadline]
    exact Claim.Fits.later honest now
  | publishing claim | following => exact honest
  | acknowledged decision answer =>
    cases answer with
    | ok => exact honest
    | error reason =>
      cases reason with
      | deadlineElapsed =>
        obtain ⟨claimed, late⟩ := honest
        exact ⟨claimed, by omega⟩
      | _ => exact honest
  | told answer =>
    have ended := HandshakeState.isPending_of_answer? honest
    rw [Honest, state ended]
    exact honest

/-! ## One move -/

/-- The stage stays while nothing else is shown and whoever has claimed the handshake is where it
was. -/
theorem Stage.later {later : Contest} (stage : contest.Stage first)
    (resolved : later.resolved = contest.resolved) (state : later.state = contest.state)
    (stays : ∀ (index : Nat) party, contest.parties[index]? = some party →
      (∃ claim, party = .publishing claim) ∨ party.isFinished = true →
        later.parties[index]? = some party) : later.Stage first := by
  cases stage with
  | unclaimed unresolved pending =>
    exact .unclaimed (resolved.trans unresolved) (state.trans pending)
  | claimed flag pending holds =>
    exact .claimed (resolved.trans flag) (state.trans pending)
      (stays _ _ holds (Or.inl ⟨_, rfl⟩))
  | published flag shows won =>
    exact .published (resolved.trans flag) (state.trans shows)
      (stays _ _ won (Or.inr (Claim.isFinished_won _)))

theorem Fair.join (fair : contest.Fair first) (honest : ∀ index,
    Honest contest.toSight first index party) :
    Fair ⟨contest.toSight, contest.parties ++ [party]⟩ first where
  stage := fair.stage.later rfl rfl fun _ _ there _ => getElem?_concat_of_some party there
  fits := fair.fits
  honest := by
    intro index party found
    rcases entry_of_concat found with before | ⟨_, rfl⟩
    · exact fair.honest index party before
    · exact honest index

theorem Fair.pass (fair : contest.Fair first) (milliseconds : Nat) :
    (contest.take (.pass milliseconds)).Fair first where
  stage := fair.stage.later rfl rfl fun _ _ there _ => there
  fits := fun party claim was => (fair.fits party claim was).later (Nat.le_add_right _ milliseconds)
  honest := fun index party found =>
    (fair.honest index party found).later rfl (Nat.le_add_right _ milliseconds) fun _ => rfl

theorem Fair.nobody (fair : contest.Fair first) (unresolved : contest.resolved = false) :
    first = none := by
  cases fair.stage with
  | unclaimed => rfl
  | claimed resolved | published resolved =>
    rw [unresolved] at resolved
    contradiction

/-- A handshake that is resolved has been claimed. -/
theorem Fair.exists_first (fair : contest.Fair first) (resolved : contest.resolved = true) :
    first ≠ none := by
  rintro rfl
  cases fair.stage with
  | unclaimed unresolved =>
    rw [resolved] at unresolved
    contradiction

/-- Whoever is about to publish is the only one, and nobody sees yet what. -/
theorem Fair.claimed (fair : contest.Fair first)
    (found : contest.parties[index]? = some (.publishing claim)) :
    first = some (index, claim) ∧ contest.resolved = true ∧ contest.state = .pending := by
  obtain rfl : first = some (index, claim) := fair.honest index _ found
  cases fair.stage with
  | claimed resolved pending _ => exact ⟨rfl, resolved, pending⟩
  | published _ _ won =>
    have finished := claim.isFinished_won
    rw [Option.some.inj (won.symm.trans found)] at finished
    contradiction

/-- A party that changes nothing for the others has to be where it may be, and no more. -/
theorem Fair.turn (fair : contest.Fair first) (found : contest.parties[index]? = some party)
    (apart : contest.after party = contest.toSight)
    (honest : Honest contest.toSight first index (contest.next party)) :
    Fair ⟨contest.toSight, contest.parties.modify index contest.next⟩ first where
  stage := by
    refine fair.stage.later rfl rfl fun position other there part => ?_
    rcases part with ⟨claim, rfl⟩ | finished
    · -- whoever holds the claim would publish it
      have elsewhere : index ≠ position := by
        rintro rfl
        obtain rfl := Option.some.inj (found.symm.trans there)
        have shows : claim.state = contest.state := congrArg (·.state) apart
        have ended := claim.isPending_state
        rw [shows, (fair.claimed there).2.2] at ended
        contradiction
      exact (List.getElem?_modify_ne contest.next _ elsewhere).trans there
    · exact getElem?_modify_of_fixed (Sight.next_of_finished finished contest.toSight).1 there
  fits := fair.fits
  honest := by
    intro position other there
    rcases entry_of_modify there with ⟨rfl, before, here, rfl⟩ | ⟨_, here⟩
    · obtain rfl := Option.some.inj (found.symm.trans here)
      exact honest
    · exact fair.honest position other here

/-- Whoever is the first to claim the handshake was first from then on. -/
theorem Fair.claiming (fair : contest.Fair first)
    (found : contest.parties[index]? = some (.claiming claim))
    (unresolved : contest.resolved = false) :
    Fair ⟨{ contest.toSight with resolved := true }, contest.parties.modify index contest.next⟩
      (some (index, claim)) := by
  have holds : contest.next (.claiming claim) = .publishing claim := by
    rw [Sight.next, unresolved]
    rfl
  obtain rfl := fair.nobody unresolved
  constructor
  case stage =>
    have there := getElem?_modify_of_some contest.next found
    rw [holds] at there
    cases fair.stage with
    | unclaimed _ pending => exact .claimed rfl pending there
  case fits =>
    intro party other same
    obtain ⟨rfl, rfl⟩ := Prod.mk.inj (Option.some.inj same)
    exact fair.honest index _ found
  case honest =>
    intro position party there
    rcases entry_of_modify there with ⟨rfl, before, here, rfl⟩ | ⟨_, here⟩
    · obtain rfl := Option.some.inj (found.symm.trans here)
      rw [holds]
      rfl
    · have honest := (fair.honest position party here).of_none (some (index, claim))
      exact honest.later rfl (Nat.le_refl _) fun _ => rfl

/-- Whoever has claimed the handshake publishes the state. -/
theorem Fair.publishing (fair : contest.Fair first)
    (found : contest.parties[index]? = some (.publishing claim)) :
    Fair ⟨{ contest.toSight with state := claim.state },
      contest.parties.modify index contest.next⟩ first := by
  obtain ⟨rfl, resolved, pending⟩ := fair.claimed found
  have won := getElem?_modify_of_some contest.next found
  refine ⟨.published resolved rfl won, fair.fits, ?_⟩
  intro position party there
  rcases entry_of_modify there with ⟨rfl, before, here, rfl⟩ | ⟨_, here⟩
  · obtain rfl := Option.some.inj (found.symm.trans here)
    have fits := fair.fits index claim rfl
    cases claim with
    | decided time decision => exact ⟨time, rfl⟩
    | tooLate time decision => exact ⟨Option.some_ne_none _, Nat.le_trans fits.2 fits.1⟩
    | expired time => rfl
  · refine (fair.honest position party here).later rfl (Nat.le_refl _) fun ended => ?_
    rw [pending] at ended
    contradiction

/-- Nobody takes the place of whoever was first. -/
theorem Fair.advance (fair : contest.Fair first) (index : Nat) :
    ∃ later, (contest.take (.advance index)).Fair later ∧ (first = none ∨ later = first) := by
  cases found : contest.parties[index]? with
  | none =>
    rw [take, found]
    exact ⟨first, fair, Or.inr rfl⟩
  | some party =>
    have turns (apart : contest.after party = contest.toSight)
        (honest : Honest contest.toSight first index (contest.next party)) :
        ∃ later, Fair ⟨contest.after party, contest.parties.modify index contest.next⟩ later ∧
          (first = none ∨ later = first) := by
      rw [apart]
      exact ⟨first, fair.turn found apart honest, Or.inr rfl⟩
    rw [take, found]
    cases party with
    | entering decision =>
      apply turns rfl
      rw [Sight.next]
      split
      · next resolved => exact fair.exists_first resolved
      · trivial
    | timing decision =>
      apply turns rfl
      rw [Sight.next]
      split
      · next late => exact ⟨Nat.le_refl _, late⟩
      · next inTime => exact ⟨Nat.le_refl _, Nat.lt_of_not_le inTime⟩
    | waiting =>
      apply turns rfl
      rw [Sight.next]
      cases shows : contest.state.answer? with
      | none => trivial
      | some answer => exact shows
    | following =>
      have claimed := fair.honest index _ found
      apply turns rfl
      rw [Sight.next]
      cases shows : contest.state.answer? with
      | none => exact claimed
      | some answer => exact shows
    | expiring =>
      apply turns rfl
      rw [Sight.next]
      split
      · next late => exact ⟨Nat.le_refl _, late⟩
      · trivial
    | claiming claim =>
      cases resolved : contest.resolved with
      | false => exact ⟨_, fair.claiming found resolved, Or.inl (fair.nobody resolved)⟩
      | true =>
        have claimed := fair.exists_first resolved
        have fits := fair.honest index _ found
        apply turns
        · rw [Sight.after, ← resolved]
        · rw [Sight.next, if_pos resolved]
          cases claim with
          | decided | expired => exact claimed
          | tooLate => exact ⟨claimed, Nat.le_trans fits.2 fits.1⟩
    | publishing claim => exact ⟨first, fair.publishing found, Or.inr rfl⟩
    | acknowledged | told => exact turns rfl (fair.honest index _ found)

theorem Fair.step (fair : contest.Fair first) (move : Move) :
    ∃ later, (contest.take move).Fair later ∧ (first = none ∨ later = first) := by
  cases move with
  | acknowledge decision => exact ⟨first, fair.join fun _ => trivial, Or.inr rfl⟩
  | wait => exact ⟨first, fair.join fun _ => trivial, Or.inr rfl⟩
  | advance index => exact fair.advance index
  | pass milliseconds => exact ⟨first, fair.pass milliseconds, Or.inr rfl⟩

theorem Fair.run (fair : contest.Fair first) (moves : List Move) :
    ∃ later, (contest.run moves).Fair later ∧ (first = none ∨ later = first) := by
  induction moves generalizing contest first with
  | nil => exact ⟨first, fair, Or.inr rfl⟩
  | cons move moves inductionHypothesis =>
    obtain ⟨between, fairThen, keeps⟩ := fair.step move
    obtain ⟨later, fairLater, keepsThen⟩ := inductionHypothesis fairThen
    refine ⟨later, fairLater, ?_⟩
    rcases keeps with nobody | rfl
    · exact Or.inl nobody
    · exact keepsThen

/-! ## What stays -/

theorem deadline_take (move : Move) : (contest.take move).deadline = contest.deadline := by
  cases move with
  | acknowledge | wait | pass => rfl
  | advance index =>
    rw [take]
    split
    · rfl
    · next party _ => cases party <;> rfl

theorem deadline_run (moves : List Move) : (contest.run moves).deadline = contest.deadline := by
  induction moves generalizing contest with
  | nil => rfl
  | cons move moves inductionHypothesis => exact inductionHypothesis.trans (deadline_take move)

/-- Whoever has come stays at its place, with its decision. -/
theorem stays_take (found : contest.parties[index]? = some party) (move : Move) :
    ∃ later, (contest.take move).parties[index]? = some later ∧
      later.decision? = party.decision? := by
  cases move with
  | acknowledge | wait => exact ⟨party, getElem?_concat_of_some _ found, rfl⟩
  | pass => exact ⟨party, found, rfl⟩
  | advance other =>
    rw [take]
    split
    · exact ⟨party, found, rfl⟩
    · by_cases same : other = index
      · subst same
        exact ⟨_, getElem?_modify_of_some contest.next found, contest.decision?_next party⟩
      · exact ⟨party, (List.getElem?_modify_ne contest.next _ same).trans found, rfl⟩

theorem stays_run (found : contest.parties[index]? = some party) (moves : List Move) :
    ∃ later, (contest.run moves).parties[index]? = some later ∧
      later.decision? = party.decision? := by
  induction moves generalizing contest party with
  | nil => exact ⟨party, found, rfl⟩
  | cons move moves inductionHypothesis =>
    obtain ⟨between, there, same⟩ := stays_take found move
    obtain ⟨later, here, sameThen⟩ := inductionHypothesis there
    exact ⟨later, here, sameThen.trans same⟩

/-- Only whoever has claimed the handshake changes what shows, and that is over then. -/
theorem Fair.state_take (fair : contest.Fair first) (ended : contest.state.isPending = false)
    (move : Move) : (contest.take move).state = contest.state := by
  cases move with
  | acknowledge | wait | pass => rfl
  | advance index =>
    rw [take]
    split
    · rfl
    · next party found =>
      cases party with
      | publishing claim =>
        rw [(fair.claimed found).2.2] at ended
        contradiction
      | _ => rfl

theorem Fair.state_run (fair : contest.Fair first) (ended : contest.state.isPending = false)
    (moves : List Move) : (contest.run moves).state = contest.state := by
  induction moves generalizing contest first with
  | nil => rfl
  | cons move moves inductionHypothesis =>
    have same := fair.state_take ended move
    obtain ⟨later, fairThen, -⟩ := fair.step move
    exact (inductionHypothesis fairThen (same ▸ ended)).trans same

/-! ## A party by itself -/

theorem take_advance (found : contest.parties[index]? = some party) :
    contest.take (.advance index) =
      ⟨contest.after party, contest.parties.set index (contest.next party)⟩ := by
  rw [take, found, List.modify_eq_set_getElem?, found]
  rfl

theorem run_advance (found : contest.parties[index]? = some party) (steps : Nat) :
    contest.run (List.replicate steps (.advance index)) =
      ⟨(contest.alone party steps).1, contest.parties.set index (contest.alone party steps).2⟩ := by
  induction steps generalizing contest party with
  | zero =>
    obtain ⟨within, rfl⟩ := List.getElem?_eq_some_iff.1 found
    rw [Sight.alone, List.set_getElem_self]
    rfl
  | succ steps inductionHypothesis =>
    have within := (List.getElem?_eq_some_iff.1 found).1
    have there : (contest.take (.advance index)).parties[index]? = some (contest.next party) := by
      rw [take_advance found]
      exact List.getElem?_set_self within
    have rest := inductionHypothesis there
    rw [take_advance found, List.set_set] at rest
    rw [List.replicate_succ, run, List.foldl_cons, take_advance found]
    exact rest

/-- Somebody who comes last and is left to itself. -/
theorem run_newcomer (sight : Sight) (parties : List Party) (newcomer : Party) (steps : Nat) :
    run ⟨sight, parties ++ [newcomer]⟩ (List.replicate steps (.advance parties.length)) =
      ⟨(sight.alone newcomer steps).1, parties ++ [(sight.alone newcomer steps).2]⟩ := by
  have last : (parties ++ [newcomer])[parties.length]? = some newcomer :=
    List.getElem?_concat_length
  rw [@run_advance ⟨sight, parties ++ [newcomer]⟩ _ _ last,
    List.set_append_right _ _ (Nat.le_refl _), Nat.sub_self]
  rfl

end Contest

namespace Sight

variable {sight : Sight}

theorem alone_succ (sight : Sight) (party : Party) (steps : Nat) :
    sight.alone party (steps + 1) = (sight.after party).alone (sight.next party) steps :=
  rfl

/-- A step that others do not see. -/
theorem alone_look {party becomes : Party} (apart : sight.after party = sight)
    (goes : sight.next party = becomes) (steps : Nat) :
    sight.alone party (steps + 1) = sight.alone becomes steps := by
  rw [alone_succ, apart, goes]

theorem alone_of_finished {party : Party} (finished : party.isFinished = true) (sight : Sight)
    (steps : Nat) : sight.alone party steps = (sight, party) := by
  induction steps with
  | zero => rfl
  | succ steps inductionHypothesis =>
    obtain ⟨same, apart⟩ := next_of_finished finished sight
    rw [alone_look apart same, inductionHypothesis]

/-- Everybody comes to an end by itself when the handshake is over. -/
theorem isFinished_of_over (resolved : sight.resolved = true)
    (ended : sight.state.isPending = false) (party : Party) :
    (sight.alone party 4).2.isFinished = true := by
  obtain ⟨answer, shows⟩ := Option.ne_none_iff_exists'.1 fun silent => by
    rw [(HandshakeState.answer?_eq_none_iff _).1 silent] at ended
    contradiction
  cases party with
  | entering decision => simp [alone, next, after, resolved, Party.isFinished]
  | timing decision =>
    by_cases late : sight.deadline ≤ sight.now <;>
      simp [alone, next, after, resolved, late, Claim.lost, Party.isFinished]
  | waiting | following => simp [alone, next, after, shows, Party.isFinished]
  | expiring =>
    by_cases late : sight.deadline ≤ sight.now <;>
      simp [alone, next, after, resolved, shows, late, Claim.lost, Party.isFinished]
  | claiming claim =>
    cases claim <;> simp [alone, next, after, resolved, shows, Claim.lost, Party.isFinished]
  | publishing claim => 
    cases claim <;> simp [alone, next, after, Claim.won, Party.isFinished]
  | acknowledged | told => rfl

/-- When it is too late, everybody comes to an end by itself who does not wait for somebody else. -/
theorem isFinished_of_late (unresolved : sight.resolved = false)
    (pending : sight.state = .pending)
    (late : sight.deadline ≤ sight.now) {party : Party} (own : party ≠ .following) :
    (sight.alone party 4).2.isFinished = true := by
  cases party with
  | entering decision => simp [alone, next, after, unresolved, late, Claim.won, Party.isFinished]
  | timing decision => simp [alone, next, after, unresolved, late, Claim.won, Party.isFinished]
  | waiting =>
    simp [alone, next, after, unresolved, pending, HandshakeState.answer?, late, Claim.won,
      Party.isFinished]
  | following => contradiction
  | expiring => simp [alone, next, after, unresolved, late, Claim.won, Party.isFinished]
  | claiming claim =>
    cases claim <;> simp [alone, next, after, unresolved, Claim.won, Party.isFinished]
  | publishing claim =>
    cases claim <;> simp [alone, next, after, Claim.won, Party.isFinished]
  | acknowledged | told => rfl

variable {handshake : Handshake} {now : Nat}

/-- Whoever claims a pending handshake and is left to itself resolves it as the whole call does. -/
theorem alone_claiming (pending : handshake.state.isPending = true) {claim : Claim}
    (fits : claim.Fits handshake.deadline now) :
    (handshake.sight now).alone (.claiming claim) 2 =
      ((claim.call handshake).sight now, claim.won) := by
  have holds : (handshake.sight now).next (.claiming claim) = .publishing claim :=
    if_neg (ne_true_of_eq_false (Handshake.resolved_of_pending pending))
  rw [Claim.sight_call pending fits, alone_succ, holds]
  rfl

/-- Whoever acknowledges and is left to itself does what the whole call does. -/
theorem alone_entering (handshake : Handshake) (now : Nat) (decision : Decision) :
    (handshake.sight now).alone (.entering decision) 4 =
      ((handshake.acknowledge now decision).2.sight now,
        .acknowledged decision (handshake.acknowledge now decision).1) := by
  cases pending : handshake.state.isPending with
  | false =>
    have refused : (handshake.sight now).next (.entering decision) =
        .acknowledged decision (.error .alreadyResolved) :=
      if_pos (Handshake.resolved_of_over pending)
    rw [alone_look rfl refused, Handshake.acknowledge_of_over now decision pending]
    exact alone_of_finished rfl _ 3
  | true =>
    have unresolved := Handshake.resolved_of_pending pending
    have looks : (handshake.sight now).next (.entering decision) = .timing decision :=
      if_neg (ne_true_of_eq_false unresolved)
    rw [alone_look rfl looks]
    by_cases late : handshake.deadline ≤ now
    · have claims : (handshake.sight now).next (.timing decision) =
          .claiming (.tooLate now decision) := if_pos late
      rw [alone_look rfl claims, (Handshake.acknowledge_late decision pending late).1]
      exact alone_claiming pending ⟨Nat.le_refl now, late⟩
    · have inTime := Nat.lt_of_not_le late
      have claims : (handshake.sight now).next (.timing decision) =
          .claiming (.decided now decision) := if_neg late
      rw [alone_look rfl claims, (Handshake.acknowledge_inTime decision pending inTime).1]
      exact alone_claiming pending ⟨Nat.le_refl now, inTime⟩

/-- Whoever waits and is left to itself does what one look does. -/
theorem alone_waiting (handshake : Handshake) (now : Nat) :
    (handshake.sight now).alone .waiting 4 =
      ((handshake.poll now).2.sight now, (handshake.poll now).1.elim .waiting .told) := by
  cases pending : handshake.state.isPending with
  | false =>
    obtain ⟨answer, shows⟩ := Option.ne_none_iff_exists'.1 fun silent => by
      rw [(HandshakeState.answer?_eq_none_iff _).1 silent] at pending
      contradiction
    have told : (handshake.sight now).next .waiting = .told answer := by
      show handshake.state.answer?.elim _ _ = _
      rw [shows]
      rfl
    rw [alone_look rfl told, Handshake.poll_of_over now pending, shows]
    exact alone_of_finished rfl _ 3
  | true =>
    have silent := (HandshakeState.answer?_eq_none_iff _).2 pending
    have looks : (handshake.sight now).next .waiting = .expiring := by
      show handshake.state.answer?.elim _ _ = _
      rw [silent]
      rfl
    rw [alone_look rfl looks]
    by_cases late : handshake.deadline ≤ now
    · have claims : (handshake.sight now).next .expiring = .claiming (.expired now) := if_pos late
      rw [alone_look rfl claims, (Handshake.poll_late pending late).1]
      exact alone_claiming pending ⟨Nat.le_refl now, late⟩
    · have waits : (handshake.sight now).next .expiring = .waiting := if_neg late
      rw [alone_look rfl waits, alone_look rfl looks, alone_look rfl waits,
        Handshake.poll_early pending (Nat.lt_of_not_le late)]
      rfl

end Sight

namespace Contest

variable {contest : Contest} {first : Option (Nat × Claim)} {index : Nat} {claim : Claim}
  {party : Party}

/-! ## Whole contests -/

/-- What everybody sees in a contest about a handshake: the handshake as it was, or as one whole
call leaves it, or that it has been claimed by somebody who is about to publish what that call
leaves. -/
inductive Shows (contest : Contest) (handshake : Handshake) : Prop
  | before (same : contest.toSight = handshake.sight contest.now)
  | between {index : Nat} {claim : Claim} (fits : claim.Fits contest.deadline contest.now)
      (publishes : contest.parties[index]? = some (.publishing claim))
      (same : contest.toSight = { handshake.sight contest.now with resolved := true })
      (goesOn : (contest.take (.advance index)).toSight =
        (claim.call handshake).sight contest.now)
  | after {claim : Claim} (fits : claim.Fits contest.deadline contest.now)
      (same : contest.toSight = (claim.call handshake).sight contest.now)

/-- What holds of a contest about a handshake, whatever has happened in it. -/
structure ResolvesOnce (contest : Contest) (handshake : Handshake) : Prop where
  shows : contest.Shows handshake
  /-- Everybody stays at its place, with the decision that it has come with. -/
  stays : ∀ (index : Nat) party, contest.parties[index]? = some party → ∀ more, ∃ later,
    (contest.run more).parties[index]? = some later ∧ later.decision? = party.decision?
  /-- One party at most has claimed the handshake and not published. -/
  sole : ∀ (one other : Nat) claim otherClaim,
    contest.parties[one]? = some (.publishing claim) →
      contest.parties[other]? = some (.publishing otherClaim) → one = other
  /-- A decision that was accepted shows, and no other was. -/
  accepted : ∀ (index : Nat) decision,
    contest.parties[index]? = some (.acknowledged decision (.ok ())) →
      contest.state = .ofDecision decision ∧ ∀ (other : Nat) otherDecision,
        contest.parties[other]? = some (.acknowledged otherDecision (.ok ())) → other = index
  /-- Decisions are refused once the handshake is resolved, and as late only if they are. -/
  refused : ∀ (index : Nat) decision reason,
    contest.parties[index]? = some (.acknowledged decision (.error reason)) →
      contest.resolved = true ∧ (reason = .deadlineElapsed → contest.deadline ≤ contest.now)
  /-- Whoever was told something was told what shows. -/
  told : ∀ (index : Nat) answer, contest.parties[index]? = some (.told answer) →
    contest.state.answer? = some answer
  /-- What shows stays when the handshake is over. -/
  kept : contest.state.isPending = false → ∀ more, (contest.run more).state = contest.state
  /-- Then everybody comes to an end in four steps, and also at the deadline, unless somebody is to
  publish first. -/
  finishes : ∀ (index : Nat) party, contest.parties[index]? = some party →
    contest.state.isPending = false ∨ contest.resolved = false ∧ contest.deadline ≤ contest.now →
      ∃ later, (contest.run (List.replicate 4 (.advance index))).parties[index]? = some later ∧
        later.isFinished = true

theorem Fair.shows (fair : contest.Fair first) {handshake : Handshake}
    (pending : handshake.state = .pending) (deadline : contest.deadline = handshake.deadline) :
    contest.Shows handshake := by
  have isPending : handshake.state.isPending = true := by rw [pending]; rfl
  have unresolved := Handshake.resolved_of_pending isPending
  have sight {resolved : Bool} {state : HandshakeState} (flag : contest.resolved = resolved)
      (shows : contest.state = state) :
      contest.toSight = ⟨contest.now, handshake.deadline, resolved, state⟩ := by
    rw [← deadline, ← flag, ← shows]
  cases fair.stage with
  | unclaimed flag shows =>
    refine .before ((sight flag shows).trans ?_)
    rw [Handshake.sight, unresolved, pending]
  | @claimed index claim resolved shows holds =>
    have fits := fair.fits index claim rfl
    refine .between fits holds ((sight resolved shows).trans ?_) ?_
    · rw [Handshake.sight, pending]
    · rw [take_advance holds, Claim.sight_call isPending (deadline ▸ fits)]
      show { contest.toSight with state := claim.state } = _
      rw [sight resolved shows]
  | @published index claim resolved shows won =>
    have fits := fair.fits index claim rfl
    refine .after fits ((sight resolved shows).trans ?_)
    rw [Claim.sight_call isPending (deadline ▸ fits)]

/-- Whoever was first has published, if anybody was told or its decision accepted. -/
theorem Fair.accepted (fair : contest.Fair first) {decision : Decision}
    (found : contest.parties[index]? = some (.acknowledged decision (.ok ()))) :
    ∃ time, first = some (index, .decided time decision) ∧
      contest.state = .ofDecision decision := by
  obtain ⟨time, rfl⟩ := fair.honest index _ found
  refine ⟨time, rfl, ?_⟩
  cases fair.stage with
  | claimed _ _ holds => cases holds.symm.trans found
  | published _ shows _ => exact shows

theorem Fair.refused (fair : contest.Fair first) {decision : Decision} {reason : AcknowledgeError}
    (found : contest.parties[index]? = some (.acknowledged decision (.error reason))) :
    contest.resolved = true ∧ (reason = .deadlineElapsed → contest.deadline ≤ contest.now) := by
  have honest := fair.honest index _ found
  have claimed : first ≠ none := by
    cases reason with
    | deadlineElapsed => exact honest.1
    | _ => exact honest
  constructor
  · cases fair.stage with
    | unclaimed => exact absurd rfl claimed
    | claimed resolved | published resolved => exact resolved
  · rintro rfl
    exact honest.2

theorem Fair.finishes (fair : contest.Fair first) (found : contest.parties[index]? = some party)
    (due : contest.state.isPending = false ∨
      contest.resolved = false ∧ contest.deadline ≤ contest.now) :
    ∃ later, (contest.run (List.replicate 4 (.advance index))).parties[index]? = some later ∧
      later.isFinished = true := by
  have within := (List.getElem?_eq_some_iff.1 found).1
  rw [run_advance found]
  refine ⟨_, List.getElem?_set_self within, ?_⟩
  rcases due with ended | ⟨unresolved, late⟩
  · cases fair.stage with
    | unclaimed _ pending | claimed _ pending =>
      rw [pending] at ended
      contradiction
    | published resolved => exact Sight.isFinished_of_over resolved ended party
  · obtain rfl := fair.nobody unresolved
    cases fair.stage with
    | unclaimed _ pending =>
      refine Sight.isFinished_of_late unresolved pending late ?_
      rintro rfl
      exact fair.honest index _ found rfl

/-- However the steps of those who acknowledge a handshake and wait for it follow one another, it is
resolved once, with one answer for everybody. -/
theorem contest_resolvesOnce (created timeout : Nat) (moves : List Move) :
    ((start created timeout).run moves).ResolvesOnce (Handshake.start created timeout) := by
  obtain ⟨first, fair, -⟩ := (fair_start created timeout).run moves
  constructor
  case shows => exact fair.shows rfl (deadline_run moves)
  case stays => exact fun index party found more => stays_run found more
  case sole =>
    intro one other claim otherClaim publishes publishesToo
    have same := (fair.claimed publishes).1.symm.trans (fair.claimed publishesToo).1
    exact congrArg Prod.fst (Option.some.inj same)
  case accepted =>
    intro index decision found
    obtain ⟨time, was, shows⟩ := fair.accepted found
    refine ⟨shows, fun other otherDecision there => ?_⟩
    obtain ⟨otherTime, wasToo, -⟩ := fair.accepted there
    exact congrArg Prod.fst (Option.some.inj (wasToo.symm.trans was))
  case refused => exact fun index decision reason found => fair.refused found
  case told => exact fun index answer found => fair.honest index _ found
  case kept => exact fun ended more => fair.state_run ended more
  case finishes => exact fun index party found due => fair.finishes found due

-- Somebody waits until the deadline, and loses to a decision that nobody can see yet.
example : ((start 0 10).run [.acknowledge (.approve none), .wait, .advance 0, .advance 0,
    .advance 0, .pass 10, .advance 1, .advance 1, .advance 1, .advance 1, .advance 0,
    .advance 1]).parties = [.acknowledged (.approve none) (.ok ()), .told (.ok none)] := by
  rfl

/-! ## Encounters -/

/-- A contest that is an encounter: nobody is in the middle of anything, and those who wait are at
some places. -/
structure Mirrors (contest : Contest) (encounter : Encounter) (places : List Nat) : Prop where
  sight : contest.toSight = encounter.handshake.sight encounter.now
  distinct : places.Nodup
  waiters : places.map (contest.parties[·]?) =
    encounter.waiters.map fun told => some (told.elim .waiting .told)

variable {encounter : Encounter} {places : List Nat}

theorem Mirrors.within (mirrors : contest.Mirrors encounter places) {place : Nat}
    (among : place ∈ places) : place < contest.parties.length := by
  have there := List.mem_map_of_mem (f := (contest.parties[·]?)) among
  rw [mirrors.waiters] at there
  obtain ⟨told, -, found⟩ := List.mem_map.1 there
  exact (List.getElem?_eq_some_iff.1 found.symm).1

theorem Mirrors.map_concat (mirrors : contest.Mirrors encounter places) (party : Party) :
    places.map ((contest.parties ++ [party])[·]?) =
      encounter.waiters.map fun told => some (told.elim .waiting .told) := by
  rw [← mirrors.waiters]
  exact List.map_congr_left fun place among => List.getElem?_append_left (mirrors.within among)

/-- Whoever comes with a decision and is left to itself is answered as by the whole call. -/
theorem Mirrors.acknowledge (mirrors : contest.Mirrors encounter places) (decision : Decision) :
    contest.run (.acknowledge decision :: List.replicate 4 (.advance contest.parties.length)) =
      ⟨(encounter.perform (.acknowledge decision)).2.handshake.sight encounter.now,
        contest.parties ++ [.acknowledged decision
          (encounter.handshake.acknowledge encounter.now decision).1]⟩ := by
  have goes := run_newcomer contest.toSight contest.parties (.entering decision) 4
  rw [mirrors.sight, Sight.alone_entering, ← mirrors.sight] at goes
  exact goes

/-- Whoever waits and is left to itself is told as by one look. -/
theorem Mirrors.poll (mirrors : contest.Mirrors encounter places) {waiter : Nat}
    (waits : encounter.waiters[waiter]? = some none) :
    ∃ place, places[waiter]? = some place ∧ contest.run (List.replicate 4 (.advance place)) =
      ⟨(encounter.handshake.poll encounter.now).2.sight encounter.now, contest.parties.set place
        ((encounter.handshake.poll encounter.now).1.elim .waiting .told)⟩ := by
  have row := congrArg (·[waiter]?) mirrors.waiters
  simp only [List.getElem?_map, waits, Option.map_some] at row
  obtain ⟨place, here, found⟩ := Option.map_eq_some_iff.1 row
  have goes := run_advance found 4
  rw [mirrors.sight] at goes
  refine ⟨place, here, goes.trans ?_⟩
  rw [show (none : Option HandshakeAnswer).elim Party.waiting .told = .waiting from rfl,
    Sight.alone_waiting]

/-- What becomes of one party shows in a row of different ones at its place. -/
theorem map_set_of_nodup {parties : List Party} (distinct : places.Nodup) {place waiter : Nat}
    (here : places[waiter]? = some place) (within : place < parties.length) (becomes : Party) :
    places.map ((parties.set place becomes)[·]?) =
      (places.map (parties[·]?)).set waiter (some becomes) := by
  have changes : ((parties.set place becomes)[·]?) =
      Function.update (parties[·]?) place (some becomes) := by
    funext position
    by_cases same : position = place
    · subst same
      rw [Function.update_self, List.getElem?_set_self within]
    · rw [Function.update_of_ne same, List.getElem?_set_ne (Ne.symm same)]
  obtain ⟨below, rfl⟩ := List.getElem?_eq_some_iff.1 here
  rw [changes, distinct.map_update, if_pos (List.getElem_mem below),
    distinct.idxOf_getElem waiter below]

/-- Every call of an encounter is made of moves. -/
theorem Mirrors.perform (mirrors : contest.Mirrors encounter places) (call : Encounter.Call) :
    ∃ moves later, (contest.run moves).Mirrors (encounter.perform call).2 later := by
  cases call with
  | acknowledge decision =>
    refine ⟨.acknowledge decision :: List.replicate 4 (.advance contest.parties.length), places, ?_⟩
    rw [mirrors.acknowledge decision]
    exact ⟨rfl, mirrors.distinct, mirrors.map_concat _⟩
  | wait =>
    refine ⟨[.wait], places ++ [contest.parties.length], mirrors.sight, ?_, ?_⟩
    · refine List.nodup_append.2 ⟨mirrors.distinct, List.nodup_singleton _, ?_⟩
      intro place among other new
      rw [List.mem_singleton.1 new]
      exact Nat.ne_of_lt (mirrors.within among)
    · have last : (contest.parties ++ [.waiting])[contest.parties.length]? = some .waiting :=
        List.getElem?_concat_length
      show (places ++ [contest.parties.length]).map ((contest.parties ++ [.waiting])[·]?) =
        (encounter.waiters ++ [none]).map _
      rw [List.map_append, List.map_append, mirrors.map_concat, List.map_singleton, last]
      rfl
  | poll waiter =>
    cases waits : encounter.waiters[waiter]? with
    | none =>
      refine ⟨[], places, ?_⟩
      rw [Encounter.perform, waits]
      exact mirrors
    | some told =>
      cases told with
      | some answer =>
        refine ⟨[], places, ?_⟩
        rw [Encounter.perform, waits]
        exact mirrors
      | none =>
        obtain ⟨place, here, goes⟩ := mirrors.poll waits
        refine ⟨List.replicate 4 (.advance place), places, ?_⟩
        rw [goes, Encounter.perform, waits]
        refine ⟨rfl, mirrors.distinct, ?_⟩
        have within := mirrors.within (List.mem_of_getElem? here)
        rw [map_set_of_nodup mirrors.distinct here within, mirrors.waiters, ← List.map_set]
  | pass milliseconds =>
    refine ⟨[.pass milliseconds], places, ?_, mirrors.distinct, mirrors.waiters⟩
    show { contest.toSight with now := contest.now + milliseconds } = _
    rw [mirrors.sight]
    rfl

theorem Mirrors.run (mirrors : contest.Mirrors encounter places) (calls : List Encounter.Call) :
    ∃ moves later, (contest.run moves).Mirrors (encounter.run calls) later := by
  induction calls generalizing contest encounter places with
  | nil => exact ⟨[], places, mirrors⟩
  | cons call calls inductionHypothesis =>
    obtain ⟨moves, between, first⟩ := mirrors.perform call
    obtain ⟨more, later, rest⟩ := inductionHypothesis first
    refine ⟨moves ++ more, later, ?_⟩
    rw [Contest.run, List.foldl_append]
    exact rest

/-- Every encounter is a contest, whose calls are left to themselves one after the other. -/
theorem exists_mirrors (created timeout : Nat) (calls : List Encounter.Call) :
    ∃ moves places, ((start created timeout).run moves).Mirrors
      ((Encounter.start created timeout).run calls) places :=
  Mirrors.run ⟨rfl, List.nodup_nil, rfl⟩ calls

end Contest

end HubRelay
