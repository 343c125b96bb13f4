import HubRelay.EventQueue
import Mathlib.Logic.Relation

/-!
Contract: what operations do to the queue of a backend.

Owns: which queues can be made, when an event is taken in and where it goes, what is left after
events were taken out, how far writing comes, that nothing else of a queue changes, and what no
operation changes of a queue that is closed.

Does not own: whose queue it is.
-/

namespace HubRelay

namespace EventQueue

variable {queue later : EventQueue} {event : Event}

/-- A channel is always asked for room for something, so only too much can be asked for. -/
theorem channelAdmits_asked_iff {capacity : Nat} :
    ChannelAdmits (asked capacity) ↔ capacity ≤ channelLimit := by
  unfold ChannelAdmits asked channelLimit
  omega

theorem make?_eq_some_iff {capacity : Nat} :
    make? capacity = some queue ↔ capacity ≤ channelLimit ∧ queue = ofCapacity capacity := by
  rw [make?, Option.ite_none_right_eq_some, channelAdmits_asked_iff, Option.some.injEq,
    eq_comm (a := queue)]

theorem make?_eq_none_iff {capacity : Nat} : make? capacity = none ↔ ¬ capacity ≤ channelLimit := by
  rw [make?, ite_eq_right_iff, channelAdmits_asked_iff]
  simp

/-- A queue in which nothing waits, and nothing else changed. -/
def emptied (queue : EventQueue) : EventQueue :=
  queue.keep [] (Nat.zero_le _)

theorem enqueue_ok (accepted : queue.enqueue event = .ok later) :
    later.waiting = queue.waiting ++ [event] ∧ later.emptied = queue.emptied := by
  unfold enqueue at accepted
  split at accepted
  · contradiction
  · split at accepted
    · have same := Except.ok.inj accepted
      subst same
      exact ⟨rfl, rfl⟩
    · contradiction

/-- An event is taken in exactly by an open queue with room. -/
theorem enqueue_isOk_iff (queue : EventQueue) (event : Event) :
    (∃ later, queue.enqueue event = .ok later) ↔
      queue.closed = false ∧ queue.waiting.length < queue.capacity := by
  unfold enqueue
  split
  · next closed => simp [closed]
  · next notClosed =>
    split
    · next room => simp [room, Bool.eq_false_iff.2 notClosed]
    · next full => simp [full]

/-- Whether a queue takes an event in: it is open and not full. -/
def hasRoom (queue : EventQueue) : Bool :=
  !queue.closed && queue.waiting.length < queue.capacity

theorem enqueue_isOk_iff_hasRoom (queue : EventQueue) (event : Event) :
    (∃ later, queue.enqueue event = .ok later) ↔ queue.hasRoom = true := by
  rw [enqueue_isOk_iff, hasRoom, Bool.and_eq_true, Bool.not_eq_true', decide_eq_true_eq]

theorem open_of_hasRoom (room : queue.hasRoom = true) : queue.closed = false := by
  simpa using (Bool.and_eq_true_iff.1 room).1

theorem receive_suffix (queue : EventQueue) :
    queue.receive.2.waiting <:+ queue.waiting ∧ queue.receive.2.emptied = queue.emptied := by
  unfold receive
  split
  · exact ⟨List.suffix_refl _, rfl⟩
  · next event rest found =>
    refine ⟨?_, rfl⟩
    show rest <:+ queue.waiting
    rw [found]
    exact List.suffix_cons event rest

theorem writeOut_suffix (events : List Event) (outcomes : List WriteOutcome) :
    (writeOut events outcomes).2.2 <:+ events := by
  induction events generalizing outcomes with
  | nil => simp [writeOut]
  | cons event events inductionHypothesis =>
    cases outcomes with
    | nil => simp [writeOut]
    | cons outcome outcomes =>
      cases outcome with
      | written =>
        have left := inductionHypothesis outcomes
        exact left.trans (List.suffix_cons event events)
      | failed error => exact List.suffix_cons event events
      | stalled => exact List.suffix_cons event events

theorem write_suffix (queue : EventQueue) (outcomes : List WriteOutcome) :
    (queue.write outcomes).2.2.waiting <:+ queue.waiting ∧
      (queue.write outcomes).2.2.emptied = queue.emptied :=
  ⟨writeOut_suffix queue.waiting outcomes, rfl⟩

/-- The answer to an event that is not taken in. -/
theorem enqueue_error_iff (queue : EventQueue) (event : Event) (error : RouteError) :
    queue.enqueue event = .error error ↔ queue.closed = true ∧ error = .closed ∨
      queue.closed = false ∧ queue.waiting.length = queue.capacity ∧
        error = .queueFull queue.capacity := by
  have within := queue.within
  unfold enqueue
  split
  · next closed => simp [closed, eq_comm]
  · next notClosed =>
    rw [Bool.not_eq_true] at notClosed
    split
    · next room => simp [notClosed, Nat.ne_of_lt room]
    · next full =>
      have same : queue.waiting.length = queue.capacity := by omega
      simp [notClosed, same, eq_comm]

theorem receive_of_cons {rest : List Event} (waiting : queue.waiting = event :: rest) :
    queue.receive.1 = .event event ∧ queue.receive.2.waiting = rest := by
  unfold receive
  split
  · next empty =>
    rw [waiting] at empty
    contradiction
  · next first others found =>
    obtain ⟨rfl, rfl⟩ := List.cons.inj (found.symm.trans waiting)
    exact ⟨rfl, rfl⟩

theorem receive_of_nil (waiting : queue.waiting = []) :
    queue.receive = (if queue.closed then .finished else .empty, queue) := by
  unfold receive
  split
  · rfl
  · next found =>
    rw [waiting] at found
    contradiction

/-- What somebody got who took an event out of a queue. -/
def Received.events : Received → List Event
  | .event event => [event]
  | .empty | .finished => []

theorem receive_events (queue : EventQueue) :
    queue.receive.1.events ++ queue.receive.2.waiting = queue.waiting := by
  cases waiting : queue.waiting with
  | nil =>
    rw [receive_of_nil waiting]
    simp only [waiting]
    split <;> rfl
  | cons event rest =>
    obtain ⟨received, left⟩ := receive_of_cons waiting
    rw [received, left]
    rfl

/-! ## How far writing comes -/

/-- What becomes of events that are written one after the other, the first writes going as given:
how it ends, the events written, and those left.  All are written, or those before the first one
whose write does not succeed, which is neither written nor left. -/
inductive WrittenOut (events : List Event) (outcomes : List WriteOutcome) :
    WriteEnd → List Event → List Event → Prop where
  | exhausted (succeed : ∀ index < events.length, ∀ outcome, outcomes[index]? = some outcome →
      outcome = .written) : WrittenOut events outcomes .exhausted events []
  | failed {written left : List Event} {event : Event} {error : StreamError}
      (split : events = written ++ event :: left)
      (succeed : ∀ index < written.length, outcomes[index]? = some .written)
      (fails : outcomes[written.length]? = some (.failed error)) :
      WrittenOut events outcomes (.failed error) written left
  | stalled {written left : List Event} {event : Event}
      (split : events = written ++ event :: left)
      (succeed : ∀ index < written.length, outcomes[index]? = some .written)
      (stalls : outcomes[written.length]? = some .stalled) :
      WrittenOut events outcomes .stalled written left

theorem succeed_cons {written : List Event} {outcomes : List WriteOutcome}
    (succeed : ∀ index < written.length, outcomes[index]? = some .written) :
    ∀ index < (event :: written).length,
      (WriteOutcome.written :: outcomes)[index]? = some .written
  | 0, _ => rfl
  | index + 1, within => succeed index (Nat.lt_of_succ_lt_succ within)

theorem writeOut_writtenOut (events : List Event) (outcomes : List WriteOutcome) :
    WrittenOut events outcomes (writeOut events outcomes).1 (writeOut events outcomes).2.1
      (writeOut events outcomes).2.2 := by
  induction events generalizing outcomes with
  | nil => exact .exhausted fun index within => absurd within (Nat.not_lt_zero index)
  | cons event events inductionHypothesis =>
    cases outcomes with
    | nil => exact .exhausted fun _ _ _ none => nomatch none
    | cons outcome outcomes =>
      cases outcome with
      | failed error => exact .failed (List.nil_append _).symm (fun _ none => nomatch none) rfl
      | stalled => exact .stalled (List.nil_append _).symm (fun _ none => nomatch none) rfl
      | written =>
        have further := inductionHypothesis outcomes
        rw [writeOut]
        generalize writeOut events outcomes = result at further
        obtain ⟨ending, written, left⟩ := result
        cases further with
        | exhausted succeed =>
          refine .exhausted fun index within outcome found => ?_
          cases index with
          | zero => exact (Option.some.inj found).symm
          | succ index => exact succeed index (Nat.lt_of_succ_lt_succ within) outcome found
        | failed split succeed fails =>
          exact .failed (congrArg (event :: ·) split) (succeed_cons succeed) fails
        | stalled split succeed stalls =>
          exact .stalled (congrArg (event :: ·) split) (succeed_cons succeed) stalls

/-- A stream that works is written everything that waits. -/
theorem write_of_working (queue : EventQueue) {outcomes : List WriteOutcome}
    (works : ∀ outcome ∈ outcomes, outcome = .written) :
    (queue.write outcomes).1 = .exhausted ∧ (queue.write outcomes).2.1 = queue.waiting ∧
      (queue.write outcomes).2.2.waiting = [] := by
  have fails (index : Nat) (outcome : WriteOutcome) (found : outcomes[index]? = some outcome) :
      outcome = .written := works outcome (List.mem_of_getElem? found)
  have result := writeOut_writtenOut queue.waiting outcomes
  show (writeOut queue.waiting outcomes).1 = _ ∧ (writeOut queue.waiting outcomes).2.1 = _ ∧
    (writeOut queue.waiting outcomes).2.2 = _
  generalize writeOut queue.waiting outcomes = written at result
  obtain ⟨ending, events, left⟩ := written
  cases result with
  | exhausted => exact ⟨rfl, rfl, rfl⟩
  | failed _ _ failure => cases fails _ _ failure
  | stalled _ _ stalls => cases fails _ _ stalls

/-- What a flush answers, from how writing ended. -/
theorem flush_answers (queue : EventQueue) (outcomes : List WriteOutcome) :
    (∀ count, (queue.flush outcomes).1 = .flushed count ↔
      (queue.write outcomes).1 = .exhausted ∧ count = (queue.write outcomes).2.1.length) ∧
    (∀ error, (queue.flush outcomes).1 = .failed error ↔
      (queue.write outcomes).1 = .failed error) ∧
    ((queue.flush outcomes).1 = .stalled ↔ (queue.write outcomes).1 = .stalled) := by
  unfold flush
  generalize queue.write outcomes = result
  obtain ⟨ending, written, left⟩ := result
  cases ending <;> simp [eq_comm]

/-- What a drain answers, from how writing ended. -/
theorem drain_answers (queue : EventQueue) (outcomes : List WriteOutcome) :
    ((queue.drain outcomes).1 = .finished ↔
      (queue.write outcomes).1 = .exhausted ∧ queue.closed = true) ∧
    ((queue.drain outcomes).1 = .waiting ↔
      (queue.write outcomes).1 = .exhausted ∧ queue.closed = false) ∧
    (∀ error, (queue.drain outcomes).1 = .failed error ↔
      (queue.write outcomes).1 = .failed error) ∧
    ((queue.drain outcomes).1 = .stalled ↔ (queue.write outcomes).1 = .stalled) := by
  have closed : (queue.write outcomes).2.2.closed = queue.closed := rfl
  unfold drain
  generalize queue.write outcomes = result at closed
  obtain ⟨ending, written, left⟩ := result
  rw [← closed]
  cases ending <;> cases isClosed : left.closed <;> simp [isClosed]

/-- The events that a stream is asked to write, the first writes going as given: all, or those up to
the first one whose write does not succeed. -/
def passed (events : List Event) (outcomes : List WriteOutcome) : List Event :=
  match outcomes.findIdx? (· ≠ .written) with
  | none => events
  | some index => events.take (index + 1)

/-- The events are those that the stream is asked to write, and those left. -/
theorem passed_left (events : List Event) (outcomes : List WriteOutcome) :
    passed events outcomes ++ (writeOut events outcomes).2.2 = events := by
  induction events generalizing outcomes with
  | nil =>
    unfold passed
    split <;> rfl
  | cons event events inductionHypothesis =>
    cases outcomes with
    | nil => exact List.append_nil _
    | cons outcome outcomes =>
      cases outcome with
      | failed error => rfl
      | stalled => rfl
      | written =>
        have first : passed (event :: events) (.written :: outcomes) =
            event :: passed events outcomes := by
          unfold passed
          rw [List.findIdx?_cons, if_neg (by decide)]
          cases outcomes.findIdx? (· ≠ .written) <;> rfl
        rw [first, List.cons_append]
        exact congrArg (event :: ·) (inductionHypothesis outcomes)

/-! ## What happens to a queue in the long run -/

/-- Anything that can be done to a queue. -/
inductive Step (queue : EventQueue) : EventQueue → Prop where
  | enqueue {event : Event} {later : EventQueue} (accepted : queue.enqueue event = .ok later) :
      Step queue later
  | receive : Step queue queue.receive.2
  | write (outcomes : List WriteOutcome) : Step queue (queue.write outcomes).2.2
  | close : Step queue queue.close
  | discard : Step queue queue.discard

/-- Any number of things done to a queue. -/
abbrev Evolves (queue later : EventQueue) : Prop :=
  Relation.ReflTransGen Step queue later

/-- A queue that is closed takes nothing in and stays closed. -/
theorem Step.sealed (step : Step queue later) (closed : queue.closed = true) :
    later.closed = true ∧ later.waiting <:+ queue.waiting := by
  cases step with
  | enqueue accepted =>
    obtain ⟨notClosed, -⟩ := (queue.enqueue_isOk_iff _).1 ⟨later, accepted⟩
    rw [closed] at notClosed
    contradiction
  | receive =>
    obtain ⟨taken, same⟩ := queue.receive_suffix
    exact ⟨(congrArg (·.closed) same).trans closed, taken⟩
  | write outcomes => exact ⟨closed, (queue.write_suffix outcomes).1⟩
  | close => exact ⟨rfl, List.suffix_refl _⟩
  | discard => exact ⟨rfl, List.nil_suffix⟩

theorem Evolves.sealed (evolves : queue.Evolves later) (closed : queue.closed = true) :
    later.closed = true ∧ later.waiting <:+ queue.waiting := by
  induction evolves with
  | refl => exact ⟨closed, List.suffix_refl _⟩
  | tail _ step inductionHypothesis =>
    obtain ⟨closedLater, taken⟩ := step.sealed inductionHypothesis.1
    exact ⟨closedLater, taken.trans inductionHypothesis.2⟩

end EventQueue

end HubRelay
