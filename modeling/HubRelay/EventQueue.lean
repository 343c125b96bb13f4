import HubRelay.Envelope.Event
import HubRelay.Refusal

/-!
Contract: the queue of a backend.

Owns: the bounded queue, putting events in, taking them out, writing them to a stream, and
closing the queue.

Does not own: which backend a queue belongs to.

A queue that is closed takes no more events, and those that it holds can still be taken out.

Under a queue lies a channel, and a channel can only be made with so large a capacity.  Where it is
asked for more, making it breaks off.
-/

namespace HubRelay

/-- The greatest capacity that a channel can be made with: a word without three of its bits. -/
def channelLimit : Nat := 0x1fffffffffffffff

/-- Whether a channel can be made with a capacity. -/
def ChannelAdmits (capacity : Nat) : Prop :=
  0 < capacity ∧ capacity ≤ channelLimit

instance (capacity : Nat) : Decidable (ChannelAdmits capacity) :=
  inferInstanceAs (Decidable (_ ∧ _))

/-- A bounded queue of events, the oldest first. -/
structure EventQueue where
  capacity : Nat
  waiting : List Event
  closed : Bool
  /-- A queue can hold something. -/
  positive : 0 < capacity
  /-- It never holds more than it can. -/
  within : waiting.length ≤ capacity

namespace EventQueue

/-- The capacity that a channel is asked for: the given one, or one if none is given. -/
def asked (capacity : Nat) : Nat :=
  max capacity 1

/-- A queue of the given capacity, or of capacity one if none is given. -/
def ofCapacity (capacity : Nat) : EventQueue :=
  ⟨asked capacity, [], false, by unfold asked; omega, by simp⟩

/-- A queue over a channel that is made for it; there is none if the channel cannot be made. -/
def make? (capacity : Nat) : Option EventQueue :=
  if ChannelAdmits (asked capacity) then some (ofCapacity capacity) else none

instance : Inhabited EventQueue := ⟨ofCapacity 1⟩

def count (queue : EventQueue) : Nat :=
  queue.waiting.length

def enqueue (queue : EventQueue) (event : Event) : Except RouteError EventQueue :=
  if queue.closed then .error .closed
  else if room : queue.waiting.length < queue.capacity then
    .ok { queue with
      waiting := queue.waiting ++ [event]
      within := by simp only [List.length_append, List.length_singleton]; omega }
  else .error (.queueFull queue.capacity)

/-- A queue with the given events in place of its own, which are at least as many. -/
def keep (queue : EventQueue) (waiting : List Event)
    (fewer : waiting.length ≤ queue.waiting.length) : EventQueue :=
  { queue with waiting := waiting, within := Nat.le_trans fewer queue.within }

/-- What is at the end of a queue for somebody who takes events out. -/
inductive Received where
  | event (event : Event)
  /-- Nothing waits, but something may come. -/
  | empty
  /-- Nothing waits and nothing will come. -/
  | finished
deriving DecidableEq, Repr

def receive (queue : EventQueue) : Received × EventQueue :=
  match waiting : queue.waiting with
  | [] => (if queue.closed then .finished else .empty, queue)
  | event :: rest => (.event event, queue.keep rest (by simp [waiting]))

def close (queue : EventQueue) : EventQueue :=
  { queue with closed := true }

/-- Let no more events in and forget those that wait. -/
def discard (queue : EventQueue) : EventQueue :=
  { queue with closed := true, waiting := [], within := by simp }

/-! ## Writing to a stream -/

/-- What becomes of one write to a stream. -/
inductive WriteOutcome where
  | written
  | failed (error : StreamError)
  /-- The stream holds the writer up. -/
  | stalled
deriving DecidableEq, Repr

/-- How writing ends. -/
inductive WriteEnd where
  /-- Nothing waits any more. -/
  | exhausted
  | failed (error : StreamError)
  /-- The writer is held up with an event that it has taken out. -/
  | stalled
deriving DecidableEq, Repr

/-- Write events until there are no more or a write does not succeed: how that ends, the events
written, and those not taken out.

An event is taken out before it is written, so one whose write does not succeed is in neither
list.  Writes for which no outcome is given succeed. -/
def writeOut : List Event → List WriteOutcome → WriteEnd × List Event × List Event
  | [], _ => (.exhausted, [], [])
  | events, [] => (.exhausted, events, [])
  | event :: events, .written :: outcomes =>
    let (ending, written, left) := writeOut events outcomes
    (ending, event :: written, left)
  | _ :: events, .failed error :: _ => (.failed error, [], events)
  | _ :: events, .stalled :: _ => (.stalled, [], events)

/-- Writing leaves no more events than there were. -/
theorem length_left_writeOut (events : List Event) (outcomes : List WriteOutcome) :
    (writeOut events outcomes).2.2.length ≤ events.length := by
  induction events generalizing outcomes with
  | nil => simp [writeOut]
  | cons event events inductionHypothesis =>
    cases outcomes with
    | nil => simp [writeOut]
    | cons outcome outcomes =>
      cases outcome with
      | written =>
        simp only [writeOut, List.length_cons]
        exact Nat.le_succ_of_le (inductionHypothesis outcomes)
      | failed error => simp [writeOut]
      | stalled => simp [writeOut]

/-- Write what waits: how that ends, the events written, and the queue afterwards. -/
def write (queue : EventQueue) (outcomes : List WriteOutcome) :
    WriteEnd × List Event × EventQueue :=
  let result := writeOut queue.waiting outcomes
  (result.1, result.2.1, queue.keep result.2.2 (length_left_writeOut queue.waiting outcomes))

/-- How a flush ends: with the number of events written, or with a failure, or held up. -/
inductive FlushEnd where
  | flushed (count : Nat)
  | failed (error : StreamError)
  | stalled
deriving DecidableEq, Repr

def flush (queue : EventQueue) (outcomes : List WriteOutcome) :
    FlushEnd × List Event × EventQueue :=
  let (ending, written, queue) := queue.write outcomes
  (match ending with
    | .exhausted => .flushed written.length
    | .failed error => .failed error
    | .stalled => .stalled, written, queue)

/-- How far a drain comes. -/
inductive DrainEnd where
  /-- Nothing waits; the drain goes on when something does. -/
  | waiting
  /-- Nothing waits and nothing will come. -/
  | finished
  | failed (error : StreamError)
  | stalled
deriving DecidableEq, Repr

/-- Write what waits and what comes, as far as that goes without waiting. -/
def drain (queue : EventQueue) (outcomes : List WriteOutcome) :
    DrainEnd × List Event × EventQueue :=
  let (ending, written, queue) := queue.write outcomes
  (match ending with
    | .exhausted => if queue.closed then .finished else .waiting
    | .failed error => .failed error
    | .stalled => .stalled, written, queue)

end EventQueue

end HubRelay
