import HubRelay.Proofs.Queue

/-!
Contract: what becomes of events when a drain is given up.

Owns: a drain that goes on for as long as its stream takes events, what others put into the queue
meanwhile, giving the drain up at any time, and the flush after it.

Does not own: how far writing comes in one go.

A drain takes an event out of its queue before it writes it.  So whoever gives a drain up while the
stream holds it up gives up the event with which it is held up, which a flush finds no more.
-/

namespace HubRelay

/-- A drain under way: the queue, what has been written, and the event with which the stream holds
the drain up if it does. -/
structure Draining where
  queue : EventQueue
  written : List Event
  held : Option Event

namespace Draining

/-- What happens to a drain under way, or to its queue. -/
inductive Move where
  /-- Somebody puts an event into the queue, if it takes it in. -/
  | offer (event : Event)
  /-- The stream takes so many events, and holds the drain up with the next one. -/
  | proceed (count : Nat)

/-- A drain of a queue that has just begun. -/
def start (queue : EventQueue) : Draining :=
  ⟨queue, [], none⟩

/-- Put an event into the queue, if it takes it in. -/
def offer (draining : Draining) (event : Event) : Draining :=
  match draining.queue.enqueue event with
  | .ok queue => { draining with queue := queue }
  | .error _ => draining

/-- Take events out of the queue and write them, as many as the stream takes before it holds the
drain up. -/
def pump (draining : Draining) (count : Nat) : Draining :=
  match draining.queue.drain (List.replicate count .written ++ [.stalled]) with
  | (.stalled, written, queue) =>
    ⟨queue, draining.written ++ written, draining.queue.waiting[written.length]?⟩
  | (_, written, queue) => ⟨queue, draining.written ++ written, none⟩

/-- Go on with a drain: first the event with which it is held up is written. -/
def proceed (draining : Draining) (count : Nat) : Draining :=
  match draining.held, count with
  | none, count => draining.pump count
  | some _, 0 => draining
  | some event, count + 1 =>
    pump { draining with written := draining.written ++ [event], held := none } count

def perform (draining : Draining) : Move → Draining
  | .offer event => draining.offer event
  | .proceed count => draining.proceed count

/-- How a drain of a queue stands after some moves. -/
def run (queue : EventQueue) (moves : List Move) : Draining :=
  moves.foldl perform (start queue)

/-- The drain is given up, and with it the event with which it is held up. -/
def giveUp (draining : Draining) : Draining :=
  { draining with held := none }

/-- The event that a queue takes in by a move, if it does. -/
def taken (draining : Draining) : Move → List Event
  | .offer event =>
    match draining.queue.enqueue event with
    | .ok _ => [event]
    | .error _ => []
  | .proceed _ => []

/-- All events that a queue takes in by some moves, in order. -/
def takenBy (draining : Draining) : List Move → List Event
  | [] => []
  | move :: moves => draining.taken move ++ takenBy (draining.perform move) moves

/-- All events that were written, are being written or wait, in order. -/
def content (draining : Draining) : List Event :=
  draining.written ++ draining.held.toList ++ draining.queue.waiting

/-! ## How far a drain comes -/

theorem writeOut_stalled (events : List Event) (count : Nat) :
    EventQueue.writeOut events (List.replicate count .written ++ [.stalled]) =
      (if count < events.length then .stalled else .exhausted, events.take count,
        events.drop (count + 1)) := by
  induction events generalizing count with
  | nil => simp [EventQueue.writeOut]
  | cons event events inductionHypothesis =>
    cases count with
    | zero => rfl
    | succ count =>
      rw [List.replicate_succ, List.cons_append, EventQueue.writeOut, inductionHypothesis]
      simp only [List.length_cons, Nat.add_lt_add_iff_right, List.take_succ_cons,
        List.drop_succ_cons]

theorem drain_stalled (queue : EventQueue) (count : Nat) :
    ((queue.drain (List.replicate count .written ++ [.stalled])).1 = .stalled ↔
      count < queue.waiting.length) ∧
    (queue.drain (List.replicate count .written ++ [.stalled])).2.1 = queue.waiting.take count ∧
    (queue.drain (List.replicate count .written ++ [.stalled])).2.2.waiting =
      queue.waiting.drop (count + 1) := by
  have written := writeOut_stalled queue.waiting count
  refine ⟨?_, congrArg (·.2.1) written, congrArg (·.2.2) written⟩
  have ending : (queue.write (List.replicate count .written ++ [.stalled])).1 = _ :=
    congrArg (·.1) written
  rw [(queue.drain_answers _).2.2.2, ending]
  split
  · next within => exact iff_of_true rfl within
  · next beyond => exact iff_of_false EventQueue.WriteEnd.noConfusion beyond

theorem pump_eq (draining : Draining) (count : Nat) :
    (draining.pump count).written = draining.written ++ draining.queue.waiting.take count ∧
      (draining.pump count).held = draining.queue.waiting[count]? ∧
      (draining.pump count).queue.waiting = draining.queue.waiting.drop (count + 1) := by
  obtain ⟨ending, written, left⟩ := drain_stalled draining.queue count
  unfold pump
  split
  · next events queue drained =>
    rw [drained] at ending written left
    obtain rfl : events = draining.queue.waiting.take count := written
    refine ⟨rfl, ?_, left⟩
    show draining.queue.waiting[_]? = _
    rw [List.length_take, Nat.min_eq_left (Nat.le_of_lt (ending.1 rfl))]
  · next answer events queue other drained =>
    rw [drained] at ending written left
    refine ⟨congrArg _ written, ?_, left⟩
    have beyond : ¬ count < draining.queue.waiting.length := fun within => other (ending.2 within)
    exact (List.getElem?_eq_none (Nat.le_of_not_lt beyond)).symm

/-! ## Nothing is lost while a drain goes on -/

theorem content_pump (draining : Draining) (count : Nat) (free : draining.held = none) :
    (draining.pump count).content = draining.content := by
  obtain ⟨written, held, left⟩ := draining.pump_eq count
  have next : draining.queue.waiting[count]?.toList ++ draining.queue.waiting.drop (count + 1) =
      draining.queue.waiting.drop count := List.drop_eq_getElem?_toList_append.symm
  rw [content, content, written, held, left, free, List.append_assoc, List.append_assoc, next,
    List.take_append_drop, Option.toList_none, List.append_nil]

theorem content_offer (draining : Draining) (event : Event) :
    (draining.offer event).content = draining.content ++ draining.taken (.offer event) := by
  simp only [offer, taken]
  cases asked : draining.queue.enqueue event with
  | ok queue =>
    simp only [content, (EventQueue.enqueue_ok asked).1]
    exact (List.append_assoc _ _ _).symm
  | error error => exact (List.append_nil _).symm

theorem content_proceed (draining : Draining) (count : Nat) :
    (draining.proceed count).content = draining.content := by
  unfold proceed
  split
  · next free => exact draining.content_pump _ free
  · rfl
  · next event count holds =>
    rw [content_pump _ count rfl, content, content, holds]
    simp only [Option.toList_none, Option.toList_some, List.append_nil]

theorem content_perform (draining : Draining) (move : Move) :
    (draining.perform move).content = draining.content ++ draining.taken move := by
  cases move with
  | offer event => exact draining.content_offer event
  | proceed count => exact (draining.content_proceed count).trans (List.append_nil _).symm

/-- Whatever a queue takes in is written, is being written or waits, in order. -/
theorem content_foldl (draining : Draining) (moves : List Move) :
    (moves.foldl perform draining).content = draining.content ++ draining.takenBy moves := by
  induction moves generalizing draining with
  | nil => exact (List.append_nil _).symm
  | cons move moves inductionHypothesis =>
    rw [List.foldl_cons, inductionHypothesis, content_perform, takenBy, List.append_assoc]

/-- Offers change nothing but the queue. -/
theorem offers_eq (draining : Draining) (events : List Event) :
    ((events.map .offer).foldl perform draining).written = draining.written ∧
      ((events.map .offer).foldl perform draining).held = draining.held := by
  induction events generalizing draining with
  | nil => exact ⟨rfl, rfl⟩
  | cons event events inductionHypothesis =>
    have same : (draining.offer event).written = draining.written ∧
        (draining.offer event).held = draining.held := by
      unfold offer
      split <;> exact ⟨rfl, rfl⟩
    obtain ⟨written, held⟩ := inductionHypothesis (draining.offer event)
    exact ⟨written.trans same.1, held.trans same.2⟩

/-! ## Giving up and flushing -/

theorem flush_all (queue : EventQueue) :
    (queue.flush []).1 = .flushed queue.waiting.length ∧ (queue.flush []).2.1 = queue.waiting ∧
      (queue.flush []).2.2.waiting = [] := by
  have written : EventQueue.writeOut queue.waiting [] = (.exhausted, queue.waiting, []) := by
    cases queue.waiting <;> rfl
  have events : (queue.flush []).2.1 = queue.waiting := congrArg (·.2.1) written
  refine ⟨((queue.flush_answers []).1 _).2 ⟨congrArg (·.1) written, ?_⟩, events,
    congrArg (·.2.2) written⟩
  exact congrArg List.length events.symm

/-- A drain that was given up after some moves, when others have put in events since. -/
def abandoned (queue : EventQueue) (moves : List Move) (later : List Event) : Draining :=
  (later.map .offer).foldl perform (run queue moves).giveUp

/-- All events that the queue held or took in, in order. -/
def accepted (queue : EventQueue) (moves : List Move) (later : List Event) : List Event :=
  queue.waiting ++ (start queue).takenBy moves ++
    (run queue moves).giveUp.takenBy (later.map .offer)

/-- All events that were written by a drain until it was given up and by the flush after it. -/
def recovered (queue : EventQueue) (moves : List Move) (later : List Event) : List Event :=
  (run queue moves).written ++ ((abandoned queue moves later).queue.flush []).2.1

/-- Up to where a drain is given up, what was taken in was written, is held or still waits. -/
theorem accepted_eq (queue : EventQueue) (moves : List Move) (later : List Event) :
    accepted queue moves later =
      (run queue moves).written ++ (run queue moves).held.toList ++
        (abandoned queue moves later).queue.waiting := by
  have before := (start queue).content_foldl moves
  have after := (run queue moves).giveUp.content_foldl (later.map .offer)
  obtain ⟨written, held⟩ := (run queue moves).giveUp.offers_eq later
  have left : (abandoned queue moves later).queue.waiting = (run queue moves).queue.waiting ++
      (run queue moves).giveUp.takenBy (later.map .offer) := by
    rw [content, written, held, content] at after
    simp only [giveUp, Option.toList_none, List.append_nil, List.append_assoc] at after
    exact List.append_cancel_left after
  have whole : (run queue moves).content = queue.waiting ++ (start queue).takenBy moves := before
  rw [accepted, left, ← whole, content]
  simp only [List.append_assoc]

/-- What a flush saves when a drain is given up. -/
structure Saved (queue : EventQueue) (moves : List Move) (later : List Event) : Prop where
  flushed : ((abandoned queue moves later).queue.flush []).1 =
    .flushed (abandoned queue moves later).queue.waiting.length
  emptied : ((abandoned queue moves later).queue.flush []).2.2.waiting = []
  /-- All that was taken in, in order, but the event with which the drain was held up. -/
  account : ∃ rest, recovered queue moves later = (run queue moves).written ++ rest ∧
    accepted queue moves later =
      (run queue moves).written ++ (run queue moves).held.toList ++ rest
  /-- Nothing is lost exactly if the drain was not held up. -/
  lossless : recovered queue moves later = accepted queue moves later ↔
    (run queue moves).held = none

/-- Whenever a drain is given up, a flush saves everything but the event that was being written. -/
theorem flush_saves (queue : EventQueue) (moves : List Move) (later : List Event) :
    Saved queue moves later := by
  obtain ⟨ending, events, left⟩ := flush_all (abandoned queue moves later).queue
  have recovers : recovered queue moves later =
      (run queue moves).written ++ (abandoned queue moves later).queue.waiting := by
    rw [recovered, events]
  have accepts := accepted_eq queue moves later
  refine ⟨ending, left, ⟨_, recovers, accepts⟩, ?_⟩
  rw [recovers, accepts]
  cases (run queue moves).held with
  | none => simp
  | some event =>
    -- the one list is longer than the other by the event that is held
    refine iff_of_false (fun same => ?_) (Option.some_ne_none event)
    have lengths := congrArg List.length same
    simp only [List.length_append, Option.toList_some, List.length_singleton] at lengths
    omega

/-- Two events wait, and a drain is given up while the first one is being written: only the second
one is ever written. -/
theorem held_event_lost :
    accepted (.ofCapacity 2) [.offer (.service "chat" "bot" (.text "one")),
      .offer (.service "chat" "bot" (.text "two")), .proceed 0] [] =
        [.service "chat" "bot" (.text "one"), .service "chat" "bot" (.text "two")] ∧
    recovered (.ofCapacity 2) [.offer (.service "chat" "bot" (.text "one")),
      .offer (.service "chat" "bot" (.text "two")), .proceed 0] [] =
        [.service "chat" "bot" (.text "two")] := by
  decide

end Draining

end HubRelay
