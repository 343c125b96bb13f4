import HubRelay.Proofs.Exchange.Evolution
import HubRelay.Proofs.Exchange.Lasting
import HubRelay.Proofs.Exchange.Ledger

/-!
Contract: the queues of backends along every course.

Owns: what is handed out of a queue according to the answers of those who take events out, that
every queue hands out what it took in and holds the rest, that a closed queue takes nothing in, and
what each operation on a queue answers.

Does not own: who puts events into queues.

An event that was passed to a stream counts as handed out even if the stream failed to write it.  So
the account does not depend on how the stream behaves.
-/

namespace HubRelay

open Switchboard

/-! ## What is handed out -/

namespace Switchboard

variable (board : Switchboard) {before after : Switchboard} {key other : BackendKey}

theorem waiting_of_missing {board : Switchboard} (missing : board.backend? key = none) :
    board.waiting key = [] := by
  rw [waiting, missing]
  rfl

theorem waiting_receive_self (key : BackendKey) :
    board.waiting key = (board.receive key).1.events ++ (board.receive key).2.waiting key := by
  unfold receive
  cases found : board.backend? key with
  | none => rfl
  | some backend =>
    simp only
    rw [waiting_setQueue_self _ found, waiting_of_backend? found]
    exact backend.queue.receive_events.symm

theorem waiting_flush_self (key : BackendKey) (outcomes : List EventQueue.WriteOutcome) :
    board.waiting key = EventQueue.passed (board.waiting key) outcomes ++
      (board.flush key outcomes).2.2.waiting key := by
  unfold flush
  cases found : board.backend? key with
  | none =>
    simp only [waiting_of_missing found]
    exact (EventQueue.passed_left [] outcomes).symm
  | some backend =>
    simp only
    rw [waiting_setQueue_self _ found, waiting_of_backend? found]
    exact (EventQueue.passed_left backend.queue.waiting outcomes).symm

theorem waiting_drain (key : BackendKey) (outcomes : List EventQueue.WriteOutcome) :
    (board.drain key outcomes).2.2 = (board.flush key outcomes).2.2 := by
  unfold drain flush
  cases board.backend? key <;> rfl

theorem enqueue_eq_ok_iff {backend : Backend} (found : board.backend? key = some backend)
    (event : Event) : (board.enqueue key event).1 = .ok () ↔
      backend.queue.closed = false ∧ backend.queue.waiting.length < backend.queue.capacity := by
  rw [← EventQueue.enqueue_isOk_iff backend.queue event]
  simp only [enqueue, found]
  cases backend.queue.enqueue event <;> simp

theorem enqueue_eq_error_iff {backend : Backend} (found : board.backend? key = some backend)
    (event : Event) (error : RouteError) : (board.enqueue key event).1 = .error error ↔
      backend.queue.closed = true ∧ error = .closed ∨
      backend.queue.closed = false ∧ backend.queue.waiting.length = backend.queue.capacity ∧
        error = .queueFull backend.queue.capacity := by
  rw [← EventQueue.enqueue_error_iff backend.queue event]
  simp only [enqueue, found]
  cases backend.queue.enqueue event <;> simp

theorem receive_fst {backend : Backend} (found : board.backend? key = some backend) :
    (board.receive key).1 = backend.queue.receive.1 ∧
      (board.receive key).2.waiting key = backend.queue.receive.2.waiting := by
  unfold receive
  rw [found]
  exact ⟨rfl, waiting_setQueue_self _ found⟩

theorem flush_fst {backend : Backend} (found : board.backend? key = some backend)
    (outcomes : List EventQueue.WriteOutcome) :
    (board.flush key outcomes).1 = (backend.queue.flush outcomes).1 ∧
      (board.flush key outcomes).2.1 = (backend.queue.write outcomes).2.1 ∧
      (board.flush key outcomes).2.2.waiting key = (backend.queue.write outcomes).2.2.waiting := by
  unfold flush
  rw [found]
  exact ⟨rfl, rfl, waiting_setQueue_self _ found⟩

theorem drain_fst {backend : Backend} (found : board.backend? key = some backend)
    (outcomes : List EventQueue.WriteOutcome) :
    (board.drain key outcomes).1 = (backend.queue.drain outcomes).1 ∧
      (board.drain key outcomes).2.1 = (backend.queue.write outcomes).2.1 ∧
      (board.drain key outcomes).2.2.waiting key = (backend.queue.write outcomes).2.2.waiting := by
  unfold drain
  rw [found]
  exact ⟨rfl, rfl, waiting_setQueue_self _ found⟩

/-- Taking events out of a queue leaves the other queues alone. -/
theorem waiting_receive_ne (different : key ≠ other) :
    (board.receive key).2.waiting other = board.waiting other := by
  unfold receive
  cases board.backend? key with
  | none => rfl
  | some backend => exact waiting_setQueue_ne board _ different

theorem waiting_flush_ne (outcomes : List EventQueue.WriteOutcome) (different : key ≠ other) :
    (board.flush key outcomes).2.2.waiting other = board.waiting other := by
  unfold flush
  cases board.backend? key with
  | none => rfl
  | some backend => exact waiting_setQueue_ne board _ different

end Switchboard

namespace Moment

/-- The events that were handed out of a queue, according to the answers: to whoever received them,
or to a stream that was asked to write them. -/
def handedOut (moment : Moment) (key : BackendKey) : List Event :=
  match moment.action with
  | .request (.receive backend) =>
    if backend = key then (moment.before.board.receive key).1.events else []
  | .request (.flush backend outcomes) | .request (.drain backend outcomes) =>
    if backend = key then EventQueue.passed (moment.before.board.waiting key) outcomes else []
  | _ => []

/-- The events that were waiting in a queue when its backend was dropped. -/
def forgotten (moment : Moment) (key : BackendKey) : List Event :=
  match moment.action with
  | .request (.drop backend) => if backend = key then moment.before.board.waiting key else []
  | _ => []

theorem departures_flush (board : Switchboard) (relays : List Relay) (key backend : BackendKey)
    (outcomes : List EventQueue.WriteOutcome) :
    departures ⟨⟨board, relays⟩, .request (.flush backend outcomes)⟩ key =
      if backend = key then EventQueue.passed (board.waiting key) outcomes else [] := by
  split
  · next same =>
    subst same
    exact departures_of_append (waiting_flush_self board backend outcomes)
  · next different => exact departures_of_same (waiting_flush_ne board outcomes different)

/-- What was taken out of a queue was handed out or forgotten. -/
theorem departures_eq (moment : Moment) (key : BackendKey) :
    moment.departures key = moment.handedOut key ++ moment.forgotten key := by
  obtain ⟨⟨board, relays⟩, action⟩ := moment
  -- where nothing is taken out, nothing is handed out or forgotten
  have nothing (growing : Growing board (Exchange.perform ⟨board, relays⟩ action).board) :
      departures ⟨⟨board, relays⟩, action⟩ key = [] := departures_of_growing growing key
  cases action with
  | release client => exact nothing (Exchange.steady_release ⟨board, relays⟩ client).growing
  | openRelay hub context =>
    exact nothing (Exchange.steady_openRelay ⟨board, relays⟩ hub context).growing
  | relay acting action =>
    exact nothing (Exchange.steady_relay ⟨board, relays⟩ acting action).growing
  | request request =>
    cases request with
    | receive backend =>
      refine Eq.trans ?_ (List.append_nil _).symm
      show _ = if backend = key then _ else _
      split
      · next same =>
        subst same
        exact departures_of_append (waiting_receive_self board backend)
      · next different => exact departures_of_same (waiting_receive_ne board different)
    | flush backend outcomes =>
      exact (departures_flush board relays key backend outcomes).trans (List.append_nil _).symm
    | drain backend outcomes =>
      refine Eq.trans ?_ ((departures_flush board relays key backend outcomes).trans
        (List.append_nil _).symm)
      exact congrArg (Switchboard.departures board · key) (waiting_drain board backend outcomes)
    | drop backend =>
      show _ = if backend = key then _ else _
      split
      · next same =>
        subst same
        refine departures_of_append ?_
        rw [show (after _).board = board.dropBackend backend from rfl, waiting_dropBackend_self,
          List.append_nil]
      · next different => exact departures_of_same (waiting_dropBackend_ne board different)
    | _ => exact nothing (steady_perform board rfl).growing

end Moment

namespace Course

/-- The events that were handed out of a queue, in order. -/
def handedOut (course : Course) (key : BackendKey) : List Event :=
  course.past.flatMap (·.handedOut key)

/-- The events that were waiting in a queue when its backend was dropped. -/
def forgotten (course : Course) (key : BackendKey) : List Event :=
  course.past.flatMap (·.forgotten key)

variable {course : Course} {key : BackendKey} {backend : Backend}

theorem handedOut_take (course : Course) (action : Action) (key : BackendKey) :
    (course.take action).handedOut key =
      course.handedOut key ++ Moment.handedOut ⟨course.exchange, action⟩ key := by
  simp only [handedOut, take, List.flatMap_append, List.flatMap_cons, List.flatMap_nil,
    List.append_nil]

theorem forgotten_take (course : Course) (action : Action) (key : BackendKey) :
    (course.take action).forgotten key =
      course.forgotten key ++ Moment.forgotten ⟨course.exchange, action⟩ key := by
  simp only [forgotten, take, List.flatMap_append, List.flatMap_cons, List.flatMap_nil,
    List.append_nil]

/-- Whether a queue is over: closed, and nothing waits in it. -/
def IsOver (board : Switchboard) (key : BackendKey) : Prop :=
  ∃ backend, board.backend? key = some backend ∧ backend.queue.closed = true ∧
    backend.queue.waiting = []

theorem drops_of_forgotten {moment : Moment} (some : moment.forgotten key ≠ []) :
    moment.action = .request (.drop key) := by
  unfold Moment.forgotten at some
  split at some
  · next backend acted =>
    split at some
    · next same => exact same ▸ acted
    · contradiction
  · contradiction

theorem isOver_of_forgotten {moment : Moment} (some : moment.forgotten key ≠ []) :
    IsOver moment.after.board key ∧ moment.handedOut key = [] := by
  obtain ⟨⟨board, relays⟩, action⟩ := moment
  unfold Moment.forgotten at some
  split at some
  · next backend acted =>
    obtain rfl : action = .request (.drop backend) := acted
    split at some
    · next same =>
      subst same
      cases found : board.backend? backend with
      | none => exact absurd (waiting_of_missing found) some
      | some entry =>
        refine ⟨⟨{ entry with queue := entry.queue.close.discard }, ?_, rfl, rfl⟩, rfl⟩
        show (board.dropBackend backend).backend? backend = _
        rw [dropBackend, backend?_updateBackend_self, backend?, backends_closeBackend,
          List.getElem?_modify_eq, show board.backends[backend]? = Option.some entry from found]
        rfl
    · contradiction
  · contradiction

/-- A queue that is closed stays closed, and takes nothing in. -/
theorem closed_take (found : course.exchange.board.backend? key = some backend)
    (closed : backend.queue.closed = true) (action : Action) :
    (∃ later, (course.take action).exchange.board.backend? key = some later ∧
      later.queue.closed = true ∧ later.queue.waiting <:+ backend.queue.waiting) ∧
    Moment.arrivals ⟨course.exchange, action⟩ key = [] := by
  obtain ⟨later, here, evolves⟩ := (course.exchange.evolves_perform action).queue found
  obtain ⟨closedLater, taken⟩ := evolves.sealed closed
  refine ⟨⟨later, here, closedLater, taken⟩, ?_⟩
  have before : course.exchange.board.waiting key = _ := waiting_of_backend? found
  have after : (course.exchange.perform action).board.waiting key = _ := waiting_of_backend? here
  show List.drop _ ((course.exchange.perform action).board.waiting key) = []
  rw [after]
  exact List.drop_eq_nil_of_le (before ▸ taken.length_le)

/-- A queue that is over stays so, and nothing is taken in or out. -/
theorem isOver_take (ended : IsOver course.exchange.board key) (action : Action) :
    IsOver (course.take action).exchange.board key ∧
      Moment.arrivals ⟨course.exchange, action⟩ key = [] ∧
      Moment.departures ⟨course.exchange, action⟩ key = [] := by
  obtain ⟨backend, found, closed, nothing⟩ := ended
  obtain ⟨⟨later, here, closedLater, taken⟩, noArrivals⟩ := closed_take found closed action
  rw [nothing, List.suffix_nil] at taken
  refine ⟨⟨later, here, closedLater, taken⟩, noArrivals, ?_⟩
  have before : course.exchange.board.waiting key = [] :=
    (waiting_of_backend? found).trans nothing
  show List.take _ (course.exchange.board.waiting key) = []
  rw [before, List.take_nil]

/-- What a queue took in was handed out, or forgotten at its end, or waits. -/
structure Accounted (course : Course) (key : BackendKey) : Prop where
  all : (course.accepted key).map (·.2) = course.handedOut key ++ course.forgotten key ++
    course.exchange.board.waiting key
  ended : course.forgotten key ≠ [] → IsOver course.exchange.board key

theorem Accounted.take (accounted : course.Accounted key) (action : Action) :
    (course.take action).Accounted key := by
  have moved := Switchboard.arrivals_departures (course.exchange.queues_perform action) key
  have left := Moment.departures_eq ⟨course.exchange, action⟩ key
  have accepted : ((course.take action).accepted key).map (·.2) = (course.accepted key).map (·.2) ++
      Moment.arrivals ⟨course.exchange, action⟩ key := by
    rw [accepted_take, List.map_append, List.map_map]
    exact congrArg _ (List.map_id _)
  have all : ((course.take action).accepted key).map (·.2) = course.handedOut key ++
      course.forgotten key ++ (Moment.handedOut ⟨course.exchange, action⟩ key ++
        Moment.forgotten ⟨course.exchange, action⟩ key ++
          (course.take action).exchange.board.waiting key) := by
    rw [accepted, accounted.all, ← left, List.append_assoc]
    exact congrArg _ moved
  by_cases none : course.forgotten key = []
  · rw [none, List.append_nil] at all
    constructor
    case all =>
      rw [all, handedOut_take, forgotten_take, none]
      simp only [List.append_assoc, List.nil_append]
    case ended =>
      rw [forgotten_take, none]
      exact fun some => (isOver_of_forgotten some).1
  · obtain ⟨ended, -, noDepartures⟩ := isOver_take (accounted.ended none) action
    rw [left, List.append_eq_nil_iff] at noDepartures
    refine ⟨?_, fun _ => ended⟩
    rw [all, handedOut_take, forgotten_take, noDepartures.1, noDepartures.2]
    simp only [List.append_nil, List.nil_append]

theorem accounted_of (settings : Settings) (actions : List Action) (key : BackendKey) :
    (of settings actions).Accounted key :=
  induction (motive := (·.Accounted key)) settings ⟨rfl, fun some => absurd rfl some⟩
    (fun _ action accounted => accounted.take action) actions

/-- A queue that is closed stays closed whatever happens, and takes nothing in any more. -/
theorem closed_takeAll (actions : List Action) {course : Course} {backend : Backend}
    (found : course.exchange.board.backend? key = some backend)
    (closed : backend.queue.closed = true) :
    (actions.foldl take course).accepted key = course.accepted key ∧
      ∃ later, (actions.foldl take course).exchange.board.backend? key = some later ∧
        later.queue.closed = true ∧ later.queue.waiting <:+ backend.queue.waiting := by
  induction actions generalizing course backend with
  | nil => exact ⟨rfl, backend, found, closed, List.suffix_refl _⟩
  | cons action actions inductionHypothesis =>
    obtain ⟨⟨next, here, closedNext, taken⟩, noArrivals⟩ := closed_take found closed action
    obtain ⟨same, later, there, closedLater, takenLater⟩ := inductionHypothesis here closedNext
    refine ⟨?_, later, there, closedLater, takenLater.trans taken⟩
    rw [List.foldl_cons, same, accepted_take, noArrivals, List.map_nil, List.append_nil]

/-! ## The account of a queue -/

/-- What is known of the queue of a backend after a course, whose capacity was to be so great. -/
structure QueueAccounted (course : Course) (capacity : Nat) (key : BackendKey) (backend : Backend) :
    Prop where
  /-- What was taken in was handed out, in order, or forgotten when the backend was dropped, or
  waits. -/
  accounted : (course.accepted key).map (·.2) =
    course.handedOut key ++ course.forgotten key ++ backend.queue.waiting
  forgets : course.forgotten key ≠ [] →
    ∃ moment ∈ course.past, moment.action = .request (.drop key)
  /-- The count is what was taken in less what has gone. -/
  counted : backend.queue.count = backend.queue.waiting.length ∧
    backend.queue.count + (course.handedOut key).length + (course.forgotten key).length =
      (course.accepted key).length
  bounded : backend.queue.capacity = max capacity 1 ∧ backend.queue.count ≤ max capacity 1
  /-- A queue is open while its backend is registered. -/
  open_iff : backend.queue.closed = false ↔ key ∈ course.registrations
  /-- An event is taken in by an open queue with room, and otherwise nothing changes. -/
  takesIn : ∀ event,
    ((course.exchange.board.enqueue key event).1 = .ok () ↔
      backend.queue.closed = false ∧ backend.queue.count < max capacity 1) ∧
    ((course.exchange.board.enqueue key event).1 = .error .closed ↔ backend.queue.closed = true) ∧
    ((course.exchange.board.enqueue key event).1 = .error (.queueFull (max capacity 1)) ↔
      backend.queue.closed = false ∧ backend.queue.count = max capacity 1) ∧
    ((course.exchange.board.enqueue key event).1 = .ok () →
      Moment.arrivals ⟨course.exchange, .request (.enqueue key event)⟩ key = [event]) ∧
    ∀ error, (course.exchange.board.enqueue key event).1 = .error error →
      (course.exchange.board.enqueue key event).2 = course.exchange.board
  /-- The oldest event is received, and the end of a closed queue only when nothing waits. -/
  receives :
    (∀ event rest, backend.queue.waiting = event :: rest →
      (course.exchange.board.receive key).1 = .event event ∧
        (course.exchange.board.receive key).2.waiting key = rest) ∧
    (backend.queue.waiting = [] → (course.exchange.board.receive key).1 =
      if backend.queue.closed then .finished else .empty)
  /-- What is flushed was written, and whatever fails uses up one event that is not written. -/
  flushes : ∀ outcomes, ∃ ending,
    let flushed := course.exchange.board.flush key outcomes
    EventQueue.WrittenOut backend.queue.waiting outcomes ending flushed.2.1
        (flushed.2.2.waiting key) ∧
      EventQueue.passed backend.queue.waiting outcomes ++ flushed.2.2.waiting key =
        backend.queue.waiting ∧
      (∀ count, flushed.1 = .flushed count ↔
        ending = .exhausted ∧ count = flushed.2.1.length) ∧
      (∀ error, flushed.1 = .failed error ↔ ending = .failed error) ∧
      (flushed.1 = .stalled ↔ ending = .stalled)
  /-- A drain goes as far, and it is finished only when a closed queue has nothing left. -/
  drains : ∀ outcomes, ∃ ending,
    let drained := course.exchange.board.drain key outcomes
    EventQueue.WrittenOut backend.queue.waiting outcomes ending drained.2.1
        (drained.2.2.waiting key) ∧
      EventQueue.passed backend.queue.waiting outcomes ++ drained.2.2.waiting key =
        backend.queue.waiting ∧
      (drained.1 = .finished ↔ ending = .exhausted ∧ backend.queue.closed = true) ∧
      (drained.1 = .waiting ↔ ending = .exhausted ∧ backend.queue.closed = false) ∧
      (∀ error, drained.1 = .failed error ↔ ending = .failed error) ∧
      (drained.1 = .stalled ↔ ending = .stalled)
  /-- Closing keeps what waits. -/
  closes : (course.exchange.board.closeBackend key).backend? key =
    some { backend with queue := backend.queue.close }
  /-- After that nothing is taken in, whatever happens. -/
  sealed : backend.queue.closed = true → ∀ actions : List Action,
    (actions.foldl take course).accepted key = course.accepted key ∧
      ∃ later, (actions.foldl take course).exchange.board.backend? key = some later ∧
        later.queue.closed = true ∧ later.queue.waiting <:+ backend.queue.waiting

/-- Along every course the account of every queue is right. -/
theorem queue_accounted (settings : Settings) (actions : List Action) {key : BackendKey}
    {backend : Backend}
    (found : (of settings actions).exchange.board.backend? key = some backend) :
    (of settings actions).QueueAccounted settings.queueCapacity key backend := by
  have accounted := (accounted_of settings actions key).all
  rw [waiting_of_backend? found] at accounted
  have capacity := capacity_of settings actions found
  constructor
  case accounted => exact accounted
  case forgets =>
    intro some
    obtain ⟨moment, among, forgotten⟩ := not_forall₂.1 fun nobody =>
      some (List.flatMap_eq_nil_iff.2 nobody)
    exact ⟨moment, among, drops_of_forgotten forgotten⟩
  case counted =>
    have lengths := congrArg List.length accounted
    simp only [List.length_map, List.length_append] at lengths
    refine ⟨rfl, ?_⟩
    rw [lengths, EventQueue.count]
    omega
  case bounded => exact ⟨capacity, capacity ▸ backend.queue.within⟩
  case open_iff =>
    rw [(orderly_of settings actions).registered, mem_indices]
    constructor
    · exact fun opened => ⟨backend, found, by rw [opened]; rfl⟩
    · rintro ⟨entry, here, opened⟩
      obtain rfl : backend = entry := Option.some.inj (found.symm.trans here)
      simpa using opened
  case takesIn =>
    intro event
    refine ⟨?_, ?_, ?_, ?_, fun error refused => Switchboard.enqueue_error refused⟩
    · rw [enqueue_eq_ok_iff _ found, ← capacity]
      rfl
    · rw [enqueue_eq_error_iff _ found]
      simp
    · rw [enqueue_eq_error_iff _ found, ← capacity]
      simp [EventQueue.count]
    · intro accepted
      exact arrivals_of_append (Switchboard.enqueue_ok accepted).1
  case receives =>
    obtain ⟨answered, left⟩ := receive_fst (of settings actions).exchange.board found
    rw [answered, left]
    refine ⟨fun event rest waits => EventQueue.receive_of_cons waits, fun nothing => ?_⟩
    rw [EventQueue.receive_of_nil nothing]
  case flushes =>
    intro outcomes
    obtain ⟨answered, written, left⟩ :=
      flush_fst (of settings actions).exchange.board found outcomes
    refine ⟨(backend.queue.write outcomes).1, ?_⟩
    simp only [answered, written, left]
    exact ⟨EventQueue.writeOut_writtenOut _ _, EventQueue.passed_left _ _,
      backend.queue.flush_answers outcomes⟩
  case drains =>
    intro outcomes
    obtain ⟨answered, written, left⟩ :=
      drain_fst (of settings actions).exchange.board found outcomes
    refine ⟨(backend.queue.write outcomes).1, ?_⟩
    simp only [answered, written, left]
    exact ⟨EventQueue.writeOut_writtenOut _ _, EventQueue.passed_left _ _,
      backend.queue.drain_answers outcomes⟩
  case closes =>
    rw [backend?, backends_closeBackend]
    exact getElem?_modify_of_some _ found
  case sealed => exact fun closed actions => closed_takeAll actions found closed

/-- Two notices for a backend whose queue is to hold nothing, and so holds one; the drain fails. -/
def crowd : List Action :=
  [.request (.register "room" "desk" ["connect"]),
    .request (.enqueue 0 (.service "room" "first" (.text "one"))),
    .request (.enqueue 0 (.service "room" "second" (.text "two"))),
    .request (.drain 0 [.failed ⟨"gone"⟩]),
    .request (.enqueue 0 (.service "room" "third" (.text "three"))),
    .request (.close 0)]

/-- The first one was handed out, the second one was refused, and the third one waits. -/
theorem crowd_accounted :
    ∃ backend, (of { Settings.standard with queueCapacity := 0 } crowd).exchange.board.backend? 0 =
        some backend ∧
      backend.queue.waiting = [.service "room" "third" (.text "three")] ∧
      (of { Settings.standard with queueCapacity := 0 } crowd).QueueAccounted 0 0 backend :=
  ⟨_, rfl, rfl, queue_accounted _ _ rfl⟩

end Course

end HubRelay
