import HubRelay.Proofs.Exchange.Telling

/-!
Contract: whom notices reach, and when they are written out.

Owns: that a notice for a hub and the notice of a shutdown reach every backend that is meant and has
room, once, and touch nothing else; that a shutdown stops nothing before everybody has been told;
and that what waits for a backend is written out before what comes later.

Does not own: what backends do with notices.

Nothing that happens takes from a queue but receiving, writing and dropping its backend, so a notice
stays behind what waited before it, and before what comes, until somebody writes the queue out.
-/

namespace HubRelay

open Switchboard

/-- What becomes of a switchboard on which the backends that are meant are told something. -/
structure Switchboard.Notified (meant : Backend → Bool) (payload : Payload)
    (before after : Switchboard) : Prop where
  /-- A backend that is meant and has room: a notice in the name of its hub and of itself is last in
  its queue, and nothing else of it changes. -/
  reached : ∀ key backend, before.backend? key = some backend → meant backend = true →
    backend.queue.hasRoom = true → ∃ later, after.backend? key = some later ∧
      later.queue.waiting = backend.queue.waiting ++
        [⟨.service, backend.id, backend.hub, .empty, some payload⟩] ∧
      later.unladen = backend.unladen
  /-- Any other backend. -/
  spared : ∀ key backend, before.backend? key = some backend →
    meant backend = false ∨ backend.queue.hasRoom = false → after.backend? key = some backend
  nobodyElse : after.backends.length = before.backends.length
  /-- Everything but backends: the settings, the time, whether relays are stopped, hubs and
  registries, clients with their handshakes and what is handed over for them, and ids. -/
  otherwise : { after with backends := before.backends } = before

theorem Switchboard.notified_tell (board : Switchboard) (meant : Backend → Bool)
    (payload : Payload) : Notified meant payload board (board.tell (fun _ => meant) payload) where
  reached := by
    intro key backend found isMeant room
    obtain ⟨grown, same⟩ := Backend.told_of_room room payload
    refine ⟨backend.told payload, ?_, grown, same⟩
    rw [backend?_tell, found, Option.map_some, isMeant, if_pos rfl]
  spared := by
    intro key backend found spares
    rw [backend?_tell, found, Option.map_some]
    rcases spares with notMeant | full
    · rw [notMeant, if_neg Bool.false_ne_true]
    · rw [Backend.told_of_noRoom full, ite_self]
  nobodyElse := List.length_mapIdx
  otherwise := rfl

/-! ## Writing out -/

/-- A stream that works is written everything that waits. -/
theorem Switchboard.flush_of_working (board : Switchboard) (key : BackendKey)
    {outcomes : List EventQueue.WriteOutcome} (works : ∀ outcome ∈ outcomes, outcome = .written) :
    (board.flush key outcomes).1 = .flushed (board.waiting key).length ∧
      (board.flush key outcomes).2.1 = board.waiting key ∧
      (board.flush key outcomes).2.2.waiting key = [] := by
  cases found : board.backend? key with
  | none =>
    rw [waiting_of_missing found, flush, found]
    exact ⟨rfl, rfl, waiting_of_missing found⟩
  | some backend =>
    obtain ⟨answered, written, left⟩ := flush_fst board found outcomes
    obtain ⟨ends, all, nothing⟩ := backend.queue.write_of_working works
    rw [answered, written, left, waiting_of_backend? found]
    exact ⟨((backend.queue.flush_answers outcomes).1 _).2 ⟨ends, by rw [all]⟩, all, nothing⟩

/-- Whether an action takes events out of the queue of a backend, or drops it. -/
def Action.takesFrom (key : BackendKey) : Action → Bool
  | .request (.receive backend) | .request (.flush backend _) | .request (.drain backend _)
  | .request (.drop backend) => backend == key
  | _ => false

theorem Moment.departures_of_left {moment : Moment} {key : BackendKey}
    (leaves : moment.action.takesFrom key = false) : moment.departures key = [] := by
  rw [departures_eq, List.append_eq_nil_iff]
  constructor
  · unfold handedOut
    split
    case h_4 => rfl
    all_goals
      next acted =>
        rw [acted] at leaves
        exact if_neg (beq_eq_false_iff_ne.1 leaves)
  · unfold forgotten
    split
    · next acted =>
      rw [acted] at leaves
      exact if_neg (beq_eq_false_iff_ne.1 leaves)
    · rfl

namespace Course

/-- What waits for a backend goes on waiting, before what comes, while nothing is taken out. -/
theorem waiting_of_left (actions : List Action) {key : BackendKey} (course : Course)
    (leaves : ∀ action ∈ actions, action.takesFrom key = false) :
    ∃ since, (actions.foldl take course).accepted key = course.accepted key ++ since ∧
      (actions.foldl take course).exchange.board.waiting key =
        course.exchange.board.waiting key ++ since.map (·.2) := by
  induction actions generalizing course with
  | nil => exact ⟨[], (List.append_nil _).symm, (List.append_nil _).symm⟩
  | cons action actions inductionHypothesis =>
    obtain ⟨since, accepted, waits⟩ := inductionHypothesis (course.take action)
      fun later among => leaves later (List.mem_cons_of_mem _ among)
    have moved := arrivals_departures (course.exchange.queues_perform action) key
    have stays : Moment.departures ⟨course.exchange, action⟩ key = [] :=
      Moment.departures_of_left (leaves action List.mem_cons_self)
    refine ⟨(Moment.arrivals ⟨course.exchange, action⟩ key).map
      (fun event => (Moment.author ⟨course.exchange, action⟩, event)) ++ since, ?_, ?_⟩
    · rw [List.foldl_cons, accepted, accepted_take, List.append_assoc]
    · have next : (course.take action).exchange.board.waiting key =
          course.exchange.board.waiting key ++
            Moment.arrivals ⟨course.exchange, action⟩ key :=
        (moved.trans (congrArg (· ++ _) stays)).symm
      have events : ((Moment.arrivals ⟨course.exchange, action⟩ key).map
          fun event => (Moment.author ⟨course.exchange, action⟩, event)).map (·.2) =
            Moment.arrivals ⟨course.exchange, action⟩ key := by
        rw [List.map_map]
        exact List.map_id _
      rw [List.foldl_cons, waits, next, List.map_append, events, List.append_assoc]

/-! ## Whom notices reach -/

/-- What is known of notices after a course. -/
structure Notices (course : Course) : Prop where
  /-- A notice for a hub reaches the backends of the hub, and those that have room are counted. -/
  notify : ∀ hub payload,
    Notified (·.hub == hub) payload course.exchange.board
        (course.exchange.board.notify hub payload).2 ∧
      (course.exchange.board.notify hub payload).1 = course.exchange.board.backends.countP
        fun backend => backend.hub == hub && backend.queue.hasRoom
  /-- While a shutdown is announced, the backends of the hubs that have had their turn have been
  told, and nothing has been stopped. -/
  announce : ∀ hubs, hubs <+: course.exchange.board.hubNames →
    Notified (fun backend => hubs.contains backend.hub) shutdownNotice course.exchange.board
      (course.exchange.board.announceShutdown hubs)
  /-- When all hubs have had their turn, every backend has been told, and that is when relays are
  stopped. -/
  shutdown : Notified (fun _ => true) shutdownNotice course.exchange.board
      (course.exchange.board.announceShutdown course.exchange.board.hubNames) ∧
    course.exchange.board.shutdown = { course.exchange.board.announceShutdown
      course.exchange.board.hubNames with stopped := true }
  /-- A stream that works is written what waited for a backend and then the notice. -/
  flush : ∀ key backend (outcomes : List EventQueue.WriteOutcome),
    course.exchange.board.backend? key = some backend →
    backend.queue.hasRoom = true → (∀ outcome ∈ outcomes, outcome = .written) →
    let flushed := course.exchange.board.shutdown.flush key outcomes
    flushed.1 = .flushed (backend.queue.waiting.length + 1) ∧
      flushed.2.1 = backend.queue.waiting ++ [backend.notice shutdownNotice] ∧
      flushed.2.2.waiting key = []
  /-- So it is if other things happen first, as long as nothing is taken out of the queue; what was
  taken in since comes after the notice. -/
  flushLater : ∀ key backend (outcomes : List EventQueue.WriteOutcome) (later : List Action),
    course.exchange.board.backend? key = some backend →
    backend.queue.hasRoom = true → (∀ outcome ∈ outcomes, outcome = .written) →
    (∀ action ∈ later, action.takesFrom key = false) →
    let stopped := course.take (.request .shutdown)
    let flushed := (later.foldl take stopped).exchange.board.flush key outcomes
    ∃ since, (later.foldl take stopped).accepted key = stopped.accepted key ++ since ∧
      flushed.1 = .flushed (backend.queue.waiting.length + 1 + since.length) ∧
      flushed.2.1 = backend.queue.waiting ++ [backend.notice shutdownNotice] ++ since.map (·.2)

variable {course : Course} {key : BackendKey} {backend : Backend}

theorem Orderly.waiting_shutdown (orderly : course.Orderly)
    (found : course.exchange.board.backend? key = some backend)
    (room : backend.queue.hasRoom = true) :
    course.exchange.board.shutdown.waiting key =
      backend.queue.waiting ++ [backend.notice shutdownNotice] := by
  obtain ⟨later, here, grown, -⟩ :=
    (notified_tell course.exchange.board (fun _ => true) shutdownNotice).reached key backend found
      rfl room
  rw [Switchboard.shutdown, announceShutdown_hubNames orderly.sound]
  exact (waiting_of_backend? here).trans grown

theorem Orderly.notices (orderly : course.Orderly) : course.Notices where
  notify := by
    intro hub payload
    rw [notify_eq_tell orderly.sound]
    exact ⟨notified_tell _ _ payload, rfl⟩
  announce := by
    intro hubs begins
    rw [announceShutdown_eq_tell hubs _ orderly.sound
      (begins.sublist.nodup course.exchange.board.hubs.nodup_names)]
    exact notified_tell _ _ _
  shutdown := by
    refine ⟨?_, rfl⟩
    rw [announceShutdown_hubNames orderly.sound]
    exact notified_tell _ _ _
  flush := by
    intro key backend outcomes found room works
    obtain ⟨answered, written, left⟩ :=
      course.exchange.board.shutdown.flush_of_working key works
    have waits := orderly.waiting_shutdown found room
    refine ⟨?_, written.trans waits, left⟩
    rw [answered, waits, List.length_append, List.length_singleton]
  flushLater := by
    intro key backend outcomes later found room works leaves
    obtain ⟨since, accepted, waits⟩ :=
      waiting_of_left later (course.take (.request .shutdown)) leaves
    obtain ⟨answered, written, -⟩ :=
      (later.foldl take (course.take (.request .shutdown))).exchange.board.flush_of_working key
        works
    have waited : (course.take (.request .shutdown)).exchange.board.waiting key =
        backend.queue.waiting ++ [backend.notice shutdownNotice] :=
      orderly.waiting_shutdown found room
    rw [waited] at waits
    refine ⟨since, accepted, ?_, written.trans waits⟩
    rw [answered, waits]
    simp only [List.length_append, List.length_singleton, List.length_map]

/-- Along every course, a notice reaches every backend that is meant and has room, once, and touches
nothing else; and a shutdown stops relays only after that. -/
theorem notices_reach (settings : Settings) (actions : List Action) :
    (of settings actions).Notices :=
  (orderly_of settings actions).notices

/-- Two backends of one hub, of which one has no room, and one of another hub. -/
def audience : List Action :=
  [.request (.register "room" "desk" []), .request (.register "room" "screen" []),
    .request (.register "hall" "door" []), .request (.notify "hall" (.text "open")),
    .request (.enqueue 0 (.service "room" "first" (.text "one")))]

example : ((of { Settings.standard with queueCapacity := 1 } audience).exchange.board.notify "room"
    (.text "two")).1 = 1 := by decide

end Course

end HubRelay
