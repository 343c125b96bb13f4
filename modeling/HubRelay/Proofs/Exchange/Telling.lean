import HubRelay.Proofs.Exchange.Parting
import HubRelay.Proofs.Switchboard.Hubs

/-!
Contract: notices for backends.

Owns: putting a notice into the queues of some backends and nowhere else; that notifying a hub and
announcing a shutdown do just this, once for each backend that is meant, and how many are counted.

Does not own: who writes out what waits in a queue.

Notices are put into queues one after the other, following the lists of registries.  Books that are
in order list every open backend once, and a closed one takes nothing in, so it does not matter how
the list goes.
-/

namespace HubRelay

namespace Backend

variable {backend : Backend} {payload : Payload}

/-- A notice for a backend, in the name of its hub and of itself. -/
def notice (backend : Backend) (payload : Payload) : Event :=
  .service backend.hub backend.id payload

/-- A backend that was told something, if its queue took it in. -/
def told (backend : Backend) (payload : Payload) : Backend :=
  match backend.queue.enqueue (backend.notice payload) with
  | .ok queue => { backend with queue := queue }
  | .error _ => backend

theorem told_of_room (room : backend.queue.hasRoom = true) (payload : Payload) :
    (backend.told payload).queue.waiting = backend.queue.waiting ++ [backend.notice payload] ∧
      (backend.told payload).unladen = backend.unladen := by
  obtain ⟨queue, accepted⟩ :=
    (backend.queue.enqueue_isOk_iff_hasRoom (backend.notice payload)).2 room
  obtain ⟨grown, same⟩ := EventQueue.enqueue_ok accepted
  rw [told, accepted]
  exact ⟨grown, congrArg (fun emptied => { backend with queue := emptied }) same⟩

theorem told_of_noRoom (full : backend.queue.hasRoom = false) (payload : Payload) :
    backend.told payload = backend := by
  unfold told
  cases taken : backend.queue.enqueue (backend.notice payload) with
  | error error => rfl
  | ok queue =>
    rw [(backend.queue.enqueue_isOk_iff_hasRoom _).1 ⟨queue, taken⟩] at full
    contradiction

/-- Who is told something stays who it is. -/
theorem told_unladen (backend : Backend) (payload : Payload) :
    (backend.told payload).unladen = backend.unladen := by
  cases room : backend.queue.hasRoom with
  | false => rw [told_of_noRoom room]
  | true => exact (told_of_room room payload).2

theorem told_hub (backend : Backend) (payload : Payload) :
    (backend.told payload).hub = backend.hub :=
  congrArg (·.hub) (backend.told_unladen payload)

end Backend

namespace Switchboard

/-- Something is told to the backends that are chosen, and nothing else happens. -/
def tell (board : Switchboard) (chosen : BackendKey → Backend → Bool) (payload : Payload) :
    Switchboard :=
  { board with backends := board.backends.mapIdx fun key backend =>
      if chosen key backend then backend.told payload else backend }

variable {board : Switchboard} {held : ClientKey → Bool}
  {chosen other : BackendKey → Backend → Bool} {payload : Payload} {hub : String}
  {key : BackendKey} {backend : Backend}

theorem backend?_tell (board : Switchboard) (chosen : BackendKey → Backend → Bool)
    (payload : Payload) (key : BackendKey) :
    (board.tell chosen payload).backend? key = (board.backend? key).map fun backend =>
      if chosen key backend then backend.told payload else backend :=
  List.getElem?_mapIdx

/-- It matters only who is chosen of those whose queues have room. -/
theorem tell_congr (same : ∀ key backend, board.backend? key = some backend →
      backend.queue.hasRoom = true → chosen key backend = other key backend) :
    board.tell chosen payload = board.tell other payload := by
  refine congrArg (fun backends => { board with backends := backends })
    (mapIdx_chosen_congr fun key backend found => ?_)
  cases room : backend.queue.hasRoom with
  | false => exact Or.inl (Backend.told_of_noRoom room payload)
  | true => exact Or.inr (same key backend found room)

theorem tell_of_nobody (nobody : ∀ key backend, board.backend? key = some backend →
      backend.queue.hasRoom = true → chosen key backend = false) :
    board.tell chosen payload = board := by
  refine congrArg (fun backends => { board with backends := backends })
    (mapIdx_of_nobody fun key backend found => ?_)
  cases room : backend.queue.hasRoom with
  | false => exact Or.inl (Backend.told_of_noRoom room payload)
  | true => exact Or.inr (nobody key backend found room)

/-- Telling some and then others is telling all of them. -/
theorem tell_tell
    (apart : ∀ key backend, chosen key backend = true → other key backend = false)
    (blind : ∀ key backend, other key (backend.told payload) = other key backend) :
    (board.tell chosen payload).tell other payload =
      board.tell (fun key backend => chosen key backend || other key backend) payload :=
  congrArg (fun backends => { board with backends := backends })
    (mapIdx_mapIdx_of_apart apart blind)

/-! ## One backend -/

theorem hasRoom_of_backend? (found : board.backend? key = some backend) :
    board.hasRoom key = backend.queue.hasRoom := by
  rw [hasRoom, found, Option.any_some]

/-- A notice for one backend is put into its queue if there is room. -/
theorem enqueue_notice (found : board.backend? key = some backend) (payload : Payload) :
    ∃ answer, board.enqueue key (backend.notice payload) =
        (answer, board.tell (fun other _ => other == key) payload) ∧
      (answer = .ok () ↔ backend.queue.hasRoom = true) := by
  have alone (entry : Backend) (here : board.backends[key]? = some entry) : backend = entry :=
    Option.some.inj (found.symm.trans here)
  cases taken : backend.queue.enqueue (backend.notice payload) with
  | error error =>
    have full : backend.queue.hasRoom = false := by
      refine Bool.eq_false_iff.2 fun room => ?_
      obtain ⟨queue, accepted⟩ := (backend.queue.enqueue_isOk_iff_hasRoom _).2 room
      rw [taken] at accepted
      contradiction
    have nobody : board.tell (fun other _ => other == key) payload = board := by
      refine tell_of_nobody fun other entry here room => beq_eq_false_iff_ne.2 fun same => ?_
      rw [← alone entry (same ▸ here), full] at room
      contradiction
    refine ⟨.error error, ?_, by simp [full]⟩
    rw [nobody, enqueue, found]
    simp only [taken]
  | ok queue =>
    have room := (backend.queue.enqueue_isOk_iff_hasRoom _).1 ⟨queue, taken⟩
    have asked : board.enqueue key (backend.notice payload) =
        (.ok (), board.setQueue key queue) := by
      rw [enqueue, found]
      simp only [taken]
    refine ⟨.ok (), asked.trans (Prod.ext rfl ?_), by simp [room]⟩
    refine congrArg (fun backends => { board with backends := backends })
      (modify_eq_mapIdx fun entry here => ?_)
    obtain rfl := alone entry here
    rw [Backend.told, taken]

theorem hasRoom_tell_ne {first : BackendKey} (different : first ≠ key) (payload : Payload) :
    (board.tell (fun other _ => other == first) payload).hasRoom key = board.hasRoom key := by
  have same : (board.tell (fun other _ => other == first) payload).backend? key =
      board.backend? key := by
    rw [backend?_tell]
    simp [Ne.symm different]
  rw [hasRoom, same, hasRoom]

theorem backendIn_tell (board : Switchboard) (chosen : BackendKey → Backend → Bool)
    (payload : Payload) (hub : String) (key : BackendKey) :
    (board.tell chosen payload).backendIn hub key = board.backendIn hub key := by
  rw [backendIn, backend?_tell, Option.any_map, backendIn]
  refine congrArg (fun test => (board.backend? key).any test) (funext fun backend => ?_)
  show ((if chosen key backend then backend.told payload else backend).hub == hub) = _
  split
  · rw [Backend.told_hub]
  · rfl

/-! ## The backends of a hub -/

/-- A notice is put once into the queue of each backend of a list that has room. -/
theorem notifyAll_eq_tell (hub : String) (payload : Payload) (keys : List BackendKey)
    (board : Switchboard) (once : keys.Nodup)
    (members : ∀ key ∈ keys, board.backendIn hub key = true) :
    board.notifyAll hub payload keys =
      (keys.countP board.hasRoom, board.tell (fun key _ => keys.contains key) payload) := by
  induction keys generalizing board with
  | nil =>
    have nobody : board.tell (fun key _ => [].contains key) payload = board :=
      tell_of_nobody fun _ _ _ _ => rfl
    rw [nobody]
    rfl
  | cons key keys inductionHypothesis =>
    obtain ⟨new, rest⟩ := List.nodup_cons.1 once
    obtain ⟨backend, found, inHub⟩ :=
      (Option.any_eq_true _ _).1 (members key List.mem_cons_self)
    obtain ⟨answer, asked, accepts⟩ := enqueue_notice found payload
    have own : Event.service hub (((board.backend? key).map (·.id)).getD "") payload =
        backend.notice payload := by
      rw [found, ← beq_iff_eq.1 inHub]
      rfl
    have counts : keys.countP (board.tell (fun other _ => other == key) payload).hasRoom =
        keys.countP board.hasRoom := by
      refine List.countP_congr fun other among => ?_
      have different : key ≠ other := by
        rintro rfl
        exact new among
      rw [hasRoom_tell_ne different]
    have together : (board.tell (fun other _ => other == key) payload).tell
          (fun other _ => keys.contains other) payload =
        board.tell (fun other _ => (key :: keys).contains other) payload := by
      rw [tell_tell ?_ fun _ _ => rfl]
      · simp only [List.contains_cons]
      · intro other _ same
        rw [beq_iff_eq.1 same]
        simpa using new
    have later := inductionHypothesis (board.tell (fun other _ => other == key) payload) rest
      fun other among => (backendIn_tell _ _ _ _ _).trans
        (members other (List.mem_cons_of_mem key among))
    simp only [notifyAll, own, asked]
    cases answer with
    | ok =>
      have room : board.hasRoom key = true :=
        (hasRoom_of_backend? found).trans (accepts.1 rfl)
      simp only [later, counts, together, List.countP_cons, room, if_true]
    | error error =>
      have full : board.hasRoom key = false := by
        rw [hasRoom_of_backend? found]
        refine Bool.eq_false_iff.2 fun room => ?_
        have accepted := accepts.2 room
        contradiction
      simp only [later, counts, together, List.countP_cons, full, Bool.false_eq_true, if_false,
        Nat.add_zero]

/-- A notice for a hub is put once into the queue of each of its backends that has room, and these
are counted. -/
theorem notify_eq_tell (sound : Sound board held none) (hub : String) (payload : Payload) :
    board.notify hub payload =
      (board.backends.countP fun backend => backend.hub == hub && backend.queue.hasRoom,
        board.tell (fun _ backend => backend.hub == hub) payload) := by
  unfold notify
  cases mapped : (board.hub? hub).bind board.registryOf? with
  | none =>
    -- a hub without a registry has no open backend
    have nobody (key : BackendKey) (backend : Backend) (found : board.backend? key = some backend)
        (room : backend.queue.hasRoom = true) : (backend.hub == hub) = false := by
      refine beq_eq_false_iff_ne.2 fun same => ?_
      have opened := EventQueue.open_of_hasRoom room
      obtain ⟨registry, here, -⟩ := sound.registry_of_backend found opened
      rw [← same, sound.backendMapped found opened, Option.bind_some, here] at mapped
      contradiction
    rw [tell_of_nobody nobody, List.countP_eq_zero.2]
    intro backend member
    obtain ⟨key, found⟩ := List.mem_iff_getElem?.1 member
    cases room : backend.queue.hasRoom with
    | false => simp
    | true => simp [nobody key backend found room]
  | some registry =>
    obtain ⟨registryKey, mapped, found⟩ := Option.bind_eq_some_iff.1 mapped
    have listed := sound.backends_eq mapped found
    have once : registry.backends.Nodup := by
      rw [listed]
      exact (nodup_indices _ _).filter _
    have members (key : BackendKey) (among : key ∈ registry.backends) :
        board.backendIn hub key = true := by
      rw [listed] at among
      exact (List.mem_filter.1 among).2
    simp only [notifyAll_eq_tell hub payload _ board once members]
    refine Prod.ext ?_ ?_
    · -- those of the list with room are those of the hub with room
      show registry.backends.countP board.hasRoom = _
      have agrees (index : BackendKey) (backend : Backend)
          (here : board.backends[index]? = some backend) :
          (board.hasRoom index && board.backendIn hub index) =
            (backend.hub == hub && backend.queue.hasRoom) := by
        rw [hasRoom_of_backend? here, backendIn,
          show board.backend? index = some backend from here, Option.any_some, Bool.and_comm]
      rw [listed, List.countP_eq_length_filter, List.filter_filter, filter_indices agrees,
        ← length_indices]
      refine congrArg List.length (indices_congr fun index backend _ => ?_)
      simp only [EventQueue.hasRoom]
      cases backend.queue.closed <;> simp
    · refine tell_congr fun index backend here room => ?_
      have opened : (!backend.queue.closed) = true := (Bool.and_eq_true_iff.1 room).1
      rw [Bool.eq_iff_iff, List.contains_iff_mem, listed, List.mem_filter, mem_indices, backendIn,
        here, Option.any_some]
      exact ⟨fun member => member.2, fun same => ⟨⟨backend, here, opened⟩, same⟩⟩

/-! ## Shutting down -/

/-- The notice is put once into the queue of each backend of the hubs that has room. -/
theorem announceShutdown_eq_tell (hubs : List String) (board : Switchboard)
    (sound : Sound board held none) (once : hubs.Nodup) :
    board.announceShutdown hubs =
      board.tell (fun _ backend => hubs.contains backend.hub) shutdownNotice := by
  induction hubs generalizing board with
  | nil => exact (tell_of_nobody fun _ _ _ _ => rfl).symm
  | cons hub hubs inductionHypothesis =>
    obtain ⟨new, rest⟩ := List.nodup_cons.1 once
    have traffic : Traffic none board (board.notify hub shutdownNotice).2 :=
      traffic_notify board hub shutdownNotice
    have later := inductionHypothesis _ (sound.of_sameBooks traffic.books) rest
    rw [announceShutdown, later, notify_eq_tell sound, tell_tell]
    · simp only [List.contains_cons]
    · intro _ backend same
      rw [beq_iff_eq.1 same]
      simpa using new
    · intro _ backend
      rw [Backend.told_hub]

/-- When all hubs have had their turn, every backend with room has been told. -/
theorem announceShutdown_hubNames (sound : Sound board held none) :
    board.announceShutdown board.hubNames = board.tell (fun _ _ => true) shutdownNotice := by
  rw [announceShutdown_eq_tell board.hubNames board sound board.hubs.nodup_names]
  refine tell_congr fun key backend found room => ?_
  rw [List.contains_iff_mem, hubNames, Dictionary.mem_names_iff]
  exact ⟨_, sound.backendMapped found (EventQueue.open_of_hasRoom room)⟩

end Switchboard

end HubRelay
