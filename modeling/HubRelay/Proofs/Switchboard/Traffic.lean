import HubRelay.Proofs.Switchboard.Change

/-!
Contract: which changes the operations of a switchboard make.

Owns: for each operation, that it is traffic, or only takes from queues, or lets everything go on
while somebody comes or leaves; and what putting an event into a queue does.

Does not own: the books when somebody comes or leaves.
-/

namespace HubRelay

namespace Switchboard

variable {touched : Option ClientKey} {board : Switchboard}

/-! ## Putting events into queues -/

/-- An event that is taken in waits behind all others of its backend, and nothing else changes. -/
theorem enqueue_ok {key : BackendKey} {event : Event}
    (accepted : (board.enqueue key event).1 = .ok ()) :
    (board.enqueue key event).2.waiting key = board.waiting key ++ [event] ∧
      ∀ other ≠ key, (board.enqueue key event).2.waiting other = board.waiting other := by
  unfold enqueue at accepted ⊢
  cases found : board.backend? key with
  | none => simp [found] at accepted
  | some backend =>
    cases taken : backend.queue.enqueue event with
    | error error => simp [found, taken] at accepted
    | ok queue =>
      simp only [taken]
      refine ⟨?_, fun other far => waiting_setQueue_ne board queue (Ne.symm far)⟩
      rw [waiting_setQueue_self queue found, waiting_of_backend? found]
      exact (EventQueue.enqueue_ok taken).1

/-- An event that is not taken in changes nothing at all. -/
theorem enqueue_error {key : BackendKey} {event : Event} {error : RouteError}
    (refused : (board.enqueue key event).1 = .error error) :
    (board.enqueue key event).2 = board := by
  unfold enqueue at refused ⊢
  cases found : board.backend? key with
  | none => rfl
  | some backend =>
    cases taken : backend.queue.enqueue event with
    | error error => simp [taken]
    | ok queue => simp [found, taken] at refused

theorem traffic_enqueue (board : Switchboard) (key : BackendKey) (event : Event) :
    Traffic touched board (board.enqueue key event).2 := by
  unfold enqueue
  cases found : board.backend? key with
  | none => exact .refl board
  | some backend =>
    cases taken : backend.queue.enqueue event with
    | error error =>
      simp only [taken]
      exact .refl board
    | ok queue =>
      obtain ⟨grown, same⟩ := EventQueue.enqueue_ok taken
      simp only [taken]
      exact traffic_setQueue queue found same ⟨[event], grown.symm⟩

theorem traffic_notifyAll (hub : String) (payload : Payload) (keys : List BackendKey)
    (board : Switchboard) : Traffic touched board (board.notifyAll hub payload keys).2 := by
  induction keys generalizing board with
  | nil => exact .refl board
  | cons key keys inductionHypothesis =>
    have first : Traffic touched board (board.enqueue key
        (.service hub (((board.backend? key).map (·.id)).getD "") payload)).2 :=
      traffic_enqueue board key _
    rw [notifyAll]
    split
    · next later answered =>
      rw [answered] at first
      exact first.trans (inductionHypothesis later)
    · next error later answered =>
      rw [answered] at first
      exact first.trans (inductionHypothesis later)

theorem traffic_notify (board : Switchboard) (hub : String) (payload : Payload) :
    Traffic touched board (board.notify hub payload).2 := by
  unfold notify
  split
  · exact .refl board
  · exact traffic_notifyAll hub payload _ board

theorem traffic_announceShutdown (hubs : List String) (board : Switchboard) :
    Traffic touched board (board.announceShutdown hubs) := by
  induction hubs generalizing board with
  | nil => exact .refl board
  | cons hub hubs inductionHypothesis =>
    exact (traffic_notify board hub shutdownNotice).trans (inductionHypothesis _)

theorem traffic_shutdown (board : Switchboard) : Traffic touched board board.shutdown := by
  have announced : Traffic touched board (board.announceShutdown board.hubNames) :=
    traffic_announceShutdown board.hubNames board
  refine announced.trans ⟨⟨onward_of_grown rfl (fun _ => rfl) (List.prefix_refl _), ?_⟩, ?_⟩
  · exact .refl (board.announceShutdown board.hubNames)
  · exact ⟨rfl, rfl, rfl, rfl, rfl⟩

theorem traffic_pass (board : Switchboard) (milliseconds : Nat) :
    Traffic touched board (board.pass milliseconds) :=
  ⟨⟨onward_of_grown rfl id (List.prefix_refl _), .refl board⟩, ⟨rfl, rfl, rfl, rfl, rfl⟩⟩

/-! ## Handshakes and what is handed over -/

theorem traffic_decide (board : Switchboard) (key : ClientKey) (decision : Decision) :
    Traffic touched board (board.decide key decision).2 := by
  unfold decide
  cases found : board.client? key with
  | none => exact .refl board
  | some client =>
    refine traffic_of_continues key _ fun same foundSame => ?_
    obtain rfl : client = same := Option.some.inj (found.symm.trans foundSame)
    exact client.continues_acknowledge board.now decision

theorem traffic_tryAcknowledge (board : Switchboard) (hub : String) (approval : Approval) :
    Traffic touched board (board.tryAcknowledge hub approval).2 := by
  unfold tryAcknowledge
  split
  · exact .refl board
  · split
    · exact .refl board
    · exact traffic_decide board _ approval.decision

theorem traffic_watch (board : Switchboard) (key : ClientKey) :
    Traffic touched board (board.watch key) :=
  traffic_of_continues key _ fun _ _ => Client.Onward.continues ⟨rfl, fun _ => rfl⟩ rfl

theorem traffic_unwatch (board : Switchboard) (key : ClientKey) :
    Traffic touched board (board.unwatch key) :=
  traffic_of_continues key _ fun _ _ => Client.Onward.continues ⟨rfl, fun _ => rfl⟩ rfl

theorem traffic_lookAfter (board : Switchboard) (key : ClientKey) :
    Traffic touched board (board.lookAfter key) := by
  unfold lookAfter
  cases found : board.client? key with
  | none => exact .refl board
  | some client =>
    by_cases nobody : client.waiters = 0
    · simp only [nobody, ↓reduceIte]
      exact .refl board
    · simp only [nobody, ↓reduceIte]
      refine traffic_of_continues key _ fun same foundSame => ?_
      obtain rfl : client = same := Option.some.inj (found.symm.trans foundSame)
      exact client.continues_poll board.now

theorem traffic_send (board : Switchboard) (key : ClientKey) (payload : Payload) :
    Traffic touched board (board.send key payload).2 := by
  unfold send
  cases outbound : (board.client? key).bind (·.outbound) with
  | none => exact .refl board
  | some waiting =>
    refine traffic_of_continues key _ fun client found => ⟨client.onward_outbound _, ?_⟩
    rw [found] at outbound
    refine ⟨[payload], ?_⟩
    show some (waiting ++ [payload]) = client.outbound.map (· ++ [payload])
    rw [show client.outbound = some waiting from outbound]
    rfl

theorem traffic_sendAll (payload : Payload) (keys : List ClientKey) (board : Switchboard) :
    Traffic touched board (board.sendAll payload keys).2 := by
  induction keys generalizing board with
  | nil => exact .refl board
  | cons key keys inductionHypothesis =>
    exact (traffic_send board key payload).trans (inductionHypothesis _)

theorem traffic_broadcast (board : Switchboard) (hub : String) (payload : Payload) :
    Traffic touched board (board.broadcast hub payload).2 := by
  unfold broadcast
  split
  · exact .refl board
  · exact traffic_sendAll payload _ board

theorem traffic_sendToConnection (board : Switchboard) (hub connectionId : String)
    (payload : Payload) :
    Traffic touched board (board.sendToConnection hub connectionId payload).2 := by
  unfold sendToConnection
  split
  · exact .refl board
  · exact traffic_send board _ payload

/-! ## Taking events out -/

/-- What happens while events are only taken out: nobody is touched, and the books stay. -/
structure Taking (before after : Switchboard) : Prop extends Onward none before after where
  shrinking : Shrinking before after
  books : SameBooks before after

theorem shrinking_setQueue {key : BackendKey} {backend : Backend} (queue : EventQueue)
    (found : board.backend? key = some backend)
    (left : queue.waiting <:+ backend.queue.waiting) :
    Shrinking board (board.setQueue key queue) := by
  intro other
  by_cases here : key = other
  · subst here
    rw [waiting_setQueue_self queue found, waiting_of_backend? found]
    exact left
  · have elsewhere := waiting_setQueue_ne board queue here
    exact elsewhere ▸ List.suffix_refl _

theorem Taking.refl (board : Switchboard) : Taking board board :=
  ⟨.refl board, fun _ => List.suffix_refl _, .refl board⟩

theorem taking_setQueue {key : BackendKey} {backend : Backend} (queue : EventQueue)
    (found : board.backend? key = some backend)
    (left : queue.waiting <:+ backend.queue.waiting ∧ queue.emptied = backend.queue.emptied) :
    Taking board (board.setQueue key queue) :=
  ⟨onward_of_grown rfl id (List.prefix_refl _), shrinking_setQueue queue found left.1,
    sameBooks_setQueue queue found left.2⟩

theorem taking_receive (board : Switchboard) (key : BackendKey) :
    Taking board (board.receive key).2 := by
  unfold receive
  cases found : board.backend? key with
  | none => exact .refl board
  | some backend => exact taking_setQueue _ found backend.queue.receive_suffix

theorem taking_flush (board : Switchboard) (key : BackendKey)
    (outcomes : List EventQueue.WriteOutcome) : Taking board (board.flush key outcomes).2.2 := by
  unfold flush
  cases found : board.backend? key with
  | none => exact .refl board
  | some backend => exact taking_setQueue _ found (backend.queue.write_suffix outcomes)

theorem taking_drain (board : Switchboard) (key : BackendKey)
    (outcomes : List EventQueue.WriteOutcome) : Taking board (board.drain key outcomes).2.2 := by
  unfold drain
  cases found : board.backend? key with
  | none => exact .refl board
  | some backend => exact taking_setQueue _ found (backend.queue.write_suffix outcomes)

/-! ## Coming and going -/

/-- Only clients and backends that are new, and for which nothing waits, are added. -/
theorem steady_of_grown {before after : Switchboard} (backends : List Backend)
    (settings : after.settings = before.settings) (stopped : after.stopped = before.stopped)
    (clients : before.clients <+: after.clients)
    (grown : after.backends = before.backends ++ backends) : Steady touched before after where
  toOnward := onward_of_grown settings (by rw [stopped]; exact id) clients
  growing := by
    intro key
    unfold waiting backend?
    rw [grown]
    cases found : before.backends[key]? with
    | none => exact List.nil_prefix
    | some backend =>
      have within : key < before.backends.length := (List.getElem?_eq_some_iff.1 found).1
      simp only [List.getElem?_append_left within, found, List.prefix_refl]

theorem steady_of_same {before after : Switchboard} (settings : after.settings = before.settings)
    (stopped : after.stopped = before.stopped) (clients : after.clients = before.clients)
    (backends : after.backends = before.backends) : Steady touched before after :=
  steady_of_grown [] settings stopped (clients ▸ List.prefix_refl _)
    (by rw [backends, List.append_nil])

theorem steady_openHub (board : Switchboard) (hub : String) :
    Steady touched board (board.openHub hub).2 := by
  unfold openHub
  split
  · exact .refl board
  · exact steady_of_same rfl rfl rfl rfl

theorem steady_tryAddBackend (board : Switchboard) (key : RegistryKey) (identity : String)
    (events : List String) :
    Steady touched board (board.tryAddBackend key identity events).2 := by
  rcases board.tryAddBackend_cases key identity events with ⟨registry, -, -, added⟩ | ⟨-, brokeOff⟩
  · rw [added]
    exact steady_of_grown _ rfl rfl (List.prefix_refl _) rfl
  · rw [brokeOff]
    exact .refl board

theorem steady_addClient (board : Switchboard) (key : RegistryKey) (backendId : String)
    (context : Context) : Steady touched board (board.addClient key backendId context).2 := by
  unfold addClient
  split
  · exact .refl board
  · exact steady_of_grown [] rfl rfl (List.prefix_append _ _) (List.append_nil _).symm

theorem steady_removeBackend (board : Switchboard) (key : RegistryKey) (backend : BackendKey) :
    Steady touched board (board.removeBackend key backend) :=
  steady_of_same rfl rfl rfl rfl

theorem steady_removeClient (board : Switchboard) (key : RegistryKey) (client : ClientKey) :
    Steady touched board (board.removeClient key client) :=
  steady_of_same rfl rfl rfl rfl

theorem steady_prune (board : Switchboard) (key : RegistryKey) :
    Steady touched board (board.prune key) := by
  unfold prune
  split
  · exact .refl board
  · split
    · exact steady_of_same rfl rfl rfl rfl
    · exact .refl board

theorem steady_tryRegister (board : Switchboard) (hub identity : String) (events : List String) :
    Steady touched board (board.tryRegister hub identity events).2 :=
  (steady_openHub board hub).trans (steady_tryAddBackend _ _ identity events)

theorem steady_closeBackend (board : Switchboard) (key : BackendKey) :
    Steady touched board (board.closeBackend key) := by
  unfold closeBackend
  cases found : board.backend? key with
  | none => exact .refl board
  | some backend =>
    simp only
    split
    · exact .refl board
    · refine (steady_setQueue backend.queue.close found (List.prefix_refl _)).trans ?_
      exact (steady_removeBackend _ backend.registry key).trans (steady_prune _ backend.registry)

theorem backends_prune (board : Switchboard) (key : RegistryKey) :
    (board.prune key).backends = board.backends := by
  unfold prune
  split
  · rfl
  · split <;> rfl

theorem clients_prune (board : Switchboard) (key : RegistryKey) :
    (board.prune key).clients = board.clients := by
  unfold prune
  split
  · rfl
  · split <;> rfl

theorem backends_closeBackend (board : Switchboard) (key : BackendKey) :
    (board.closeBackend key).backends = board.backends.modify key fun backend =>
      { backend with queue := backend.queue.close } := by
  have unchanged (same : ∀ backend, board.backend? key = some backend →
      backend.queue.closed = true) : board.backends = board.backends.modify key fun backend =>
        { backend with queue := backend.queue.close } := by
    have rows := map_modify_of_same board.backends key
      (fun backend => { backend with queue := backend.queue.close }) id fun backend found => by
        have closed : backend.queue.close = backend.queue := by
          rw [EventQueue.close, ← same backend found]
        simp only [closed]
    simpa using rows.symm
  unfold closeBackend
  cases found : board.backend? key with
  | none => exact unchanged fun backend here => by rw [found] at here; contradiction
  | some backend =>
    simp only
    split
    · next closed =>
      refine unchanged fun same here => ?_
      obtain rfl : backend = same := Option.some.inj (found.symm.trans here)
      exact closed
    · rw [backends_prune]
      show board.backends.modify key _ = _
      apply List.ext_getElem?
      intro other
      rw [List.getElem?_modify, List.getElem?_modify]
      by_cases here : key = other
      · subst here
        rw [show board.backends[key]? = some backend from found]
        simp
      · simp [here]

theorem waiting_closeBackend (board : Switchboard) (key other : BackendKey) :
    (board.closeBackend key).waiting other = board.waiting other := by
  unfold waiting backend?
  rw [backends_closeBackend, List.getElem?_modify]
  cases board.backends[other]? with
  | none => rfl
  | some backend =>
    by_cases here : key = other <;> simp [here, EventQueue.close]

/-- A backend that was dropped differs from one that was closed in what waits. -/
theorem sameBooks_dropBackend (board : Switchboard) (key : BackendKey) :
    SameBooks (board.closeBackend key) (board.dropBackend key) :=
  { SameBooks.refl (board.closeBackend key) with
    backends := by
      refine map_modify_of_same (board.closeBackend key).backends key _ Backend.unladen
        fun backend found => ?_
      rw [backends_closeBackend] at found
      rcases entry_of_modify found with ⟨-, before, -, rfl⟩ | ⟨different, -⟩
      · rfl
      · exact absurd rfl different }

theorem waiting_dropBackend_self (board : Switchboard) (key : BackendKey) :
    (board.dropBackend key).waiting key = [] := by
  unfold dropBackend waiting
  rw [backend?_updateBackend_self]
  cases (board.closeBackend key).backend? key <;> rfl

theorem waiting_dropBackend_ne (board : Switchboard) {key other : BackendKey}
    (different : key ≠ other) : (board.dropBackend key).waiting other = board.waiting other := by
  rw [← waiting_closeBackend board key other]
  unfold dropBackend waiting
  rw [backend?_updateBackend_ne _ _ different]

theorem onward_dropBackend (board : Switchboard) (key : BackendKey) :
    Onward touched board (board.dropBackend key) :=
  (steady_closeBackend board key).toOnward.trans
    (onward_of_grown rfl id (List.prefix_refl _))

theorem shrinking_dropBackend (board : Switchboard) (key : BackendKey) :
    Shrinking board (board.dropBackend key) := by
  intro other
  by_cases here : key = other
  · subst here
    rw [waiting_dropBackend_self]
    exact List.nil_suffix
  · have elsewhere := waiting_dropBackend_ne board here
    exact elsewhere ▸ List.suffix_refl _

theorem policy_choose {α : Type} (selection : Selection) (candidates : List α) :
    (selection.choose candidates).2.policy = selection.policy := by
  unfold Selection.choose Selection.pick
  cases selection with
  | firstMatch => rfl
  | roundRobin turns =>
    simp only
    split <;> rfl

theorem traffic_selectBackend (board : Switchboard) (key : RegistryKey) (event : String) :
    Traffic touched board (board.selectBackend key event).2 := by
  unfold selectBackend
  cases found : board.registryOf? key with
  | none => exact .refl board
  | some registry =>
    refine traffic_updateRegistry board key _ fun same foundSame => ?_
    obtain rfl : registry = same := Option.some.inj (found.symm.trans foundSame)
    exact policy_choose registry.selection _

theorem steady_route (board : Switchboard) (hub : String) (context : Context) (event : String) :
    Steady touched board (board.route hub context event).2 := by
  unfold route
  split
  · exact .refl board
  · next key _ =>
    have selected : Steady touched board (board.selectBackend key event).2 :=
      (traffic_selectBackend board key event).toSteady
    split
    · next later picked =>
      rw [picked] at selected
      exact selected
    · next backend later picked =>
      rw [picked] at selected
      exact selected.trans (steady_addClient later key _ context)

/-- A client is routed by picking a backend and adding the client; if no backend is found, there
was nothing but traffic. -/
theorem route_cases (board : Switchboard) (hub : String) (context : Context) (event : String) :
    (∃ error later, board.route hub context event = (.error error, later) ∧
      Traffic none board later) ∨
    ∃ key backend picked, board.hub? hub = some key ∧
      board.selectBackend key event = (some backend, picked) ∧
      board.route hub context event = (.ok (backend, board.clients.length),
        (picked.addClient key (((picked.backend? backend).map (·.id)).getD "") context).2) := by
  unfold route
  cases found : board.hub? hub with
  | none => exact Or.inl ⟨_, board, rfl, .refl board⟩
  | some key =>
    have selected : Traffic none board (board.selectBackend key event).2 :=
      traffic_selectBackend board key event
    have clients : (board.selectBackend key event).2.clients = board.clients := by
      unfold selectBackend
      split <;> rfl
    cases picked : board.selectBackend key event with
    | mk choice later =>
      rw [picked] at selected clients
      cases choice with
      | none => exact Or.inl ⟨.noRoute hub event, later, by simp only [picked], selected⟩
      | some backend =>
        refine Or.inr ⟨key, backend, later, rfl, picked, ?_⟩
        have number : (later.addClient key (((later.backend? backend).map (·.id)).getD "")
            context).1 = board.clients.length := by
          unfold addClient
          split <;> rw [← clients]
        simp only [picked, number]

theorem backends_route (board : Switchboard) (hub : String) (context : Context) (event : String) :
    (board.route hub context event).2.backends = board.backends := by
  have picks (key : RegistryKey) : (board.selectBackend key event).2.backends = board.backends := by
    unfold selectBackend
    split <;> rfl
  unfold route
  split
  · rfl
  · next key _ =>
    have picked := picks key
    split
    · next rest selected =>
      rw [selected] at picked
      exact picked
    · next backend rest selected =>
      rw [selected] at picked
      unfold addClient
      simp only
      split <;> exact picked

theorem backends_dropClient (board : Switchboard) (key : ClientKey) :
    (board.dropClient key).backends = board.backends := by
  unfold dropClient
  split
  · rfl
  · rw [backends_prune]
    rfl

theorem steady_dropClient (board : Switchboard) (key : ClientKey) :
    Steady (some key) board (board.dropClient key) := by
  unfold dropClient
  cases board.client? key with
  | none => exact .refl board
  | some client =>
    refine (traffic_outbound board key fun _ => none).toSteady.trans ?_
    exact (steady_removeClient _ client.registry key).trans (steady_prune _ client.registry)

end Switchboard

end HubRelay
