import HubRelay.Proofs.Isolation.View
import Mathlib.Data.List.Find

/-!
Contract: what is done with those who are in a hub comes to the same where there is nothing else.

Owns: that putting events into queues and taking them out, deciding, sending, counting and shutting
down commute with cutting the switchboard down to the hub, and answer the same but for the numbers.

Does not own: who comes and who leaves.
-/

namespace HubRelay

namespace Switchboard

variable {board : Switchboard} {hub : String} {numbers : Renumbering}

/-! ## Queues -/

section Queues

variable (placed : Placed board hub numbers) {key : BackendKey}
  (own : board.backendHub? key = some hub)

include placed own

theorem Placed.enqueue (event : Event) :
    (board.within hub numbers).enqueue (numbers.backend key) (event.renumbered numbers) =
      ((board.enqueue key event).1, (board.enqueue key event).2.within hub numbers) := by
  obtain ⟨backend, found, -, there⟩ := placed.backend? own
  have tried : (backend.renumbered numbers).queue.enqueue (event.renumbered numbers) =
      (backend.queue.enqueue event).map (·.renumbered numbers) :=
    EventQueue.enqueue_renumbered numbers backend.queue event
  simp only [Switchboard.enqueue, found, there, tried]
  cases backend.queue.enqueue event with
  | error error => rfl
  | ok queue => simp only [Except.map, placed.setQueue own]

theorem Placed.receive :
    (board.within hub numbers).receive (numbers.backend key) =
      ((board.receive key).1.renumbered numbers, (board.receive key).2.within hub numbers) := by
  obtain ⟨backend, found, -, there⟩ := placed.backend? own
  have taken := EventQueue.receive_renumbered numbers backend.queue
  simp only [Switchboard.receive, found, there, placed.setQueue own]
  exact congrArg (fun taken => (taken.1, Switchboard.setQueue _ _ taken.2)) taken

theorem Placed.flush (outcomes : List EventQueue.WriteOutcome) :
    (board.within hub numbers).flush (numbers.backend key) outcomes =
      ((board.flush key outcomes).1, (board.flush key outcomes).2.1.map (·.renumbered numbers),
        (board.flush key outcomes).2.2.within hub numbers) := by
  obtain ⟨backend, found, -, there⟩ := placed.backend? own
  have taken := EventQueue.flush_renumbered numbers backend.queue outcomes
  simp only [Switchboard.flush, found, there, placed.setQueue own]
  exact congrArg (fun taken => (taken.1, taken.2.1, Switchboard.setQueue _ _ taken.2.2)) taken

theorem Placed.drain (outcomes : List EventQueue.WriteOutcome) :
    (board.within hub numbers).drain (numbers.backend key) outcomes =
      ((board.drain key outcomes).1, (board.drain key outcomes).2.1.map (·.renumbered numbers),
        (board.drain key outcomes).2.2.within hub numbers) := by
  obtain ⟨backend, found, -, there⟩ := placed.backend? own
  have taken := EventQueue.drain_renumbered numbers backend.queue outcomes
  simp only [Switchboard.drain, found, there, placed.setQueue own]
  exact congrArg (fun taken => (taken.1, taken.2.1, Switchboard.setQueue _ _ taken.2.2)) taken

end Queues

theorem Placed.notifyAll (placed : Placed board hub numbers) (payload : Payload)
    (keys : List BackendKey) (own : ∀ key ∈ keys, board.backendHub? key = some hub) :
    (board.within hub numbers).notifyAll hub payload (keys.map numbers.backend) =
      ((board.notifyAll hub payload keys).1,
        (board.notifyAll hub payload keys).2.within hub numbers) := by
  induction keys generalizing board with
  | nil => rfl
  | cons key keys inductionHypothesis =>
    obtain ⟨backend, found, -, there⟩ := placed.backend? (own key List.mem_cons_self)
    have asked := placed.enqueue (own key List.mem_cons_self) (.service hub backend.id payload)
    have notice : Event.service hub (backend.renumbered numbers).id payload =
        (Event.service hub backend.id payload).renumbered numbers := rfl
    have placedLater : Placed (board.enqueue key (.service hub backend.id payload)).2 hub numbers :=
      placed.of_books (traffic_enqueue board key _ : Traffic none _ _).books
    have ownLater : ∀ listed ∈ keys, (board.enqueue key
        (.service hub backend.id payload)).2.backendHub? listed = some hub := fun listed among =>
      (lasting_enqueue board key _).backendHub? (own listed (List.mem_cons_of_mem key among))
    have rest := inductionHypothesis placedLater ownLater
    simp only [List.map_cons, Switchboard.notifyAll, found, there, Option.map_some,
      Option.getD_some, notice, asked]
    revert rest
    rcases board.enqueue key (.service hub backend.id payload) with ⟨answer, later⟩
    intro rest
    cases answer with
    | error error => exact rest
    | ok _ => simp only [rest]

/-- The registry to which the hub is mapped is there, if there is one. -/
theorem Placed.registryOfHub (placed : Placed board hub numbers) (zoned : Zoned board) :
    ((board.within hub numbers).hub? hub).bind (board.within hub numbers).registryOf? =
      ((board.hub? hub).bind board.registryOf?).map (·.renumbered numbers) := by
  rw [hub?_within]
  cases mapped : board.hub? hub with
  | none => rfl
  | some key =>
    obtain ⟨registry, found, -, there⟩ := placed.registryOf? (zoned.mapped mapped)
    rw [Option.map_some, Option.bind_some, Option.bind_some, found, there, Option.map_some]

theorem Placed.notify (placed : Placed board hub numbers) (zoned : Zoned board)
    (payload : Payload) :
    (board.within hub numbers).notify hub payload =
      ((board.notify hub payload).1, (board.notify hub payload).2.within hub numbers) := by
  simp only [Switchboard.notify, placed.registryOfHub zoned]
  cases found : (board.hub? hub).bind board.registryOf? with
  | none => rfl
  | some registry => exact placed.notifyAll payload registry.backends (zoned.backendsOf found)

/-! ## Deciding and sending -/

section Clients

variable (placed : Placed board hub numbers) {key : ClientKey}
  (own : board.clientHub? key = some hub)

include placed own

theorem Placed.decide (decision : Decision) :
    (board.within hub numbers).decide (numbers.client key) decision =
      ((board.decide key decision).1, (board.decide key decision).2.within hub numbers) := by
  obtain ⟨client, found, -, there⟩ := placed.client? own
  simp only [Switchboard.decide, found, there, placed.setHandshake own]
  rfl

theorem Placed.setWaiters (count : Nat → Nat) :
    (board.updateClient key fun client =>
        { client with waiters := count client.waiters }).within hub numbers =
      (board.within hub numbers).updateClient (numbers.client key) fun client =>
        { client with waiters := count client.waiters } :=
  placed.updateClient own _ (fun _ => rfl) fun _ _ => rfl

theorem Placed.lookAfter :
    (board.within hub numbers).lookAfter (numbers.client key) =
      (board.lookAfter key).within hub numbers := by
  obtain ⟨client, found, -, there⟩ := placed.client? own
  have waiters : (client.renumbered numbers).waiters = client.waiters := rfl
  simp only [Switchboard.lookAfter, found, there, waiters]
  split
  · rfl
  · exact (placed.setHandshake own _).symm

theorem Placed.setOutbound (outbound : Option (List Payload)) :
    (board.updateClient key fun client => { client with outbound := outbound }).within hub numbers =
      (board.within hub numbers).updateClient (numbers.client key) fun client =>
        { client with outbound := outbound } :=
  placed.updateClient own _ (fun _ => rfl) fun _ _ => rfl

theorem Placed.send (payload : Payload) :
    (board.within hub numbers).send (numbers.client key) payload =
      ((board.send key payload).1, (board.send key payload).2.within hub numbers) := by
  obtain ⟨client, found, -, there⟩ := placed.client? own
  have outbound : (client.renumbered numbers).outbound = client.outbound := rfl
  simp only [Switchboard.send, found, there, Option.bind_some, outbound]
  cases client.outbound with
  | none => rfl
  | some waiting => simp only [placed.setOutbound own]

end Clients

/-- A client is found there by the id that it has there. -/
theorem Placed.findClient (placed : Placed board hub numbers) (zoned : Zoned board)
    {key : RegistryKey} (own : board.registryHub? key = some hub) (id : String) :
    (board.within hub numbers).findClient (numbers.registry key) (numbers.name id) =
      (board.findClient key id).map numbers.client := by
  obtain ⟨registry, found, named, there⟩ := placed.registryOf? own
  simp only [Switchboard.findClient, found, there]
  show (registry.clients.map numbers.client).find? _ = _
  rw [List.find?_map]
  refine congrArg (Option.map numbers.client) (List.find?_congr fun listed among => ?_)
  have ownListed := zoned.listedClients found listed among
  rw [named] at ownListed
  obtain ⟨client, here, -, foundThere⟩ := placed.client? ownListed
  rw [Function.comp_apply, here, foundThere, Option.map_some, Option.map_some]
  refine decide_eq_decide.2 ?_
  rw [Option.some.injEq, Option.some.injEq]
  exact numbers.name_injective.eq_iff

theorem Placed.tryAcknowledge (placed : Placed board hub numbers) (zoned : Zoned board)
    (approval : Approval) :
    (board.within hub numbers).tryAcknowledge hub (approval.renumbered numbers) =
      ((board.tryAcknowledge hub approval).1,
        (board.tryAcknowledge hub approval).2.within hub numbers) := by
  unfold Switchboard.tryAcknowledge
  rw [hub?_within]
  cases mapped : board.hub? hub with
  | none => rfl
  | some key =>
    have there : (board.within hub numbers).findClient (numbers.registry key)
        (approval.renumbered numbers).connectionId = _ :=
      placed.findClient zoned (zoned.mapped mapped) approval.connectionId
    simp only [Option.map_some, there]
    cases found : board.findClient key approval.connectionId with
    | none => rfl
    | some client => exact placed.decide (zoned.findClient mapped found) approval.decision

theorem Placed.sendAll (placed : Placed board hub numbers) (payload : Payload)
    (keys : List ClientKey) (own : ∀ key ∈ keys, board.clientHub? key = some hub) :
    (board.within hub numbers).sendAll payload (keys.map numbers.client) =
      ((board.sendAll payload keys).1, (board.sendAll payload keys).2.within hub numbers) := by
  induction keys generalizing board with
  | nil => rfl
  | cons key keys inductionHypothesis =>
    have sent := placed.send (own key List.mem_cons_self) payload
    have placedLater : Placed (board.send key payload).2 hub numbers :=
      placed.of_books (traffic_send board key payload : Traffic none _ _).books
    have rest := inductionHypothesis placedLater fun listed among =>
      (lasting_send board key payload).clientHub? (own listed (List.mem_cons_of_mem key among))
    simp only [List.map_cons, Switchboard.sendAll, sent, rest]

theorem Placed.broadcast (placed : Placed board hub numbers) (zoned : Zoned board)
    (payload : Payload) :
    (board.within hub numbers).broadcast hub payload =
      ((board.broadcast hub payload).1, (board.broadcast hub payload).2.within hub numbers) := by
  simp only [Switchboard.broadcast, placed.registryOfHub zoned]
  cases found : (board.hub? hub).bind board.registryOf? with
  | none => rfl
  | some registry => exact placed.sendAll payload registry.clients (zoned.clientsOf found)

theorem Placed.sendToConnection (placed : Placed board hub numbers) (zoned : Zoned board)
    (connectionId : String) (payload : Payload) :
    (board.within hub numbers).sendToConnection hub (numbers.name connectionId) payload =
      ((board.sendToConnection hub connectionId payload).1,
        (board.sendToConnection hub connectionId payload).2.within hub numbers) := by
  have there : ((board.within hub numbers).hub? hub).bind
      ((board.within hub numbers).findClient · (numbers.name connectionId)) =
        ((board.hub? hub).bind (board.findClient · connectionId)).map numbers.client := by
    rw [hub?_within]
    cases mapped : board.hub? hub with
    | none => rfl
    | some key => exact placed.findClient zoned (zoned.mapped mapped) connectionId
  simp only [Switchboard.sendToConnection, there]
  cases found : (board.hub? hub).bind (board.findClient · connectionId) with
  | none => rfl
  | some client =>
    obtain ⟨key, mapped, here⟩ := Option.bind_eq_some_iff.1 found
    exact placed.send (zoned.findClient mapped here) payload

/-! ## Counts, time and shutting down -/

theorem Placed.hubStats (placed : Placed board hub numbers) (zoned : Zoned board) :
    (board.within hub numbers).hubStats hub = board.hubStats hub := by
  simp only [Switchboard.hubStats, placed.registryOfHub zoned, Option.map_map]
  refine Option.map_congr fun registry found => ?_
  have approved : ((registry.clients.map numbers.client).filter
      (board.within hub numbers).isApproved).length =
        (registry.clients.filter board.isApproved).length := by
    rw [List.filter_map, List.length_map]
    refine congrArg List.length (List.filter_congr fun listed among => ?_)
    obtain ⟨client, here, -, there⟩ := placed.client? (zoned.clientsOf found listed among)
    rw [Function.comp_apply, isApproved, isApproved, here, there]
    rfl
  simp only [Function.comp_apply, registryStats, Registry.renumbered, List.length_map, approved]

/-- Of all the hubs that are told, only the one shows. -/
theorem Placed.announceShutdown (placed : Placed board hub numbers) (tidy : Tidy board)
    {hubs : List String} (distinct : hubs.Nodup) :
    (board.announceShutdown hubs).within hub numbers =
      if hub ∈ hubs then ((board.within hub numbers).notify hub shutdownNotice).2
      else board.within hub numbers := by
  induction hubs generalizing board with
  | nil => rfl
  | cons first rest inductionHypothesis =>
    have traffic : Traffic none board (board.notify first shutdownNotice).2 :=
      traffic_notify board first shutdownNotice
    obtain ⟨absent, distinctRest⟩ := List.nodup_cons.1 distinct
    have later := inductionHypothesis (placed.of_books traffic.books) (tidy.of_traffic traffic)
      distinctRest
    show ((board.notify first shutdownNotice).2.announceShutdown rest).within hub numbers = _
    rw [later]
    by_cases same : hub = first
    · subst same
      rw [if_neg absent, if_pos List.mem_cons_self, placed.notify tidy.zoned]
    · have elsewhere : (board.notify first shutdownNotice).2.within hub numbers =
          board.within hub numbers :=
        within_of_confined _ (confined_notify tidy.zoned first shutdownNotice) same
      simp only [List.mem_cons, same, false_or, elsewhere]

theorem Placed.shutdown (placed : Placed board hub numbers) (tidy : Tidy board) :
    (board.within hub numbers).shutdown = board.shutdown.within hub numbers := by
  have distinct : board.hubNames.Nodup := board.hubs.nodup_names
  have told := placed.announceShutdown tidy distinct
  have known : hub ∈ board.hubNames ↔ ∃ key, board.hub? hub = some key :=
    Dictionary.mem_names_iff board.hubs hub
  have there : (board.within hub numbers).announceShutdown (board.within hub numbers).hubNames =
      (board.announceShutdown board.hubNames).within hub numbers := by
    rw [told]
    show (board.within hub numbers).announceShutdown (board.hubsIn hub numbers).names = _
    unfold hubsIn
    cases mapped : board.hub? hub with
    | none =>
      rw [if_neg fun among => by simpa [mapped] using known.1 among]
      rfl
    | some key =>
      rw [if_pos (known.2 ⟨key, mapped⟩)]
      rfl
  rw [Switchboard.shutdown, there]
  rfl

end Switchboard

end HubRelay
