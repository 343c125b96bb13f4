import HubRelay.Proofs.Exchange.Course
import HubRelay.Proofs.Queue

/-!
Contract: queues change by their own operations only.

Owns: that whatever a switchboard, a relay or anybody else does is done to each queue by putting
events in, taking them out, writing them, closing it or discarding what waits.

Does not own: what follows from this for one queue.
-/

namespace HubRelay

namespace Switchboard

/-! ## Queues change by their own operations only -/

/-- Every queue is as it was, but for things done to it. -/
structure Evolves (before after : Switchboard) : Prop where
  queue : ∀ {key backend}, before.backend? key = some backend →
    ∃ later, after.backend? key = some later ∧ backend.queue.Evolves later.queue

variable {first second third : Switchboard} (board : Switchboard)

theorem Evolves.refl : Evolves board board :=
  ⟨fun found => ⟨_, found, .refl⟩⟩

theorem Evolves.trans (one : Evolves first second) (two : Evolves second third) :
    Evolves first third where
  queue := by
    intro key backend found
    obtain ⟨later, foundLater, evolves⟩ := one.queue found
    obtain ⟨last, foundLast, evolvesLater⟩ := two.queue foundLater
    exact ⟨last, foundLast, evolves.trans evolvesLater⟩

theorem evolves_of_grown (grown : first.backends <+: second.backends) : Evolves first second := by
  constructor
  intro key backend found
  obtain ⟨more, grown⟩ := grown
  refine ⟨backend, ?_, .refl⟩
  rw [backend?, ← grown, List.getElem?_append_left (List.getElem?_eq_some_iff.1 found).1]
  exact found

theorem evolves_of_same (same : second.backends = first.backends) : Evolves first second :=
  evolves_of_grown (same ▸ List.prefix_refl _)

theorem evolves_setQueue {board : Switchboard} {key : BackendKey} {backend : Backend}
    {queue : EventQueue} (found : board.backend? key = some backend)
    (evolves : backend.queue.Evolves queue) : Evolves board (board.setQueue key queue) := by
  constructor
  intro other entry here
  by_cases same : key = other
  · subst same
    obtain rfl : backend = entry := Option.some.inj (found.symm.trans here)
    refine ⟨{ backend with queue := queue }, ?_, evolves⟩
    rw [setQueue, backend?_updateBackend_self, found]
    rfl
  · exact ⟨entry, (backend?_updateBackend_ne board _ same).trans here, .refl⟩

theorem evolves_enqueue (key : BackendKey) (event : Event) :
    Evolves board (board.enqueue key event).2 := by
  unfold enqueue
  cases found : board.backend? key with
  | none => exact .refl board
  | some backend =>
    simp only
    cases accepted : backend.queue.enqueue event with
    | error error => exact .refl board
    | ok queue => exact evolves_setQueue found (.single (.enqueue accepted))

theorem evolves_notifyAll (hub : String) (payload : Payload) (keys : List BackendKey) :
    Evolves board (board.notifyAll hub payload keys).2 := by
  induction keys generalizing board with
  | nil => exact .refl board
  | cons key keys inductionHypothesis =>
    have asked := evolves_enqueue board key
      (.service hub (((board.backend? key).map (·.id)).getD "") payload)
    rw [notifyAll]
    simp only
    split
    · next later accepted =>
      rw [accepted] at asked
      exact asked.trans (inductionHypothesis later)
    · next later refused =>
      rw [refused] at asked
      exact asked.trans (inductionHypothesis later)

theorem evolves_notify (hub : String) (payload : Payload) :
    Evolves board (board.notify hub payload).2 := by
  unfold notify
  split
  · exact .refl board
  · exact evolves_notifyAll board hub payload _

theorem evolves_announceShutdown (hubs : List String) :
    Evolves board (board.announceShutdown hubs) := by
  induction hubs generalizing board with
  | nil => exact .refl board
  | cons hub hubs inductionHypothesis =>
    exact (evolves_notify board hub shutdownNotice).trans (inductionHypothesis _)

theorem evolves_receive (key : BackendKey) : Evolves board (board.receive key).2 := by
  unfold receive
  cases found : board.backend? key with
  | none => exact .refl board
  | some backend => exact evolves_setQueue found (.single .receive)

theorem evolves_flush (key : BackendKey) (outcomes : List EventQueue.WriteOutcome) :
    Evolves board (board.flush key outcomes).2.2 := by
  unfold flush
  cases found : board.backend? key with
  | none => exact .refl board
  | some backend => exact evolves_setQueue found (.single (.write outcomes))

theorem evolves_drain (key : BackendKey) (outcomes : List EventQueue.WriteOutcome) :
    Evolves board (board.drain key outcomes).2.2 := by
  unfold drain
  cases found : board.backend? key with
  | none => exact .refl board
  | some backend => exact evolves_setQueue found (.single (.write outcomes))

theorem evolves_updateBackend (key : BackendKey) (change : Backend → Backend)
    (step : ∀ backend : Backend, backend.queue.Step (change backend).queue) :
    Evolves board (board.updateBackend key change) := by
  constructor
  intro other backend found
  by_cases same : key = other
  · subst same
    refine ⟨change backend, ?_, .single (step backend)⟩
    rw [backend?_updateBackend_self, found]
    rfl
  · exact ⟨backend, (backend?_updateBackend_ne board _ same).trans found, .refl⟩

theorem evolves_closeBackend (key : BackendKey) : Evolves board (board.closeBackend key) := by
  constructor
  intro other backend found
  obtain ⟨later, here, evolves⟩ := (evolves_updateBackend board key
    (fun entry => { entry with queue := entry.queue.close }) fun _ => .close).queue found
  refine ⟨later, ?_, evolves⟩
  rw [backend?, backends_closeBackend]
  exact here

theorem evolves_dropBackend (key : BackendKey) : Evolves board (board.dropBackend key) :=
  (evolves_closeBackend board key).trans (evolves_updateBackend _ key _ fun _ => .discard)

theorem evolves_tryRegister (hub identity : String) (events : List String) :
    Evolves board (board.tryRegister hub identity events).2 := by
  refine evolves_of_grown ?_
  rcases board.backends_tryRegister hub identity events with ⟨_, -, -, grown⟩ | ⟨-, same⟩
  · rw [grown]
    exact List.prefix_append _ _
  · exact same ▸ List.prefix_refl _

theorem evolves_decide (key : ClientKey) (decision : Decision) :
    Evolves board (board.decide key decision).2 := by
  unfold Switchboard.decide
  split
  · exact .refl board
  · exact evolves_of_same rfl

theorem evolves_acknowledge (hub : String) (approval : Approval) :
    Evolves board (board.acknowledge hub approval) := by
  unfold acknowledge tryAcknowledge
  split
  · exact .refl board
  · split
    · exact .refl board
    · exact evolves_decide board _ _

theorem evolves_lookAfter (key : ClientKey) : Evolves board (board.lookAfter key) := by
  unfold lookAfter
  split
  · exact .refl board
  · split
    · exact .refl board
    · exact evolves_of_same rfl

theorem evolves_send (key : ClientKey) (payload : Payload) :
    Evolves board (board.send key payload).2 := by
  unfold send
  split
  · exact .refl board
  · exact evolves_of_same rfl

theorem evolves_sendAll (payload : Payload) (keys : List ClientKey) :
    Evolves board (board.sendAll payload keys).2 := by
  induction keys generalizing board with
  | nil => exact .refl board
  | cons key keys inductionHypothesis =>
    exact (evolves_send board key payload).trans (inductionHypothesis _)

theorem evolves_perform (request : Request) : Evolves board (board.perform request) := by
  cases request with
  | register hub identity events => exact evolves_tryRegister board hub identity events
  | close key => exact evolves_closeBackend board key
  | drop key => exact evolves_dropBackend board key
  | enqueue key event => exact evolves_enqueue board key event
  | receive key => exact evolves_receive board key
  | flush key outcomes => exact evolves_flush board key outcomes
  | drain key outcomes => exact evolves_drain board key outcomes
  | notify hub payload => exact evolves_notify board hub payload
  | route hub context event => exact evolves_of_same (backends_route board hub context event)
  | decide key decision => exact evolves_decide board key decision
  | acknowledge hub approval => exact evolves_acknowledge board hub approval
  | send key payload => exact evolves_send board key payload
  | broadcast hub payload =>
    simp only [perform, broadcast]
    split
    · exact .refl board
    · exact evolves_sendAll board payload _
  | sendToConnection hub connectionId payload =>
    simp only [perform, sendToConnection]
    split
    · exact .refl board
    · exact evolves_send board _ payload
  | watch key | unwatch key => exact evolves_of_same rfl
  | lookAfter key => exact evolves_lookAfter board key
  | shutdown => exact (evolves_announceShutdown board _).trans (evolves_of_same rfl)
  | pass milliseconds => exact evolves_of_same rfl

theorem evolves_dropClient (key : ClientKey) : Evolves board (board.dropClient key) :=
  evolves_of_same (backends_dropClient board key)

end Switchboard

open Switchboard

namespace Loop

variable {board later : Switchboard} {connection : Connection} {loop : Loop} {outcome : Outcome}

theorem evolves_pass (board : Switchboard) (connection : Connection) (payload : Payload) :
    Evolves board (pass board connection payload).2 := by
  unfold pass
  split
  · exact .refl board
  · exact evolves_enqueue board _ _

theorem evolves_finish (board : Switchboard) (connection : Connection) :
    Evolves board (finish board connection) := by
  refine Evolves.trans ?_ (evolves_dropClient _ connection.client)
  unfold announceDeparture
  split
  · exact .refl board
  · split
    · exact evolves_enqueue board _ _
    · exact .refl board

theorem evolves_step {branch : Branch}
    (stepped : step board connection loop branch = some (later, outcome)) :
    Evolves board later := by
  cases branch with
  | stop =>
    simp only [step, stepStop] at stepped
    split at stepped
    · obtain ⟨rfl, -⟩ := Prod.mk.inj (Option.some.inj stepped)
      exact evolves_of_same rfl
    · contradiction
  | outbound =>
    simp only [step, stepOutbound] at stepped
    split at stepped
    · contradiction
    · contradiction
    · split at stepped <;>
      · obtain ⟨rfl, -⟩ := Prod.mk.inj (Option.some.inj stepped)
        exact evolves_of_same rfl
  | inbound =>
    simp only [step, stepInbound] at stepped
    split at stepped
    · contradiction
    · split at stepped
      · split at stepped
        · contradiction
        · obtain ⟨rfl, -⟩ := Prod.mk.inj (Option.some.inj stepped)
          exact .refl board
      · obtain ⟨rfl, -⟩ := Prod.mk.inj (Option.some.inj stepped)
        exact .refl board
      · obtain ⟨rfl, -⟩ := Prod.mk.inj (Option.some.inj stepped)
        exact evolves_of_same rfl
      · obtain ⟨rfl, -⟩ := Prod.mk.inj (Option.some.inj stepped)
        exact evolves_of_same rfl
      · next payload _ =>
        have passes := evolves_pass board connection payload
        split at stepped
        · next passed =>
          rw [passed] at passes
          obtain ⟨rfl, -⟩ := Prod.mk.inj (Option.some.inj stepped)
          exact passes
        · next refused =>
          rw [refused] at passes
          obtain ⟨rfl, -⟩ := Prod.mk.inj (Option.some.inj stepped)
          exact passes.trans (evolves_of_same rfl)

end Loop

namespace Exchange

theorem evolves_relay (board : Switchboard) (relay : Relay) (action : RelayAction) :
    Evolves board (relay.act board action).1 := by
  obtain ⟨connection, phase⟩ := relay
  cases action with
  | step branch =>
    cases phase with
    | running loop =>
      simp only [Relay.act]
      cases stepped : Loop.step board connection loop branch with
      | none => exact .refl board
      | some result => exact Loop.evolves_step stepped
    | _ => exact .refl board
  | finish =>
    cases phase with
    | leaving result sink => exact Loop.evolves_finish board connection
    | _ => exact .refl board
  | settle =>
    cases phase with
    | awaiting =>
      simp only [Relay.act, Relay.settle]
      split
      · exact .refl board
      · split
        · exact .refl board
        · exact evolves_of_same rfl
        · refine Evolves.trans ?_ (evolves_dropClient _ connection.client)
          exact evolves_of_same rfl
    | _ => exact .refl board
  | drop =>
    simp only [Relay.act]
    split
    · exact evolves_dropClient board connection.client
    · exact .refl board
  | await | run _ _ _ | feed _ | endSource => cases phase <;> exact evolves_of_same rfl

theorem evolves_perform (exchange : Exchange) (action : Action) :
    Evolves exchange.board (exchange.perform action).board := by
  cases action with
  | request request => exact Switchboard.evolves_perform exchange.board request
  | release client =>
    simp only [perform, Exchange.release]
    split
    · exact .refl _
    · exact evolves_dropClient _ client
  | openRelay hub context =>
    have routes : Evolves exchange.board (exchange.board.route hub context connectEvent).2 :=
      evolves_of_same (backends_route _ hub context connectEvent)
    rcases exchange.openRelay_cases hub context with
      ⟨error, later, refused, opened⟩ | ⟨backend, client, routed, routing, answer⟩
    · rw [refused] at routes
      rw [opened]
      exact routes
    · rw [routing] at routes
      rcases answer with ⟨error, -, opened⟩ | ⟨-, opened⟩
      · rw [opened]
        exact routes.trans (evolves_dropClient routed client)
      · rw [opened]
        exact routes.trans (evolves_enqueue routed backend _)
  | relay key action =>
    cases found : exchange.relay? key with
    | none =>
      rw [perform, performRelay_of_missing found]
      exact .refl _
    | some relay =>
      rw [perform, performRelay_eq found]
      exact evolves_relay exchange.board relay action

end Exchange

end HubRelay
