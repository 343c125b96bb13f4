import HubRelay.Proofs.Exchange.Course

/-!
Contract: what all that happens on an exchange is made of.

Owns: the elementary changes of a switchboard, and that every request but a routing, every release
and every action of a relay is made of them.

Does not own: what routing does.

A relation between switchboards that is kept by each elementary change, and by one change after the
other, is kept by everything that is made of them.  So whoever wants to know that something is left
alone looks at the elementary changes only.
-/

namespace HubRelay

namespace Switchboard

/-- A relation between switchboards that the elementary changes keep. -/
structure Elementary (kept : Switchboard → Switchboard → Prop) : Prop where
  refl : ∀ board, kept board board
  trans : ∀ {first second third}, kept first second → kept second third → kept first third
  client : ∀ board key change, kept board (board.updateClient key change)
  backend : ∀ board key change, kept board (board.updateBackend key change)
  openHub : ∀ board hub, kept board (board.openHub hub).2
  forgetHub : ∀ board hub, kept board { board with hubs := board.hubs.erase hub }
  addBackend : ∀ board key identity events, kept board (board.tryAddBackend key identity events).2
  removeBackend : ∀ board key backend, kept board (board.removeBackend key backend)
  removeClient : ∀ board key client, kept board (board.removeClient key client)
  pass : ∀ board milliseconds, kept board (board.pass milliseconds)
  stop : ∀ board, kept board { board with stopped := true }

/-- Whether a request wants a client to be routed. -/
def Request.isRoute : Request → Bool
  | .route .. => true
  | _ => false

namespace Elementary

variable {kept : Switchboard → Switchboard → Prop} (elementary : Elementary kept)
  (board : Switchboard)

include elementary

/-! ## Backends -/

theorem setQueue (key : BackendKey) (queue : EventQueue) : kept board (board.setQueue key queue) :=
  elementary.backend board key _

theorem enqueue (key : BackendKey) (event : Event) : kept board (board.enqueue key event).2 := by
  unfold Switchboard.enqueue
  split
  · exact elementary.refl board
  · split
    · exact elementary.setQueue board key _
    · exact elementary.refl board

theorem notifyAll (hub : String) (payload : Payload) (keys : List BackendKey) :
    kept board (board.notifyAll hub payload keys).2 := by
  induction keys generalizing board with
  | nil => exact elementary.refl board
  | cons key keys inductionHypothesis =>
    have asked := elementary.enqueue board key
      (.service hub (((board.backend? key).map (·.id)).getD "") payload)
    rw [Switchboard.notifyAll]
    simp only
    split
    · next later accepted =>
      rw [accepted] at asked
      exact elementary.trans asked (inductionHypothesis later)
    · next later refused =>
      rw [refused] at asked
      exact elementary.trans asked (inductionHypothesis later)

theorem notify (hub : String) (payload : Payload) : kept board (board.notify hub payload).2 := by
  unfold Switchboard.notify
  split
  · exact elementary.refl board
  · exact elementary.notifyAll board hub payload _

theorem announceShutdown (hubs : List String) : kept board (board.announceShutdown hubs) := by
  induction hubs generalizing board with
  | nil => exact elementary.refl board
  | cons hub hubs inductionHypothesis =>
    exact elementary.trans (elementary.notify board hub shutdownNotice) (inductionHypothesis _)

theorem prune (key : RegistryKey) : kept board (board.prune key) := by
  unfold Switchboard.prune
  split
  · exact elementary.refl board
  · split
    · exact elementary.forgetHub board _
    · exact elementary.refl board

theorem closeBackend (key : BackendKey) : kept board (board.closeBackend key) := by
  unfold Switchboard.closeBackend
  split
  · exact elementary.refl board
  · next backend _ =>
    split
    · exact elementary.refl board
    · exact elementary.trans (elementary.setQueue board key backend.queue.close)
        (elementary.trans (elementary.removeBackend _ backend.registry key)
          (elementary.prune _ backend.registry))

theorem dropBackend (key : BackendKey) : kept board (board.dropBackend key) :=
  elementary.trans (elementary.closeBackend board key) (elementary.backend _ key _)

theorem tryRegister (hub identity : String) (events : List String) :
    kept board (board.tryRegister hub identity events).2 :=
  elementary.trans (elementary.openHub board hub) (elementary.addBackend _ _ identity events)

/-! ## Clients -/

theorem dropClient (key : ClientKey) : kept board (board.dropClient key) := by
  unfold Switchboard.dropClient
  split
  · exact elementary.refl board
  · next client _ =>
    exact elementary.trans (elementary.client board key _)
      (elementary.trans (elementary.removeClient _ client.registry key)
        (elementary.prune _ client.registry))

theorem decide (key : ClientKey) (decision : Decision) :
    kept board (board.decide key decision).2 := by
  unfold Switchboard.decide
  split
  · exact elementary.refl board
  · exact elementary.client board key _

theorem tryAcknowledge (hub : String) (approval : Approval) :
    kept board (board.tryAcknowledge hub approval).2 := by
  unfold Switchboard.tryAcknowledge
  split
  · exact elementary.refl board
  · split
    · exact elementary.refl board
    · exact elementary.decide board _ approval.decision

theorem lookAfter (key : ClientKey) : kept board (board.lookAfter key) := by
  unfold Switchboard.lookAfter
  split
  · exact elementary.refl board
  · split
    · exact elementary.refl board
    · exact elementary.client board key _

theorem send (key : ClientKey) (payload : Payload) : kept board (board.send key payload).2 := by
  unfold Switchboard.send
  split
  · exact elementary.refl board
  · exact elementary.client board key _

theorem sendAll (payload : Payload) (keys : List ClientKey) :
    kept board (board.sendAll payload keys).2 := by
  induction keys generalizing board with
  | nil => exact elementary.refl board
  | cons key keys inductionHypothesis =>
    exact elementary.trans (elementary.send board key payload) (inductionHypothesis _)

/-! ## Requests -/

/-- Every request but a routing is made of elementary changes. -/
theorem perform {request : Request} (other : request.isRoute = false) :
    kept board (board.perform request) := by
  cases request with
  | register hub identity events => exact elementary.tryRegister board hub identity events
  | close key => exact elementary.closeBackend board key
  | drop key => exact elementary.dropBackend board key
  | enqueue key event => exact elementary.enqueue board key event
  | receive key =>
    simp only [Switchboard.perform, receive]
    split
    · exact elementary.refl board
    · exact elementary.setQueue board key _
  | flush key outcomes =>
    simp only [Switchboard.perform, flush]
    split
    · exact elementary.refl board
    · exact elementary.setQueue board key _
  | drain key outcomes =>
    simp only [Switchboard.perform, drain]
    split
    · exact elementary.refl board
    · exact elementary.setQueue board key _
  | notify hub payload => exact elementary.notify board hub payload
  | route hub context event => contradiction
  | decide key decision => exact elementary.decide board key decision
  | acknowledge hub approval => exact elementary.tryAcknowledge board hub approval
  | send key payload => exact elementary.send board key payload
  | broadcast hub payload =>
    simp only [Switchboard.perform, broadcast]
    split
    · exact elementary.refl board
    · exact elementary.sendAll board payload _
  | sendToConnection hub id payload =>
    simp only [Switchboard.perform, sendToConnection]
    split
    · exact elementary.refl board
    · exact elementary.send board _ payload
  | watch key | unwatch key => exact elementary.client board key _
  | lookAfter key => exact elementary.lookAfter board key
  | shutdown =>
    exact elementary.trans (elementary.announceShutdown board _) (elementary.stop _)
  | pass milliseconds => exact elementary.pass board milliseconds

/-! ## Relays -/

theorem step {connection : Connection} {loop : Loop} {branch : Loop.Branch} {later : Switchboard}
    {outcome : Loop.Outcome}
    (stepped : Loop.step board connection loop branch = some (later, outcome)) :
    kept board later := by
  have leaves (board : Switchboard) (loop : Loop) (result : Except RelayError RelayEnd) :
      kept board (Loop.leave board connection loop result).1 :=
    elementary.client board connection.client _
  have passes (payload : Payload) : kept board (Loop.pass board connection payload).2 := by
    unfold Loop.pass
    split
    · exact elementary.refl board
    · exact elementary.enqueue board _ _
  cases branch with
  | stop =>
    simp only [Loop.step, Loop.stepStop] at stepped
    split at stepped
    · obtain rfl := congrArg Prod.fst (Option.some.inj stepped)
      exact leaves board loop _
    · contradiction
  | outbound =>
    simp only [Loop.step, Loop.stepOutbound] at stepped
    split at stepped
    · contradiction
    · contradiction
    · next payload waiting _ =>
      have written := elementary.client board connection.client
        fun client => { client with outbound := some waiting }
      split at stepped
      · obtain ⟨rfl, -⟩ := Prod.mk.inj (Option.some.inj stepped)
        exact written
      · obtain rfl := congrArg Prod.fst (Option.some.inj stepped)
        exact elementary.trans written (leaves _ _ _)
  | inbound =>
    simp only [Loop.step, Loop.stepInbound] at stepped
    split at stepped
    · contradiction
    · split at stepped
      · split at stepped
        · contradiction
        · obtain ⟨rfl, -⟩ := Prod.mk.inj (Option.some.inj stepped)
          exact elementary.refl board
      · obtain ⟨rfl, -⟩ := Prod.mk.inj (Option.some.inj stepped)
        exact elementary.refl board
      · obtain rfl := congrArg Prod.fst (Option.some.inj stepped)
        exact leaves board _ _
      · obtain rfl := congrArg Prod.fst (Option.some.inj stepped)
        exact leaves board _ _
      · next payload _ =>
        have passed := passes payload
        split at stepped
        · next accepted =>
          rw [accepted] at passed
          obtain ⟨rfl, -⟩ := Prod.mk.inj (Option.some.inj stepped)
          exact passed
        · next refused =>
          rw [refused] at passed
          obtain rfl := congrArg Prod.fst (Option.some.inj stepped)
          exact elementary.trans passed (leaves _ _ _)

theorem finish (connection : Connection) : kept board (Loop.finish board connection) := by
  refine elementary.trans ?_ (elementary.dropClient _ connection.client)
  unfold Loop.announceDeparture
  split
  · exact elementary.refl board
  · split
    · exact elementary.enqueue board _ _
    · exact elementary.refl board

theorem settle (relay : Relay) : kept board (relay.settle board).1 := by
  unfold Relay.settle
  split
  · exact elementary.refl board
  · next client _ =>
    have polled := elementary.client board relay.connection.client fun entry =>
      { entry with handshake := (client.handshake.poll board.now).2 }
    simp only
    split
    · exact elementary.refl board
    · exact polled
    · exact elementary.trans polled (elementary.dropClient _ relay.connection.client)

/-- Every action of a relay is made of elementary changes. -/
theorem act (relay : Relay) (action : RelayAction) : kept board (relay.act board action).1 := by
  obtain ⟨connection, phase⟩ := relay
  cases action with
  | settle =>
    cases phase with
    | awaiting => exact elementary.settle board ⟨connection, .awaiting⟩
    | _ => exact elementary.refl board
  | step branch =>
    cases phase with
    | running loop =>
      simp only [Relay.act]
      cases stepped : Loop.step board connection loop branch with
      | none => exact elementary.refl board
      | some result => exact elementary.step board stepped
    | _ => exact elementary.refl board
  | finish =>
    cases phase with
    | leaving result sink => exact elementary.finish board connection
    | _ => exact elementary.refl board
  | drop =>
    simp only [Relay.act]
    split
    · exact elementary.dropClient board connection.client
    · exact elementary.refl board
  | run source room failure =>
    cases phase with
    | approved subProtocol => exact elementary.client board connection.client _
    | _ => exact elementary.refl board
  | await | feed _ | endSource => cases phase <;> exact elementary.refl board

theorem release (exchange : Exchange) (client : ClientKey) :
    kept exchange.board (exchange.release client).board := by
  unfold Exchange.release
  split
  · exact elementary.refl _
  · exact elementary.dropClient _ client

theorem performRelay (exchange : Exchange) (key : RelayKey) (action : RelayAction) :
    kept exchange.board (exchange.performRelay key action).board := by
  cases found : exchange.relay? key with
  | none =>
    rw [Exchange.performRelay_of_missing found]
    exact elementary.refl _
  | some relay =>
    rw [Exchange.performRelay_eq found]
    exact elementary.act exchange.board relay action

end Elementary

end Switchboard

end HubRelay
