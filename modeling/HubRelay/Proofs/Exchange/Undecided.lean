import HubRelay.Proofs.Exchange.Deed

/-!
Contract: what leaves every handshake alone.

Owns: that all requests do but a decision and a look, and that relays do unless they look whether
they were decided about.

Does not own: what a decision and a look make of a handshake.
-/

namespace HubRelay

namespace Switchboard

/-- Time may pass, handshakes stay as they are, and whoever comes has not been decided about. -/
structure Undecided (before after : Switchboard) : Prop where
  now : before.now ≤ after.now
  handshakes : Extends (·.state = .pending) (before.clients.map (·.handshake))
    (after.clients.map (·.handshake))

variable {first second third : Switchboard} (board : Switchboard)

theorem Undecided.refl : Undecided board board :=
  ⟨Nat.le_refl _, .of_eq rfl⟩

theorem Undecided.trans (one : Undecided first second) (two : Undecided second third) :
    Undecided first third :=
  ⟨Nat.le_trans one.now two.now, one.handshakes.trans two.handshakes fun _ => id⟩

theorem undecided_of_same (now : first.now ≤ second.now)
    (clients : second.clients = first.clients) : Undecided first second :=
  ⟨now, .of_eq (by rw [clients])⟩

theorem undecided_updateClient (key : ClientKey) (change : Client → Client)
    (same : ∀ client, (change client).handshake = client.handshake) :
    Undecided board (board.updateClient key change) :=
  ⟨Nat.le_refl _, .of_eq (map_modify_of_same board.clients key change (·.handshake)
    fun client _ => same client)⟩

theorem undecided_enqueue (key : BackendKey) (event : Event) :
    Undecided board (board.enqueue key event).2 := by
  unfold enqueue
  split
  · exact .refl board
  · split <;> exact undecided_of_same (Nat.le_refl _) rfl

theorem undecided_notifyAll (hub : String) (payload : Payload) (keys : List BackendKey) :
    Undecided board (board.notifyAll hub payload keys).2 := by
  induction keys generalizing board with
  | nil => exact .refl board
  | cons key keys inductionHypothesis =>
    have asked := undecided_enqueue board key
      (.service hub (((board.backend? key).map (·.id)).getD "") payload)
    rw [notifyAll]
    simp only
    split
    · next later accepted =>
      rw [accepted] at asked
      exact asked.trans (inductionHypothesis later)
    · next later refused =>
      rw [refused] at asked
      exact asked.trans (inductionHypothesis later)

theorem undecided_notify (hub : String) (payload : Payload) :
    Undecided board (board.notify hub payload).2 := by
  unfold notify
  split
  · exact .refl board
  · exact undecided_notifyAll board hub payload _

theorem undecided_announceShutdown (hubs : List String) :
    Undecided board (board.announceShutdown hubs) := by
  induction hubs generalizing board with
  | nil => exact .refl board
  | cons hub hubs inductionHypothesis =>
    exact (undecided_notify board hub shutdownNotice).trans (inductionHypothesis _)

theorem undecided_prune (key : RegistryKey) : Undecided board (board.prune key) := by
  unfold prune
  split
  · exact .refl board
  · split
    · exact undecided_of_same (Nat.le_refl _) rfl
    · exact .refl board

theorem undecided_closeBackend (key : BackendKey) : Undecided board (board.closeBackend key) := by
  unfold closeBackend
  split
  · exact .refl board
  · split
    · exact .refl board
    · next backend _ _ =>
      have closed : Undecided board
          ((board.setQueue key backend.queue.close).removeBackend backend.registry key) :=
        undecided_of_same (Nat.le_refl _) rfl
      exact closed.trans (undecided_prune _ backend.registry)

theorem undecided_dropBackend (key : BackendKey) : Undecided board (board.dropBackend key) :=
  (undecided_closeBackend board key).trans (undecided_of_same (Nat.le_refl _) rfl)

theorem undecided_tryRegister (hub identity : String) (events : List String) :
    Undecided board (board.tryRegister hub identity events).2 :=
  undecided_of_same (Nat.le_of_eq (board.now_tryRegister hub identity events).symm)
    (board.clients_tryRegister hub identity events)

theorem undecided_addClient (key : RegistryKey) (backendId : String) (context : Context) :
    Undecided board (board.addClient key backendId context).2 := by
  unfold addClient
  split
  · exact .refl board
  · next registry _ =>
    refine ⟨Nat.le_refl _, [.start board.now registry.handshakeTimeout], List.map_append, ?_⟩
    intro handshake added
    rw [List.mem_singleton.1 added]
    rfl

theorem undecided_route (hub : String) (context : Context) (event : String) :
    Undecided board (board.route hub context event).2 := by
  have selects (key : RegistryKey) : Undecided board (board.selectBackend key event).2 := by
    unfold selectBackend
    split <;> exact undecided_of_same (Nat.le_refl _) rfl
  unfold route
  split
  · exact .refl board
  · next key _ =>
    have selected := selects key
    split
    · next later picked =>
      rw [picked] at selected
      exact selected
    · next backend later picked =>
      rw [picked] at selected
      exact selected.trans (undecided_addClient later key _ context)

theorem undecided_dropClient (key : ClientKey) : Undecided board (board.dropClient key) := by
  unfold dropClient
  split
  · exact .refl board
  · next client _ =>
    have silenced := undecided_updateClient board key
      (fun client => { client with outbound := none }) fun _ => rfl
    have delisted : Undecided _ ((board.updateClient key fun client =>
        { client with outbound := none }).removeClient client.registry key) :=
      silenced.trans (undecided_of_same (Nat.le_refl _) rfl)
    exact delisted.trans (undecided_prune _ client.registry)

theorem undecided_send (key : ClientKey) (payload : Payload) :
    Undecided board (board.send key payload).2 := by
  unfold send
  split
  · exact .refl board
  · exact undecided_updateClient board key _ fun _ => rfl

theorem undecided_sendAll (payload : Payload) (keys : List ClientKey) :
    Undecided board (board.sendAll payload keys).2 := by
  induction keys generalizing board with
  | nil => exact .refl board
  | cons key keys inductionHypothesis =>
    exact (undecided_send board key payload).trans (inductionHypothesis _)

/-- Whether a request may resolve a handshake. -/
def Request.resolves : Request → Bool
  | .decide .. | .acknowledge .. | .lookAfter _ => true
  | _ => false

theorem undecided_perform {request : Request} (resolves : request.resolves = false) :
    Undecided board (board.perform request) := by
  cases request with
  | register hub identity events => exact undecided_tryRegister board hub identity events
  | close key => exact undecided_closeBackend board key
  | drop key => exact undecided_dropBackend board key
  | enqueue key event => exact undecided_enqueue board key event
  | receive key =>
    simp only [perform, receive]
    split <;> exact undecided_of_same (Nat.le_refl _) rfl
  | flush key outcomes =>
    simp only [perform, flush]
    split <;> exact undecided_of_same (Nat.le_refl _) rfl
  | drain key outcomes =>
    simp only [perform, drain]
    split <;> exact undecided_of_same (Nat.le_refl _) rfl
  | notify hub payload => exact undecided_notify board hub payload
  | route hub context event => exact undecided_route board hub context event
  | send key payload => exact undecided_send board key payload
  | broadcast hub payload =>
    simp only [perform, broadcast]
    split
    · exact .refl board
    · exact undecided_sendAll board payload _
  | sendToConnection hub id payload =>
    simp only [perform, sendToConnection]
    split
    · exact .refl board
    · exact undecided_send board _ payload
  | watch key | unwatch key => exact undecided_updateClient board key _ fun _ => rfl
  | shutdown =>
    exact (undecided_announceShutdown board _).trans (undecided_of_same (Nat.le_refl _) rfl)
  | pass milliseconds => exact undecided_of_same (Nat.le_add_right _ _) rfl
  | decide _ _ | acknowledge _ _ | lookAfter _ => contradiction

end Switchboard

/-! ## Relays -/

open Switchboard

namespace Relay

variable (board : Switchboard)

theorem undecided_step {connection : Connection} {loop : Loop} {branch : Loop.Branch}
    {later : Switchboard} {outcome : Loop.Outcome}
    (stepped : Loop.step board connection loop branch = some (later, outcome)) :
    Undecided board later := by
  have leaves (board : Switchboard) (loop : Loop) (result : Except RelayError RelayEnd) :
      Undecided board (Loop.leave board connection loop result).1 :=
    undecided_updateClient board connection.client _ fun _ => rfl
  have passes (payload : Payload) : Undecided board (Loop.pass board connection payload).2 := by
    unfold Loop.pass
    split
    · exact .refl board
    · exact undecided_enqueue board _ _
  cases branch with
  | stop =>
    simp only [Loop.step, Loop.stepStop] at stepped
    split at stepped
    · obtain rfl := congrArg Prod.fst (Option.some.inj stepped)
      exact leaves board loop _
    · contradiction
  | outbound =>
    simp only [Loop.step, Loop.stepOutbound] at stepped
    split at stepped
    · contradiction
    · contradiction
    · next payload waiting _ =>
      have written := undecided_updateClient board connection.client
        (fun client => { client with outbound := some waiting }) fun _ => rfl
      split at stepped
      · obtain ⟨rfl, -⟩ := Prod.mk.inj (Option.some.inj stepped)
        exact written
      · obtain rfl := congrArg Prod.fst (Option.some.inj stepped)
        exact written.trans (leaves _ _ _)
  | inbound =>
    simp only [Loop.step, Loop.stepInbound] at stepped
    split at stepped
    · contradiction
    · split at stepped
      · split at stepped
        · contradiction
        · obtain ⟨rfl, -⟩ := Prod.mk.inj (Option.some.inj stepped)
          exact .refl board
      · obtain ⟨rfl, -⟩ := Prod.mk.inj (Option.some.inj stepped)
        exact .refl board
      · obtain rfl := congrArg Prod.fst (Option.some.inj stepped)
        exact leaves board _ _
      · obtain rfl := congrArg Prod.fst (Option.some.inj stepped)
        exact leaves board _ _
      · next payload _ =>
        have passed := passes payload
        split at stepped
        · next accepted =>
          rw [accepted] at passed
          obtain ⟨rfl, -⟩ := Prod.mk.inj (Option.some.inj stepped)
          exact passed
        · next refused =>
          rw [refused] at passed
          obtain rfl := congrArg Prod.fst (Option.some.inj stepped)
          exact passed.trans (leaves _ _ _)

theorem undecided_finish (connection : Connection) :
    Undecided board (Loop.finish board connection) := by
  refine Undecided.trans ?_ (undecided_dropClient _ connection.client)
  unfold Loop.announceDeparture
  split
  · exact .refl board
  · split
    · exact undecided_enqueue board _ _
    · exact .refl board

/-- Only a look at the handshake can resolve it. -/
theorem undecided_act (relay : Relay) {action : RelayAction} (other : action ≠ .settle) :
    Undecided board (relay.act board action).1 := by
  obtain ⟨connection, phase⟩ := relay
  cases action with
  | settle => exact absurd rfl other
  | step branch =>
    cases phase with
    | running loop =>
      simp only [act]
      cases stepped : Loop.step board connection loop branch with
      | none => exact .refl board
      | some result => exact undecided_step board stepped
    | _ => exact .refl board
  | finish =>
    cases phase with
    | leaving result sink => exact undecided_finish board connection
    | _ => exact .refl board
  | drop =>
    simp only [act]
    split
    · exact undecided_dropClient board connection.client
    · exact .refl board
  | run source room failure =>
    cases phase with
    | approved subProtocol =>
      exact undecided_updateClient board connection.client _ fun _ => rfl
    | _ => exact .refl board
  | await | feed _ | endSource => cases phase <;> exact .refl board

end Relay

end HubRelay
