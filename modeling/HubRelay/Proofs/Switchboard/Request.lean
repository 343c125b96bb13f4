import HubRelay.Proofs.Switchboard.Sound

/-!
Contract: everything that can be asked of a switchboard, as data.

Owns: requests, carrying them out, and what every request leaves alone.

Does not own: letting go of clients, which is up to whoever holds them.
-/

namespace HubRelay

namespace Switchboard

/-- What can be asked of a switchboard. -/
inductive Request where
  | register (hub identity : String) (events : List String)
  | close (backend : BackendKey)
  | drop (backend : BackendKey)
  | enqueue (backend : BackendKey) (event : Event)
  | receive (backend : BackendKey)
  | flush (backend : BackendKey) (outcomes : List EventQueue.WriteOutcome)
  | drain (backend : BackendKey) (outcomes : List EventQueue.WriteOutcome)
  | notify (hub : String) (payload : Payload)
  | route (hub : String) (context : Context) (event : String)
  | decide (client : ClientKey) (decision : Decision)
  | acknowledge (hub : String) (approval : Approval)
  | send (client : ClientKey) (payload : Payload)
  | broadcast (hub : String) (payload : Payload)
  | sendToConnection (hub connectionId : String) (payload : Payload)
  /-- Somebody starts to wait for a handshake. -/
  | watch (client : ClientKey)
  | unwatch (client : ClientKey)
  /-- Those who wait for a handshake look at it. -/
  | lookAfter (client : ClientKey)
  | shutdown
  | pass (milliseconds : Nat)

/-- Carry out a request. -/
def perform (board : Switchboard) : Request → Switchboard
  | .register hub identity events => (board.tryRegister hub identity events).2
  | .close backend => board.closeBackend backend
  | .drop backend => board.dropBackend backend
  | .enqueue backend event => (board.enqueue backend event).2
  | .receive backend => (board.receive backend).2
  | .flush backend outcomes => (board.flush backend outcomes).2.2
  | .drain backend outcomes => (board.drain backend outcomes).2.2
  | .notify hub payload => (board.notify hub payload).2
  | .route hub context event => (board.route hub context event).2
  | .decide client decision => (board.decide client decision).2
  | .acknowledge hub approval => board.acknowledge hub approval
  | .send client payload => (board.send client payload).2
  | .broadcast hub payload => (board.broadcast hub payload).2
  | .sendToConnection hub connectionId payload =>
    (board.sendToConnection hub connectionId payload).2
  | .watch client => board.watch client
  | .unwatch client => board.unwatch client
  | .lookAfter client => board.lookAfter client
  | .shutdown => board.shutdown
  | .pass milliseconds => board.pass milliseconds

/-- Whether a request lets somebody come or leave. -/
def Request.changesBooks : Request → Bool
  | .register .. | .close _ | .drop _ | .route .. => true
  | _ => false

/-- Whether a request may take events out of a queue. -/
def Request.takes : Request → Bool
  | .drop _ | .receive _ | .flush .. | .drain .. => true
  | _ => false

variable (board : Switchboard) {request : Request}

theorem traffic_perform (stays : request.changesBooks = false) (keeps : request.takes = false) :
    Traffic none board (board.perform request) := by
  cases request with
  | enqueue backend event => exact traffic_enqueue board backend event
  | notify hub payload => exact traffic_notify board hub payload
  | decide client decision => exact traffic_decide board client decision
  | acknowledge hub approval => exact traffic_tryAcknowledge board hub approval
  | send client payload => exact traffic_send board client payload
  | broadcast hub payload => exact traffic_broadcast board hub payload
  | sendToConnection hub connectionId payload =>
    exact traffic_sendToConnection board hub connectionId payload
  | watch client => exact traffic_watch board client
  | unwatch client => exact traffic_unwatch board client
  | lookAfter client => exact traffic_lookAfter board client
  | shutdown => exact traffic_shutdown board
  | pass milliseconds => exact traffic_pass board milliseconds
  | register _ _ _ | close _ | drop _ | route _ _ _ => contradiction
  | receive _ | flush _ _ | drain _ _ => contradiction

theorem taking_perform (stays : request.changesBooks = false) (takes : request.takes = true) :
    Taking board (board.perform request) := by
  cases request with
  | receive backend => exact taking_receive board backend
  | flush backend outcomes => exact taking_flush board backend outcomes
  | drain backend outcomes => exact taking_drain board backend outcomes
  | _ => contradiction

theorem steady_perform (keeps : request.takes = false) :
    Steady none board (board.perform request) := by
  cases stays : request.changesBooks with
  | false => exact (traffic_perform board stays keeps).toSteady
  | true =>
    cases request with
    | register hub identity events => exact steady_tryRegister board hub identity events
    | close backend => exact steady_closeBackend board backend
    | route hub context event => exact steady_route board hub context event
    | _ => contradiction

theorem shrinking_perform (takes : request.takes = true) :
    Onward none board (board.perform request) ∧ Shrinking board (board.perform request) := by
  cases stays : request.changesBooks with
  | false =>
    have taking := taking_perform board stays takes
    exact ⟨taking.toOnward, taking.shrinking⟩
  | true =>
    cases request with
    | drop backend =>
      exact ⟨onward_dropBackend board backend, shrinking_dropBackend board backend⟩
    | _ => contradiction

/-- Every request lets every client go on. -/
theorem onward_perform (request : Request) : Onward none board (board.perform request) := by
  cases takes : request.takes with
  | false => exact (steady_perform board takes).toOnward
  | true => exact (shrinking_perform board takes).1

/-- A request that lets nobody come or leave keeps the books. -/
theorem sameBooks_perform (stays : request.changesBooks = false) :
    SameBooks board (board.perform request) := by
  cases takes : request.takes with
  | false => exact (traffic_perform board stays takes).books
  | true => exact (taking_perform board stays takes).books

end Switchboard

end HubRelay
