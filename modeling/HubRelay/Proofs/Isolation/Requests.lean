import HubRelay.Proofs.Isolation.Membership
import HubRelay.Proofs.Isolation.Operations

/-!
Contract: a request to one hub comes to the same where there is nothing else.

Owns: what requests answer, requests and answers under other numbers, which requests are for a hub,
and that these commute with cutting the switchboard down to it while the others do not show.

Does not own: relays.
-/

namespace HubRelay

/-- What is answered to somebody who asks for something, or has a relay act. -/
inductive Reply where
  /-- Nothing is answered. -/
  | done
  | registered (backend : Option BackendKey)
  | queued (answer : Except RouteError Unit)
  | received (received : EventQueue.Received)
  | flushed (ending : EventQueue.FlushEnd) (written : List Event)
  | drained (ending : EventQueue.DrainEnd) (written : List Event)
  | routed (answer : Except RouteError (BackendKey × ClientKey))
  | decided (answer : Except AcknowledgeError Unit)
  /-- How many were told. -/
  | told (count : Nat)
  | sent (handed : Bool)
  | opened (answer : Except RelayError RelayKey)
  /-- How far the relay has come. -/
  | reached (phase : Option RelayPhase)

variable (numbers : Renumbering)

def Reply.renumbered : Reply → Reply
  | .registered backend => .registered (backend.map numbers.backend)
  | .received taken => .received (taken.renumbered numbers)
  | .flushed ending written => .flushed ending (written.map (·.renumbered numbers))
  | .drained ending written => .drained ending (written.map (·.renumbered numbers))
  | .routed answer => .routed (answer.map fun route =>
      (numbers.backend route.1, numbers.client route.2))
  | .opened answer => .opened (answer.map numbers.relay)
  | reply => reply

namespace Switchboard

/-- What is answered to a request. -/
def reply (board : Switchboard) : Request → Reply
  | .register hub identity events => .registered (board.tryRegister hub identity events).1
  | .enqueue backend event => .queued (board.enqueue backend event).1
  | .receive backend => .received (board.receive backend).1
  | .flush backend outcomes =>
    .flushed (board.flush backend outcomes).1 (board.flush backend outcomes).2.1
  | .drain backend outcomes =>
    .drained (board.drain backend outcomes).1 (board.drain backend outcomes).2.1
  | .notify hub payload => .told (board.notify hub payload).1
  | .route hub context event => .routed (board.route hub context event).1
  | .decide client decision => .decided (board.decide client decision).1
  | .acknowledge hub approval => .decided (board.tryAcknowledge hub approval).1
  | .send client payload => .sent (board.send client payload).1
  | .broadcast hub payload => .told (board.broadcast hub payload).1
  | .sendToConnection hub connectionId payload =>
    .sent (board.sendToConnection hub connectionId payload).1
  | .close _ | .drop _ | .watch _ | .unwatch _ | .lookAfter _ | .shutdown | .pass _ => .done

namespace Request

def renumbered : Request → Request
  | .close backend => .close (numbers.backend backend)
  | .drop backend => .drop (numbers.backend backend)
  | .enqueue backend event => .enqueue (numbers.backend backend) (event.renumbered numbers)
  | .receive backend => .receive (numbers.backend backend)
  | .flush backend outcomes => .flush (numbers.backend backend) outcomes
  | .drain backend outcomes => .drain (numbers.backend backend) outcomes
  | .decide client decision => .decide (numbers.client client) decision
  | .acknowledge hub approval => .acknowledge hub (approval.renumbered numbers)
  | .send client payload => .send (numbers.client client) payload
  | .sendToConnection hub connectionId payload =>
    .sendToConnection hub (numbers.name connectionId) payload
  | .watch client => .watch (numbers.client client)
  | .unwatch client => .unwatch (numbers.client client)
  | .lookAfter client => .lookAfter (numbers.client client)
  | request => request

/-- Whether a request is about all hubs at once. -/
def isCommon : Request → Bool
  | .shutdown | .pass _ => true
  | _ => false

/-- Whether a request is left when all that is about other hubs is taken out. -/
def isFor (board : Switchboard) (hub : String) (request : Request) : Bool :=
  request.isCommon || request.hub? board == some hub

end Request

variable {numbers} {board : Switchboard} {hub : String} {request : Request}

/-! ## Requests that are for others -/

/-- Who is not there cannot be asked for anything. -/
theorem perform_of_missing (missing : request.hub? board = none)
    (particular : request.isCommon = false) : board.perform request = board := by
  have noBackend {key : BackendKey} (absent : board.backendHub? key = none) :
      board.backend? key = none := Option.map_eq_none_iff.1 absent
  have noClient {key : ClientKey} (absent : board.clientHub? key = none) :
      board.client? key = none := Option.map_eq_none_iff.1 absent
  have unchanged {key : ClientKey} (absent : board.clientHub? key = none)
      (change : Client → Client) : board.updateClient key change = board := by
    have same := map_modify_of_same board.clients key change id fun client found => by
      rw [show board.clients[key]? = none from noClient absent] at found
      contradiction
    rw [List.map_id, List.map_id] at same
    rw [updateClient, same]
  have unregistered {key : BackendKey} (absent : board.backendHub? key = none)
      (change : Backend → Backend) : board.updateBackend key change = board := by
    have same := map_modify_of_same board.backends key change id fun backend found => by
      rw [show board.backends[key]? = none from noBackend absent] at found
      contradiction
    rw [List.map_id, List.map_id] at same
    rw [updateBackend, same]
  cases request with
  | register _ _ _ | notify _ _ | route _ _ _ | acknowledge _ _ | broadcast _ _
  | sendToConnection _ _ _ => contradiction
  | shutdown | pass _ => contradiction
  | close backend => simp only [perform, closeBackend, noBackend missing]
  | drop backend =>
    simp only [perform, dropBackend, closeBackend, noBackend missing]
    exact unregistered missing _
  | enqueue backend event => simp only [perform, enqueue, noBackend missing]
  | receive backend => simp only [perform, receive, noBackend missing]
  | flush backend outcomes => simp only [perform, flush, noBackend missing]
  | drain backend outcomes => simp only [perform, drain, noBackend missing]
  | decide client decision => simp only [perform, decide, noClient missing]
  | send client payload => simp only [perform, send, noClient missing, Option.bind_none]
  | watch client => exact unchanged missing _
  | unwatch client => exact unchanged missing _
  | lookAfter client => simp only [perform, lookAfter, noClient missing]

/-- A request for others does not show. -/
theorem within_perform_of_other (zoned : Zoned board) (other : request.isFor board hub = false) :
    (board.perform request).within hub numbers = board.within hub numbers := by
  obtain ⟨particular, elsewhere⟩ := Bool.or_eq_false_iff.1 other
  cases about : request.hub? board with
  | none => rw [perform_of_missing about particular]
  | some named =>
    refine within_of_confined _ (confined_perform zoned about) ?_
    rintro rfl
    rw [about, beq_self_eq_true] at elsewhere
    contradiction

/-! ## Requests that are for the hub -/

/-- A request for the hub comes to the same where there is nothing else, and gets the same
answer. -/
theorem Placed.perform (placed : Placed (board.perform request) hub numbers) (tidy : Tidy board)
    (named : Named board (board.perform request) hub numbers)
    (own : request.isFor board hub = true) :
    (board.within hub numbers).reply (request.renumbered numbers) =
        (board.reply request).renumbered numbers ∧
      (board.within hub numbers).perform (request.renumbered numbers) =
        (board.perform request).within hub numbers := by
  have zoned := tidy.zoned
  have placedBefore := placed.of_lasting (lasting_perform board request)
  have isOwn (particular : request.isCommon = false) : request.hub? board = some hub := by
    rw [Request.isFor, particular, Bool.false_or] at own
    exact beq_iff_eq.1 own
  cases request with
  | shutdown => exact ⟨rfl, placedBefore.shutdown tidy⟩
  | pass milliseconds => exact ⟨rfl, rfl⟩
  | register name identity events =>
    obtain rfl : name = hub := Option.some.inj (isOwn rfl)
    obtain ⟨answered, after⟩ := Prod.ext_iff.1 (placed.tryRegister zoned named)
    exact ⟨congrArg Reply.registered answered, after⟩
  | close backend => exact ⟨rfl, placedBefore.closeBackend zoned (isOwn rfl)⟩
  | drop backend => exact ⟨rfl, placed.dropBackend zoned (isOwn rfl)⟩
  | enqueue backend event =>
    obtain ⟨answered, after⟩ := Prod.ext_iff.1 (placedBefore.enqueue (isOwn rfl) event)
    exact ⟨congrArg Reply.queued answered, after⟩
  | receive backend =>
    obtain ⟨answered, after⟩ := Prod.ext_iff.1 (placedBefore.receive (isOwn rfl))
    exact ⟨congrArg Reply.received answered, after⟩
  | flush backend outcomes =>
    obtain ⟨ends, left⟩ := Prod.ext_iff.1 (placedBefore.flush (isOwn rfl) outcomes)
    obtain ⟨written, after⟩ := Prod.ext_iff.1 left
    exact ⟨congrArg₂ Reply.flushed ends written, after⟩
  | drain backend outcomes =>
    obtain ⟨ends, left⟩ := Prod.ext_iff.1 (placedBefore.drain (isOwn rfl) outcomes)
    obtain ⟨written, after⟩ := Prod.ext_iff.1 left
    exact ⟨congrArg₂ Reply.drained ends written, after⟩
  | notify name payload =>
    obtain rfl : name = hub := Option.some.inj (isOwn rfl)
    obtain ⟨answered, after⟩ := Prod.ext_iff.1 (placedBefore.notify zoned payload)
    exact ⟨congrArg Reply.told answered, after⟩
  | route name context event =>
    obtain rfl : name = hub := Option.some.inj (isOwn rfl)
    obtain ⟨answered, after⟩ := Prod.ext_iff.1 (placed.route zoned named)
    exact ⟨congrArg Reply.routed answered, after⟩
  | decide client decision =>
    obtain ⟨answered, after⟩ := Prod.ext_iff.1 (placedBefore.decide (isOwn rfl) decision)
    exact ⟨congrArg Reply.decided answered, after⟩
  | acknowledge name approval =>
    obtain rfl : name = hub := Option.some.inj (isOwn rfl)
    obtain ⟨answered, after⟩ := Prod.ext_iff.1 (placedBefore.tryAcknowledge zoned approval)
    exact ⟨congrArg Reply.decided answered, after⟩
  | send client payload =>
    obtain ⟨answered, after⟩ := Prod.ext_iff.1 (placedBefore.send (isOwn rfl) payload)
    exact ⟨congrArg Reply.sent answered, after⟩
  | broadcast name payload =>
    obtain rfl : name = hub := Option.some.inj (isOwn rfl)
    obtain ⟨answered, after⟩ := Prod.ext_iff.1 (placedBefore.broadcast zoned payload)
    exact ⟨congrArg Reply.told answered, after⟩
  | sendToConnection name connectionId payload =>
    obtain rfl : name = hub := Option.some.inj (isOwn rfl)
    obtain ⟨answered, after⟩ :=
      Prod.ext_iff.1 (placedBefore.sendToConnection zoned connectionId payload)
    exact ⟨congrArg Reply.sent answered, after⟩
  | watch client =>
    exact ⟨rfl, (placedBefore.setWaiters (isOwn rfl) (· + 1)).symm⟩
  | unwatch client =>
    exact ⟨rfl, (placedBefore.setWaiters (isOwn rfl) (· - 1)).symm⟩
  | lookAfter client => exact ⟨rfl, placedBefore.lookAfter (isOwn rfl)⟩

end Switchboard

end HubRelay
