import HubRelay.Proofs.Handshake
import HubRelay.Proofs.Indices
import HubRelay.Proofs.Switchboard.Adding

/-!
Contract: what a change of a switchboard leaves alone.

Owns: what never changes of a client; changes that let every client go on, but for one that a relay
may touch; changes that only add to queues or only take from them; and changes that leave the
books alone, that is, who belongs to which hub.

Does not own: which requests make which changes.

Each of these relations holds of what primitive operations do and can be chained, so what an
operation leaves alone follows from the operations that it is made of.
-/

namespace HubRelay

/-! ## One client -/

namespace Client

/-- A client as it was when it was added. -/
def asAdded (client : Client) : Client :=
  { client with handshake := .start client.handshake.deadline 0, outbound := none, waiters := 0 }

/-- How a client may change at all: it stays who it is, and a handshake that is over stays as it
is. -/
structure Onward (before after : Client) : Prop where
  same : after.asAdded = before.asAdded
  kept : before.handshake.state.isPending = false → after.handshake.state = before.handshake.state

/-- How a client may change by what others do: at most, payloads are handed over for it. -/
structure Continues (before after : Client) : Prop extends Onward before after where
  handed : ∃ more, after.outbound = before.outbound.map (· ++ more)

variable {first second third : Client}

theorem Onward.refl (client : Client) : client.Onward client :=
  ⟨rfl, fun _ => rfl⟩

theorem Onward.trans (one : first.Onward second) (two : second.Onward third) :
    first.Onward third where
  same := two.same.trans one.same
  kept := by
    intro ended
    have keptOnce := one.kept ended
    rw [two.kept (by rw [keptOnce]; exact ended), keptOnce]

theorem Onward.continues (onward : first.Onward second)
    (outbound : second.outbound = first.outbound) : first.Continues second where
  toOnward := onward
  handed := ⟨[], by rw [outbound]; cases first.outbound <;> simp⟩

theorem Continues.refl (client : Client) : client.Continues client :=
  (Onward.refl client).continues rfl

theorem Continues.trans (one : first.Continues second) (two : second.Continues third) :
    first.Continues third where
  toOnward := one.toOnward.trans two.toOnward
  handed := by
    obtain ⟨some, handedOnce⟩ := one.handed
    obtain ⟨more, handedTwice⟩ := two.handed
    refine ⟨some ++ more, ?_⟩
    rw [handedTwice, handedOnce]
    cases first.outbound <;> simp

theorem onward_outbound (client : Client) (outbound : Option (List Payload)) :
    client.Onward { client with outbound := outbound } :=
  ⟨rfl, fun _ => rfl⟩

theorem continues_handshake {client : Client} {handshake : Handshake}
    (deadline : handshake.deadline = client.handshake.deadline)
    (kept : client.handshake.state.isPending = false →
      handshake.state = client.handshake.state) :
    client.Continues { client with handshake := handshake } := by
  refine Onward.continues ⟨?_, kept⟩ rfl
  simp only [asAdded, deadline]

theorem continues_acknowledge (client : Client) (now : Nat) (decision : Decision) :
    client.Continues { client with handshake := (client.handshake.acknowledge now decision).2 } :=
  continues_handshake (Handshake.deadline_acknowledge now decision)
    (Handshake.state_acknowledge_of_over now decision)

theorem continues_poll (client : Client) (now : Nat) :
    client.Continues { client with handshake := (client.handshake.poll now).2 } :=
  continues_handshake (Handshake.deadline_poll now) (Handshake.state_poll_of_over now)

end Client

/-- A backend for which nothing waits. -/
def Backend.unladen (backend : Backend) : Backend :=
  { backend with queue := backend.queue.emptied }

/-- A registry whose selection has not picked anything yet. -/
def Registry.rewound (registry : Registry) : Registry :=
  { registry with selection := .start registry.selection.policy }

namespace Switchboard

/-- The events that wait for a backend. -/
def waiting (board : Switchboard) (key : BackendKey) : List Event :=
  ((board.backend? key).map (·.queue.waiting)).getD []

/-! ## The relations -/

/-- Everything goes on: clients stay, and unless a relay touches a client it continues. -/
structure Onward (touched : Option ClientKey) (before after : Switchboard) : Prop where
  settings : after.settings = before.settings
  stopped : before.stopped = true → after.stopped = true
  client : ∀ {key client}, before.client? key = some client →
    ∃ later, after.client? key = some later ∧ client.Onward later ∧
      (touched ≠ some key → client.Continues later)

/-- Queues are only added to. -/
def Growing (before after : Switchboard) : Prop :=
  ∀ key, before.waiting key <+: after.waiting key

/-- Queues are only taken from, the oldest first. -/
def Shrinking (before after : Switchboard) : Prop :=
  ∀ key, after.waiting key <:+ before.waiting key

/-- Nobody comes, leaves or closes. -/
structure SameBooks (before after : Switchboard) : Prop where
  hubs : after.hubs = before.hubs
  issued : after.issued = before.issued
  registries : after.registries.map Registry.rewound = before.registries.map Registry.rewound
  backends : after.backends.map Backend.unladen = before.backends.map Backend.unladen
  clients : after.clients.map Client.asAdded = before.clients.map Client.asAdded

/-- What happens while nothing is taken out of a queue. -/
structure Steady (touched : Option ClientKey) (before after : Switchboard) : Prop
    extends Onward touched before after where
  growing : Growing before after

/-- What happens while, moreover, nobody comes, leaves or closes. -/
structure Traffic (touched : Option ClientKey) (before after : Switchboard) : Prop
    extends Steady touched before after where
  books : SameBooks before after

variable {touched : Option ClientKey} {first second third board : Switchboard}

theorem Onward.refl (board : Switchboard) : Onward touched board board where
  settings := rfl
  stopped := id
  client := fun {_ client} found =>
    ⟨client, found, .refl client, fun _ => .refl client⟩

theorem Onward.trans (one : Onward touched first second) (two : Onward touched second third) :
    Onward touched first third where
  settings := two.settings.trans one.settings
  stopped := two.stopped ∘ one.stopped
  client := by
    intro key client found
    obtain ⟨later, foundLater, onward, continues⟩ := one.client found
    obtain ⟨last, foundLast, onwardLater, continuesLater⟩ := two.client foundLater
    exact ⟨last, foundLast, onward.trans onwardLater,
      fun other => (continues other).trans (continuesLater other)⟩

/-- What touches no client also touches at most a given one. -/
theorem Onward.weaken (onward : Onward none first second) : Onward touched first second where
  settings := onward.settings
  stopped := onward.stopped
  client := by
    intro key client found
    obtain ⟨later, foundLater, onward, continues⟩ := onward.client found
    exact ⟨later, foundLater, onward, fun _ => continues (Option.some_ne_none key).symm⟩

theorem Onward.length_le (onward : Onward touched first second) :
    first.clients.length ≤ second.clients.length := by
  refine Nat.le_of_not_lt fun fewer => ?_
  have here : first.client? second.clients.length = some first.clients[second.clients.length] :=
    List.getElem?_eq_getElem fewer
  obtain ⟨later, found, -⟩ := onward.client here
  exact Nat.lt_irrefl _ (List.getElem?_eq_some_iff.1 found).1

theorem Growing.refl (board : Switchboard) : Growing board board :=
  fun _ => List.prefix_refl _

theorem Growing.trans (one : Growing first second) (two : Growing second third) :
    Growing first third :=
  fun key => (one key).trans (two key)

theorem SameBooks.refl (board : Switchboard) : SameBooks board board :=
  ⟨rfl, rfl, rfl, rfl, rfl⟩

theorem SameBooks.trans (one : SameBooks first second) (two : SameBooks second third) :
    SameBooks first third :=
  ⟨two.hubs.trans one.hubs, two.issued.trans one.issued, two.registries.trans one.registries,
    two.backends.trans one.backends, two.clients.trans one.clients⟩

theorem Steady.refl (board : Switchboard) : Steady touched board board :=
  ⟨.refl board, .refl board⟩

theorem Steady.trans (one : Steady touched first second) (two : Steady touched second third) :
    Steady touched first third :=
  ⟨one.toOnward.trans two.toOnward, one.growing.trans two.growing⟩

theorem Traffic.refl (board : Switchboard) : Traffic touched board board :=
  ⟨.refl board, .refl board⟩

theorem Traffic.trans (one : Traffic touched first second) (two : Traffic touched second third) :
    Traffic touched first third :=
  ⟨one.toSteady.trans two.toSteady, one.books.trans two.books⟩

/-! ## Looking things up after a change -/

@[simp] theorem client?_updateClient_self (board : Switchboard) (key : ClientKey)
    (change : Client → Client) :
    (board.updateClient key change).client? key = (board.client? key).map change :=
  List.getElem?_modify_eq change key board.clients

theorem client?_updateClient_ne (board : Switchboard) {key other : ClientKey}
    (change : Client → Client) (different : key ≠ other) :
    (board.updateClient key change).client? other = board.client? other :=
  List.getElem?_modify_ne change board.clients different

@[simp] theorem backend?_updateBackend_self (board : Switchboard) (key : BackendKey)
    (change : Backend → Backend) :
    (board.updateBackend key change).backend? key = (board.backend? key).map change :=
  List.getElem?_modify_eq change key board.backends

theorem backend?_updateBackend_ne (board : Switchboard) {key other : BackendKey}
    (change : Backend → Backend) (different : key ≠ other) :
    (board.updateBackend key change).backend? other = board.backend? other :=
  List.getElem?_modify_ne change board.backends different

theorem waiting_setQueue_self {key : BackendKey} {backend : Backend} (queue : EventQueue)
    (found : board.backend? key = some backend) :
    (board.setQueue key queue).waiting key = queue.waiting := by
  simp [waiting, setQueue, found]

theorem waiting_setQueue_ne (board : Switchboard) {key other : BackendKey} (queue : EventQueue)
    (different : key ≠ other) :
    (board.setQueue key queue).waiting other = board.waiting other := by
  unfold waiting setQueue
  rw [backend?_updateBackend_ne board _ different]

theorem waiting_of_backend? {key : BackendKey} {backend : Backend}
    (found : board.backend? key = some backend) : board.waiting key = backend.queue.waiting := by
  simp [waiting, found]

/-! ## Primitive changes -/

/-- Everything goes on where clients are only added. -/
theorem onward_of_grown (settings : second.settings = first.settings)
    (stopped : first.stopped = true → second.stopped = true)
    (clients : first.clients <+: second.clients) : Onward touched first second where
  settings := settings
  stopped := stopped
  client := by
    intro key client found
    obtain ⟨more, grown⟩ := clients
    have within : key < first.clients.length := (List.getElem?_eq_some_iff.1 found).1
    refine ⟨client, ?_, .refl client, fun _ => .refl client⟩
    rw [client?, ← grown, List.getElem?_append_left within]
    exact found

theorem onward_updateClient (key : ClientKey) (change : Client → Client)
    (onward : ∀ client, board.client? key = some client → client.Onward (change client))
    (continues : touched ≠ some key →
      ∀ client, board.client? key = some client → client.Continues (change client)) :
    Onward touched board (board.updateClient key change) where
  settings := rfl
  stopped := id
  client := by
    intro other client found
    by_cases here : key = other
    · subst here
      refine ⟨change client, ?_, onward client found, fun far => continues far client found⟩
      rw [client?_updateClient_self, found]
      rfl
    · refine ⟨client, ?_, .refl client, fun _ => .refl client⟩
      rw [client?_updateClient_ne board change here]
      exact found

theorem traffic_updateClient (key : ClientKey) (change : Client → Client)
    (onward : ∀ client, board.client? key = some client → client.Onward (change client))
    (continues : touched ≠ some key →
      ∀ client, board.client? key = some client → client.Continues (change client)) :
    Traffic touched board (board.updateClient key change) where
  toSteady := ⟨onward_updateClient key change onward continues, .refl board⟩
  books :=
    { SameBooks.refl board with
      clients := map_modify_of_same board.clients key change Client.asAdded
        fun client found => (onward client found).same }

theorem traffic_of_continues (key : ClientKey) (change : Client → Client)
    (continues : ∀ client, board.client? key = some client → client.Continues (change client)) :
    Traffic touched board (board.updateClient key change) :=
  traffic_updateClient key change (fun client found => (continues client found).toOnward)
    fun _ => continues

/-- Whatever becomes of the outbound of a client touches only that client. -/
theorem traffic_outbound (board : Switchboard) (key : ClientKey)
    (change : Client → Option (List Payload)) :
    Traffic (some key) board
      (board.updateClient key fun client => { client with outbound := change client }) :=
  traffic_updateClient key _ (fun client _ => client.onward_outbound (change client))
    fun far => absurd rfl far

/-- Nothing is taken out where a queue is replaced by one that begins with what waits. -/
theorem steady_setQueue {key : BackendKey} {backend : Backend} (queue : EventQueue)
    (found : board.backend? key = some backend)
    (grown : backend.queue.waiting <+: queue.waiting) :
    Steady touched board (board.setQueue key queue) where
  toOnward := onward_of_grown rfl id (List.prefix_refl _)
  growing := by
    intro other
    by_cases here : key = other
    · subst here
      rw [waiting_setQueue_self queue found, waiting_of_backend? found]
      exact grown
    · have elsewhere := waiting_setQueue_ne board queue here
      exact elsewhere ▸ List.prefix_refl _

theorem sameBooks_setQueue {key : BackendKey} {backend : Backend} (queue : EventQueue)
    (found : board.backend? key = some backend) (same : queue.emptied = backend.queue.emptied) :
    SameBooks board (board.setQueue key queue) :=
  { SameBooks.refl board with
    backends := by
      refine map_modify_of_same board.backends key _ Backend.unladen fun entry here => ?_
      obtain rfl : entry = backend := Option.some.inj (here.symm.trans found)
      exact congrArg (fun emptied => { entry with queue := emptied }) same }

theorem traffic_setQueue {key : BackendKey} {backend : Backend} (queue : EventQueue)
    (found : board.backend? key = some backend) (same : queue.emptied = backend.queue.emptied)
    (grown : backend.queue.waiting <+: queue.waiting) :
    Traffic touched board (board.setQueue key queue) :=
  ⟨steady_setQueue queue found grown, sameBooks_setQueue queue found same⟩

theorem traffic_updateRegistry (board : Switchboard) (key : RegistryKey)
    (selection : Selection)
    (same : ∀ registry, board.registryOf? key = some registry →
      selection.policy = registry.selection.policy) :
    Traffic touched board
      (board.updateRegistry key fun registry => { registry with selection := selection }) where
  toSteady := ⟨onward_of_grown rfl id (List.prefix_refl _), .refl board⟩
  books :=
    { SameBooks.refl board with
      registries := by
        refine map_modify_of_same board.registries key _ Registry.rewound fun registry found => ?_
        simp only [Registry.rewound, same registry found] }

end Switchboard

end HubRelay
