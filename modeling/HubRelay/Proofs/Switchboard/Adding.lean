import HubRelay.Proofs.Queue
import HubRelay.Switchboard.Routing

/-!
Contract: adding a backend, and where that breaks off.

Owns: which registries allow for backends, what opening a hub makes, and that adding a backend
either puts it behind all others or changes nothing.

Does not own: what a new backend means for the books.
-/

namespace HubRelay

/-- Whether a channel can be made for every backend that is registered under some settings. -/
def Settings.Admits (settings : Settings) : Prop :=
  settings.queueCapacity ≤ channelLimit

instance (settings : Settings) : Decidable settings.Admits :=
  inferInstanceAs (Decidable (_ ≤ _))

/-- The standard settings but for a queue that is larger by one event than a channel takes. -/
def Settings.oversized : Settings :=
  { Settings.standard with queueCapacity := channelLimit + 1 }

/-- Whether a channel can be made for every backend that is added to a registry. -/
def Registry.Admits (registry : Registry) : Prop :=
  registry.queueCapacity ≤ channelLimit

instance (registry : Registry) : Decidable registry.Admits :=
  inferInstanceAs (Decidable (_ ≤ _))

namespace Switchboard

variable (board : Switchboard) (key : RegistryKey) (hub identity : String) (events : List String)

/-! ## Opening a hub -/

/-- The registry that is made for a hub that has none. -/
def newRegistry : Registry :=
  .start hub board.settings.selection board.settings.queueCapacity board.settings.handshakeTimeout

/-- A registry admits backends if the settings do under which it was made. -/
theorem admits_newRegistry_iff : (board.newRegistry hub).Admits ↔ board.settings.Admits :=
  Iff.rfl

variable {board hub} in
theorem openHub_of_missing (missing : board.hub? hub = none) :
    board.openHub hub = (board.registries.length,
      { board with
        registries := board.registries ++ [board.newRegistry hub]
        hubs := board.hubs.insert hub board.registries.length }) := by
  rw [Switchboard.openHub, missing]
  rfl

variable {board hub} in
theorem registryOf?_openHub_of_missing (missing : board.hub? hub = none) :
    (board.openHub hub).2.registryOf? (board.openHub hub).1 = some (board.newRegistry hub) := by
  rw [openHub_of_missing missing]
  exact List.getElem?_concat_length

/-- Nobody comes where a hub is opened. -/
theorem members_openHub : (board.openHub hub).2.backends = board.backends ∧
    (board.openHub hub).2.clients = board.clients ∧
    (board.openHub hub).2.issued = board.issued := by
  unfold openHub
  split <;> exact ⟨rfl, rfl, rfl⟩

/-! ## Adding to a registry -/

/-- Adding a backend puts it behind all others, or breaks off and changes nothing. -/
theorem tryAddBackend_cases :
    (∃ registry, board.registryOf? key = some registry ∧ registry.Admits ∧
      board.tryAddBackend key identity events = (some board.backends.length,
        board.placeBackend key registry (.ofCapacity registry.queueCapacity) identity events)) ∨
    ((∀ registry, board.registryOf? key = some registry → ¬ registry.Admits) ∧
      board.tryAddBackend key identity events = (none, board)) := by
  unfold tryAddBackend
  cases found : board.registryOf? key with
  | none => exact Or.inr ⟨fun _ here => (nomatch here), rfl⟩
  | some registry =>
    cases made : EventQueue.make? registry.queueCapacity with
    | none =>
      right
      refine ⟨fun same here => ?_, by simp only [made]⟩
      obtain rfl : registry = same := Option.some.inj here
      exact EventQueue.make?_eq_none_iff.1 made
    | some queue =>
      obtain ⟨admits, rfl⟩ := EventQueue.make?_eq_some_iff.1 made
      exact Or.inl ⟨registry, rfl, admits, by simp only [made]⟩

variable {board key}

theorem tryAddBackend_of_admits {registry : Registry}
    (found : board.registryOf? key = some registry) (admits : registry.Admits) :
    board.tryAddBackend key identity events = (some board.backends.length,
      board.placeBackend key registry (.ofCapacity registry.queueCapacity) identity events) := by
  rcases board.tryAddBackend_cases key identity events with
    ⟨same, here, -, added⟩ | ⟨refuses, -⟩
  · obtain rfl := Option.some.inj (found.symm.trans here)
    exact added
  · exact absurd admits (refuses registry found)

theorem tryAddBackend_of_not_admits {registry : Registry}
    (found : board.registryOf? key = some registry) (refuses : ¬ registry.Admits) :
    board.tryAddBackend key identity events = (none, board) := by
  rcases board.tryAddBackend_cases key identity events with
    ⟨same, here, admits, -⟩ | ⟨-, brokeOff⟩
  · obtain rfl := Option.some.inj (found.symm.trans here)
    exact absurd admits refuses
  · exact brokeOff

/-- A backend is added to the registry of its hub once the hub has been opened. -/
theorem tryRegister_eq (board : Switchboard) (hub identity : String) (events : List String) :
    board.tryRegister hub identity events =
      (board.openHub hub).2.tryAddBackend (board.openHub hub).1 identity events :=
  rfl

/-- Registering puts an open backend behind all others, or no backend comes. -/
theorem backends_tryRegister (board : Switchboard) (hub identity : String) (events : List String) :
    (∃ backend, backend.queue.closed = false ∧
      (board.tryRegister hub identity events).1 = some board.backends.length ∧
      (board.tryRegister hub identity events).2.backends = board.backends ++ [backend]) ∨
    ((board.tryRegister hub identity events).1 = none ∧
      (board.tryRegister hub identity events).2.backends = board.backends) := by
  have untouched := (board.members_openHub hub).1
  rw [tryRegister_eq]
  rcases (board.openHub hub).2.tryAddBackend_cases (board.openHub hub).1 identity events with
    ⟨registry, here, -, added⟩ | ⟨-, brokeOff⟩
  · left
    rw [added, untouched]
    exact ⟨_, rfl, rfl, congrArg (· ++ [_]) untouched⟩
  · right
    rw [brokeOff]
    exact ⟨rfl, untouched⟩

theorem now_tryRegister (board : Switchboard) (hub identity : String) (events : List String) :
    (board.tryRegister hub identity events).2.now = board.now := by
  have untouched : (board.openHub hub).2.now = board.now := by
    unfold openHub
    split <;> rfl
  rw [tryRegister_eq]
  rcases (board.openHub hub).2.tryAddBackend_cases (board.openHub hub).1 identity events with
    ⟨_, -, -, added⟩ | ⟨-, brokeOff⟩
  · rw [added]
    exact untouched
  · rw [brokeOff]
    exact untouched

theorem clients_tryRegister (board : Switchboard) (hub identity : String) (events : List String) :
    (board.tryRegister hub identity events).2.clients = board.clients := by
  have untouched := (board.members_openHub hub).2.1
  rw [tryRegister_eq]
  rcases (board.openHub hub).2.tryAddBackend_cases (board.openHub hub).1 identity events with
    ⟨_, -, -, added⟩ | ⟨-, brokeOff⟩
  · rw [added]
    exact untouched
  · rw [brokeOff]
    exact untouched

end Switchboard

end HubRelay
