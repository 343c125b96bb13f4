import HubRelay.Proofs.Isolation.Confinement
import HubRelay.Proofs.Isolation.Renumbering

/-!
Contract: a switchboard cut down to one hub.

Owns: the switchboard that has nothing but the backends, the clients and the registries of a hub,
under other numbers; that changes elsewhere do not show in it; and that looking something up and
changing it comes to the same there.

Does not own: what operations do.

The numbers have to fit: what belongs to the hub has the places that it gets where there is nothing
else.
-/

namespace HubRelay

/-- The dictionary of one name. -/
def Dictionary.single {α : Type} (name : String) (value : α) : Dictionary α :=
  Dictionary.empty.insert name value

theorem Dictionary.erase_single {α : Type} (name : String) (value : α) :
    (Dictionary.single name value).erase name = .empty := by
  simp [single, insert, empty, erase, insertEntry]

namespace Switchboard

variable (board : Switchboard) (hub : String) (numbers : Renumbering)

def registriesIn : List Registry :=
  cut board.registries (·.hub == hub) (·.renumbered numbers)

def backendsIn : List Backend :=
  cut board.backends (·.hub == hub) (·.renumbered numbers)

def clientsIn : List Client :=
  cut board.clients (·.hub == hub) (·.renumbered numbers)

def hubsIn : Dictionary RegistryKey :=
  match board.hub? hub with
  | none => .empty
  | some key => .single hub (numbers.registry key)

/-- How many ids a hub was given: one for each backend and each client. -/
def issuedIn : Nat :=
  board.backends.countP (·.hub == hub) + board.clients.countP (·.hub == hub)

/-- A switchboard cut down to a hub: it has nothing else, and no more ids were given out than the
hub was given. -/
def within : Switchboard where
  settings := board.settings
  now := board.now
  stopped := board.stopped
  issued := board.issuedIn hub
  registries := board.registriesIn hub numbers
  hubs := board.hubsIn hub numbers
  backends := board.backendsIn hub numbers
  clients := board.clientsIn hub numbers

/-- The numbers fit a switchboard: what belongs to the hub is counted on its own. -/
structure Placed : Prop where
  registries : Fits numbers.registry board.registries (·.hub == hub)
  backends : Fits numbers.backend board.backends (·.hub == hub)
  clients : Fits numbers.client board.clients (·.hub == hub)

variable {board hub numbers} {first second : Switchboard}

/-- Numbers that fit fit everything before. -/
theorem Placed.of_lasting (placed : Placed second hub numbers) (lasting : Lasting first second) :
    Placed first hub numbers where
  registries := placed.registries.of_prefix
    (lasting.registries.map_prefix (·.hub == hub) fun _ => rfl)
  backends := placed.backends.of_prefix
    (lasting.backends.map_prefix (·.hub == hub) fun _ => rfl)
  clients := placed.clients.of_prefix
    (lasting.clients.map_prefix (·.hub == hub) fun _ => rfl)

/-- The ids that a hub was given are counted by the hubs of backends and clients. -/
theorem issuedIn_congr (hub : String)
    (backends : second.backends.map (·.hub) = first.backends.map (·.hub))
    (clients : second.clients.map (·.hub) = first.clients.map (·.hub)) :
    second.issuedIn hub = first.issuedIn hub := by
  have count {α : Type} {entries others : List α} {hubOf : α → String}
      (same : others.map hubOf = entries.map hubOf) :
      others.countP (hubOf · == hub) = entries.countP (hubOf · == hub) := by
    have counts := congrArg (List.countP (· == hub)) same
    rwa [List.countP_map, List.countP_map] at counts
  rw [issuedIn, issuedIn, count backends, count clients]

/-! ## Changes elsewhere -/

/-- What is confined to another hub does not show. -/
theorem within_of_confined (numbers : Renumbering) {other : String}
    (confined : Confined other first second) (apart : hub ≠ other) :
    second.within hub numbers = first.within hub numbers := by
  have registries : second.registriesIn hub numbers = first.registriesIn hub numbers :=
    congrArg (List.map _) (confined.registries hub apart)
  have backends : second.backendsIn hub numbers = first.backendsIn hub numbers :=
    congrArg (List.map _) (confined.backends hub apart)
  have clients : second.clientsIn hub numbers = first.clientsIn hub numbers :=
    congrArg (List.map _) (confined.clients hub apart)
  have hubs : second.hubsIn hub numbers = first.hubsIn hub numbers := by
    rw [hubsIn, confined.hubs hub apart, hubsIn]
  have issued : second.issuedIn hub = first.issuedIn hub := by
    simp only [issuedIn, List.countP_eq_length_filter, confined.backends hub apart,
      confined.clients hub apart]
  simp only [within, confined.settings, confined.now, confined.stopped, issued, registries,
    backends, clients, hubs]

/-! ## Looking up -/

theorem hub?_within : (board.within hub numbers).hub? hub =
    (board.hub? hub).map numbers.registry := by
  show (board.hubsIn hub numbers).get? hub = _
  unfold hubsIn
  cases board.hub? hub with
  | none => rfl
  | some key => exact Dictionary.get?_insert_self _ hub _

/-- A backend of the hub is there, under its other number. -/
theorem Placed.backend? (placed : Placed board hub numbers) {key : BackendKey}
    (own : board.backendHub? key = some hub) :
    ∃ backend, board.backend? key = some backend ∧ backend.hub = hub ∧
      (board.within hub numbers).backend? (numbers.backend key) =
        some (backend.renumbered numbers) := by
  obtain ⟨backend, found, named⟩ := Option.map_eq_some_iff.1 own
  exact ⟨backend, found, named, placed.backends.getElem?_cut found (beq_iff_eq.2 named) _⟩

theorem Placed.client? (placed : Placed board hub numbers) {key : ClientKey}
    (own : board.clientHub? key = some hub) :
    ∃ client, board.client? key = some client ∧ client.hub = hub ∧
      (board.within hub numbers).client? (numbers.client key) =
        some (client.renumbered numbers) := by
  obtain ⟨client, found, named⟩ := Option.map_eq_some_iff.1 own
  exact ⟨client, found, named, placed.clients.getElem?_cut found (beq_iff_eq.2 named) _⟩

theorem Placed.registryOf? (placed : Placed board hub numbers) {key : RegistryKey}
    (own : board.registryHub? key = some hub) :
    ∃ registry, board.registryOf? key = some registry ∧ registry.hub = hub ∧
      (board.within hub numbers).registryOf? (numbers.registry key) =
        some (registry.renumbered numbers) := by
  obtain ⟨registry, found, named⟩ := Option.map_eq_some_iff.1 own
  exact ⟨registry, found, named, placed.registries.getElem?_cut found (beq_iff_eq.2 named) _⟩

/-! ## Changing one thing -/

theorem Placed.updateBackend (placed : Placed board hub numbers) {key : BackendKey}
    (own : board.backendHub? key = some hub) {change : Backend → Backend}
    (changeThere : Backend → Backend)
    (keeps : ∀ backend, (change backend).hub = backend.hub)
    (commutes : ∀ backend, board.backend? key = some backend →
      (change backend).renumbered numbers = changeThere (backend.renumbered numbers)) :
    (board.updateBackend key change).within hub numbers =
      (board.within hub numbers).updateBackend (numbers.backend key) changeThere := by
  obtain ⟨backend, found, named⟩ := Option.map_eq_some_iff.1 own
  have changed : (board.updateBackend key change).backendsIn hub numbers =
      (board.backendsIn hub numbers).modify (numbers.backend key) changeThere :=
    placed.backends.cut_modify found (beq_iff_eq.2 named)
      (beq_iff_eq.2 ((keeps backend).trans named)) (commutes backend found)
  have issued : (board.updateBackend key change).issuedIn hub = board.issuedIn hub :=
    issuedIn_congr hub (map_modify_of_same _ key _ _ fun backend _ => keeps backend) rfl
  simp only [within, changed, issued]
  rfl

theorem Placed.updateClient (placed : Placed board hub numbers) {key : ClientKey}
    (own : board.clientHub? key = some hub) {change : Client → Client}
    (changeThere : Client → Client)
    (keeps : ∀ client, (change client).hub = client.hub)
    (commutes : ∀ client, board.client? key = some client →
      (change client).renumbered numbers = changeThere (client.renumbered numbers)) :
    (board.updateClient key change).within hub numbers =
      (board.within hub numbers).updateClient (numbers.client key) changeThere := by
  obtain ⟨client, found, named⟩ := Option.map_eq_some_iff.1 own
  have changed : (board.updateClient key change).clientsIn hub numbers =
      (board.clientsIn hub numbers).modify (numbers.client key) changeThere :=
    placed.clients.cut_modify found (beq_iff_eq.2 named)
      (beq_iff_eq.2 ((keeps client).trans named)) (commutes client found)
  have issued : (board.updateClient key change).issuedIn hub = board.issuedIn hub :=
    issuedIn_congr hub rfl (map_modify_of_same _ key _ _ fun client _ => keeps client)
  simp only [within, changed, issued]
  rfl

theorem Placed.updateRegistry (placed : Placed board hub numbers) {key : RegistryKey}
    (own : board.registryHub? key = some hub) {change : Registry → Registry}
    (changeThere : Registry → Registry)
    (keeps : ∀ registry, (change registry).hub = registry.hub)
    (commutes : ∀ registry, board.registryOf? key = some registry →
      (change registry).renumbered numbers = changeThere (registry.renumbered numbers)) :
    (board.updateRegistry key change).within hub numbers =
      (board.within hub numbers).updateRegistry (numbers.registry key) changeThere := by
  obtain ⟨registry, found, named⟩ := Option.map_eq_some_iff.1 own
  have changed : (board.updateRegistry key change).registriesIn hub numbers =
      (board.registriesIn hub numbers).modify (numbers.registry key) changeThere :=
    placed.registries.cut_modify found (beq_iff_eq.2 named)
      (beq_iff_eq.2 ((keeps registry).trans named)) (commutes registry found)
  simp only [within, changed]
  rfl

theorem Placed.setQueue (placed : Placed board hub numbers) {key : BackendKey}
    (own : board.backendHub? key = some hub) (queue : EventQueue) :
    (board.setQueue key queue).within hub numbers =
      (board.within hub numbers).setQueue (numbers.backend key) (queue.renumbered numbers) :=
  placed.updateBackend own _ (fun _ => rfl) fun _ _ => rfl

theorem Placed.setHandshake (placed : Placed board hub numbers) {key : ClientKey}
    (own : board.clientHub? key = some hub) (handshake : Handshake) :
    (board.setHandshake key handshake).within hub numbers =
      (board.within hub numbers).setHandshake (numbers.client key) handshake :=
  placed.updateClient own _ (fun _ => rfl) fun _ _ => rfl

/-! ## Numbers go on fitting -/

/-- Numbers that fit go on fitting where the hubs of everything stay the same. -/
theorem Placed.congr {first second : Switchboard} (placed : Placed first hub numbers)
    (registries : second.registries.map (·.hub) = first.registries.map (·.hub))
    (backends : second.backends.map (·.hub) = first.backends.map (·.hub))
    (clients : second.clients.map (·.hub) = first.clients.map (·.hub)) :
    Placed second hub numbers := by
  have rows {α : Type} {before after : List α} {hubOf : α → String}
      (same : after.map hubOf = before.map hubOf) :
      (after.map fun entry => hubOf entry == hub) = before.map fun entry => hubOf entry == hub := by
    have row := congrArg (List.map (· == hub)) same
    rwa [List.map_map, List.map_map] at row
  exact ⟨placed.registries.of_prefix (rows registries ▸ List.prefix_rfl),
    placed.backends.of_prefix (rows backends ▸ List.prefix_rfl),
    placed.clients.of_prefix (rows clients ▸ List.prefix_rfl)⟩

theorem SameBooks.registryHubs {first second : Switchboard} (books : SameBooks first second) :
    second.registries.map (·.hub) = first.registries.map (·.hub) := by
  have rows := congrArg (List.map (·.hub)) books.registries
  rwa [List.map_map, List.map_map] at rows

theorem SameBooks.backendHubs {first second : Switchboard} (books : SameBooks first second) :
    second.backends.map (·.hub) = first.backends.map (·.hub) := by
  have rows := congrArg (List.map (·.hub)) books.backends
  rwa [List.map_map, List.map_map] at rows

theorem SameBooks.clientHubs {first second : Switchboard} (books : SameBooks first second) :
    second.clients.map (·.hub) = first.clients.map (·.hub) := by
  have rows := congrArg (List.map (·.hub)) books.clients
  rwa [List.map_map, List.map_map] at rows

theorem Placed.of_books {first second : Switchboard} (placed : Placed first hub numbers)
    (books : SameBooks first second) : Placed second hub numbers :=
  placed.congr books.registryHubs books.backendHubs books.clientHubs

theorem Placed.after_updateBackend (placed : Placed board hub numbers) (key : BackendKey)
    {change : Backend → Backend} (keeps : ∀ backend, (change backend).hub = backend.hub) :
    Placed (board.updateBackend key change) hub numbers :=
  placed.congr rfl (map_modify_of_same _ key _ _ fun backend _ => keeps backend) rfl

theorem Placed.after_updateClient (placed : Placed board hub numbers) (key : ClientKey)
    {change : Client → Client} (keeps : ∀ client, (change client).hub = client.hub) :
    Placed (board.updateClient key change) hub numbers :=
  placed.congr rfl rfl (map_modify_of_same _ key _ _ fun client _ => keeps client)

theorem Placed.after_updateRegistry (placed : Placed board hub numbers) (key : RegistryKey)
    {change : Registry → Registry} (keeps : ∀ registry, (change registry).hub = registry.hub) :
    Placed (board.updateRegistry key change) hub numbers :=
  placed.congr (map_modify_of_same _ key _ _ fun registry _ => keeps registry) rfl rfl

theorem issuedIn_of_books {first second : Switchboard} (hub : String)
    (books : SameBooks first second) : second.issuedIn hub = first.issuedIn hub :=
  issuedIn_congr hub books.backendHubs books.clientHubs

end Switchboard

end HubRelay
