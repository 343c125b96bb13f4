import HubRelay.Proofs.Switchboard.Traffic

/-!
Contract: the books of a switchboard are in order.

Owns: that registries list exactly the open backends and the clients that somebody holds, that the
map of hubs leads to the registry of everybody who is listed and to no empty one that admits
backends, that ids are given out once, and that every operation keeps all this.

Does not own: who holds which client.

A registry may be empty between two halves of an operation: when it was made for a backend that is
yet to be added, and when its last entry was removed and it is yet to be taken off the map.  Such a
registry is named as the spare one.  A registry that was made for a backend and admits none stays
empty.
-/

namespace HubRelay

/-- Whether a backend is open and belongs to a registry. -/
def Backend.isListed (registry : RegistryKey) (backend : Backend) : Bool :=
  !backend.queue.closed && backend.registry == registry

/-- Whether somebody holds a client of a key, and it belongs to a registry. -/
def Client.isListed (held : ClientKey → Bool) (registry : RegistryKey) (key : ClientKey)
    (client : Client) : Bool :=
  held key && client.registry == registry

/-- A registry has a reason to be on the map: somebody is in it, unless it admits no backends. -/
def Registry.Justified (registry : Registry) : Prop :=
  registry.Admits → registry.isEmpty = false

namespace Switchboard

/-- The books are in order, with somebody holding the clients that are held, and perhaps with an
empty registry to spare. -/
structure Sound (board : Switchboard) (held : ClientKey → Bool) (spare : Option RegistryKey) :
    Prop where
  mapped : ∀ {hub key}, board.hub? hub = some key →
    ∃ registry, board.registryOf? key = some registry ∧ registry.hub = hub ∧
      (spare ≠ some key → registry.Justified)
  backends : ∀ {key registry}, board.registryOf? key = some registry →
    registry.backends = indices board.backends fun _ => Backend.isListed key
  clients : ∀ {key registry}, board.registryOf? key = some registry →
    registry.clients = indices board.clients (Client.isListed held key)
  backendMapped : ∀ {key backend}, board.backend? key = some backend →
    backend.queue.closed = false → board.hub? backend.hub = some backend.registry
  clientMapped : ∀ {key client}, board.client? key = some client → held key = true →
    board.hub? client.hub = some client.registry
  ids : ∃ serials : List Nat, board.clients.map (·.id) = serials.map Identifier.ofSerial ∧
    serials.Nodup ∧ ∀ serial ∈ serials, serial < board.issued

variable {board : Switchboard} {held : ClientKey → Bool} {spare : Option RegistryKey}

theorem sound_start (settings : Settings) (held : ClientKey → Bool) :
    Sound (.start settings) held none where
  mapped := by intro hub key found; simp [hub?, start, Dictionary.get?, Dictionary.empty] at found
  backends := by intro key registry found; simp [registryOf?, start] at found
  clients := by intro key registry found; simp [registryOf?, start] at found
  backendMapped := by intro key backend found; simp [backend?, start] at found
  clientMapped := by intro key client found; simp [client?, start] at found
  ids := ⟨[], rfl, List.nodup_nil, by simp⟩

/-! ## What is read off the books -/

namespace Sound

/-- The books are in order whatever is said about clients that were never added. -/
theorem congr {other : ClientKey → Bool} (sound : Sound board held spare)
    (same : ∀ key < board.clients.length, other key = held key) : Sound board other spare where
  mapped := sound.mapped
  backends := sound.backends
  clients := by
    intro key registry found
    rw [sound.clients found]
    refine (indices_congr fun client entry here => ?_).symm
    simp only [Client.isListed, same client (List.getElem?_eq_some_iff.1 here).1]
  backendMapped := sound.backendMapped
  clientMapped := by
    intro key client found holds
    rw [same key (List.getElem?_eq_some_iff.1 found).1] at holds
    exact sound.clientMapped found holds
  ids := sound.ids

/-- Any registry may be taken for the spare one. -/
theorem weaken (sound : Sound board held none) : Sound board held spare :=
  { sound with
    mapped := by
      intro hub key found
      obtain ⟨registry, here, named, filled⟩ := sound.mapped found
      exact ⟨registry, here, named, fun _ => filled (Option.some_ne_none key).symm⟩ }

theorem registry_of_backend (sound : Sound board held spare) {key : BackendKey}
    {backend : Backend} (found : board.backend? key = some backend)
    (opened : backend.queue.closed = false) :
    ∃ registry, board.registryOf? backend.registry = some registry ∧
      registry.hub = backend.hub := by
  obtain ⟨registry, here, named, -⟩ := sound.mapped (sound.backendMapped found opened)
  exact ⟨registry, here, named⟩

theorem registry_of_client (sound : Sound board held spare) {key : ClientKey}
    {client : Client} (found : board.client? key = some client) (holds : held key = true) :
    ∃ registry, board.registryOf? client.registry = some registry ∧
      registry.hub = client.hub := by
  obtain ⟨registry, here, named, -⟩ := sound.mapped (sound.clientMapped found holds)
  exact ⟨registry, here, named⟩

theorem backends_of_missing (sound : Sound board held spare) {registry : RegistryKey}
    (missing : board.registryOf? registry = none) :
    indices board.backends (fun _ => Backend.isListed registry) = [] := by
  refine indices_eq_nil fun key backend found => ?_
  by_cases opened : backend.queue.closed = false
  · obtain ⟨entry, here, -⟩ := sound.registry_of_backend found opened
    have different : backend.registry ≠ registry := by
      rintro rfl
      rw [missing] at here
      contradiction
    simp [Backend.isListed, different]
  · simp [Backend.isListed, opened]

theorem clients_of_missing (sound : Sound board held spare) {registry : RegistryKey}
    (missing : board.registryOf? registry = none) :
    indices board.clients (Client.isListed held registry) = [] := by
  refine indices_eq_nil fun key client found => ?_
  by_cases holds : held key = true
  · obtain ⟨entry, here, -⟩ := sound.registry_of_client found holds
    have different : client.registry ≠ registry := by
      rintro rfl
      rw [missing] at here
      contradiction
    simp [Client.isListed, different]
  · simp [Client.isListed, holds]

/-- Clients of one id are one client. -/
theorem client_of_id (sound : Sound board held spare) {one other : ClientKey}
    {client same : Client} (found : board.client? one = some client)
    (foundSame : board.client? other = some same) (ids : same.id = client.id) : other = one := by
  obtain ⟨serials, given, distinct, -⟩ := sound.ids
  have serialOf {key : ClientKey} {client : Client} (here : board.client? key = some client) :
      ∃ serial, serials[key]? = some serial ∧ client.id = Identifier.ofSerial serial := by
    have row := congrArg (·[key]?) given
    simp only [List.getElem?_map, show board.clients[key]? = some client from here] at row
    obtain ⟨serial, position, named⟩ := Option.map_eq_some_iff.1 row.symm
    exact ⟨serial, position, named.symm⟩
  obtain ⟨serial, here, named⟩ := serialOf found
  obtain ⟨serial', here', named'⟩ := serialOf foundSame
  have equal : serial' = serial := by
    apply Identifier.ofSerial_injective
    rw [← named', ids, named]
  rw [equal, ← here] at here'
  have within : one < serials.length := (List.getElem?_eq_some_iff.1 here).1
  exact ((List.getElem?_inj within distinct).1 here'.symm).symm

/-! ## Traffic -/

/-- While nobody comes, leaves or closes, the books stay in order. -/
theorem of_sameBooks {later : Switchboard} (sound : Sound board held spare)
    (books : SameBooks board later) : Sound later held spare := by
  have hubs (hub : String) : later.hub? hub = board.hub? hub := by rw [hub?, hub?, books.hubs]
  constructor
  case mapped =>
    intro hub key found
    rw [hubs] at found
    obtain ⟨registry, here, named, filled⟩ := sound.mapped found
    obtain ⟨entry, there, same⟩ := entry_of_map_eq books.registries.symm here
    refine ⟨entry, there, (congrArg (·.hub) same).trans named, fun notSpare => ?_⟩
    have backends : entry.backends = registry.backends := congrArg (·.backends) same
    have clients : entry.clients = registry.clients := congrArg (·.clients) same
    have capacity : entry.queueCapacity = registry.queueCapacity :=
      congrArg (·.queueCapacity) same
    rw [Registry.Justified, Registry.Admits, Registry.isEmpty, backends, clients, capacity]
    exact filled notSpare
  case backends =>
    intro key registry found
    obtain ⟨entry, here, same⟩ := entry_of_map_eq books.registries found
    have backends : entry.backends = registry.backends := congrArg (·.backends) same
    rw [← backends, sound.backends here]
    refine (indices_of_map_eq books.backends fun _ one two agree => ?_).symm
    have closed : one.queue.closed = two.queue.closed := congrArg (·.queue.closed) agree
    have registries : one.registry = two.registry := congrArg (·.registry) agree
    rw [Backend.isListed, Backend.isListed, closed, registries]
  case clients =>
    intro key registry found
    obtain ⟨entry, here, same⟩ := entry_of_map_eq books.registries found
    have clients : entry.clients = registry.clients := congrArg (·.clients) same
    rw [← clients, sound.clients here]
    refine (indices_of_map_eq books.clients fun _ one two agree => ?_).symm
    have registries : one.registry = two.registry := congrArg (·.registry) agree
    rw [Client.isListed, Client.isListed, registries]
  case backendMapped =>
    intro key backend found opened
    obtain ⟨entry, here, same⟩ := entry_of_map_eq books.backends found
    have closed : entry.queue.closed = backend.queue.closed := congrArg (·.queue.closed) same
    have named : entry.hub = backend.hub := congrArg (·.hub) same
    have registries : entry.registry = backend.registry := congrArg (·.registry) same
    rw [hubs, ← named, ← registries]
    exact sound.backendMapped here (closed.trans opened)
  case clientMapped =>
    intro key client found holds
    obtain ⟨entry, here, same⟩ := entry_of_map_eq books.clients found
    have named : entry.hub = client.hub := congrArg (·.hub) same
    have registries : entry.registry = client.registry := congrArg (·.registry) same
    rw [hubs, ← named, ← registries]
    exact sound.clientMapped here holds
  case ids =>
    obtain ⟨serials, given, distinct, bounded⟩ := sound.ids
    refine ⟨serials, ?_, distinct, by rw [books.issued]; exact bounded⟩
    have ids := congrArg (List.map (·.id)) books.clients
    simp only [List.map_map] at ids
    exact ids.trans given

/-! ## Changing one registry -/

/-- The map leads to registries as before where one of them is changed that keeps its hub, and
that holds something then or is the spare one. -/
theorem mapped_modify (sound : Sound board held spare) {key : RegistryKey}
    {change : Registry → Registry} {spareThen : Option RegistryKey}
    (sameHub : ∀ registry, (change registry).hub = registry.hub)
    (filledThen : spareThen ≠ some key → ∀ registry, (change registry).isEmpty = false)
    (elsewhere : ∀ other, key ≠ other → spare ≠ some other) {hub : String} {found : RegistryKey}
    (mapped : board.hub? hub = some found) :
    ∃ registry, (board.registries.modify key change)[found]? = some registry ∧
      registry.hub = hub ∧ (spareThen ≠ some found → registry.Justified) := by
  obtain ⟨registry, here, named, filled⟩ := sound.mapped mapped
  by_cases same : key = found
  · subst same
    exact ⟨change registry, getElem?_modify_of_some _ here, (sameHub registry).trans named,
      fun notSpare _ => filledThen notSpare registry⟩
  · refine ⟨registry, ?_, named, fun _ => filled (elsewhere found same)⟩
    exact (List.getElem?_modify_ne _ board.registries same).trans here

theorem backends_modify (sound : Sound board held spare) {key other : RegistryKey}
    {change : Registry → Registry} {registry : Registry}
    (same : ∀ registry, (change registry).backends = registry.backends)
    (here : (board.registries.modify key change)[other]? = some registry) :
    registry.backends = indices board.backends fun _ => Backend.isListed other := by
  rcases entry_of_modify here with ⟨-, before, old, rfl⟩ | ⟨-, old⟩
  · rw [same before]
    exact sound.backends old
  · exact sound.backends old

theorem clients_modify (sound : Sound board held spare) {key other : RegistryKey}
    {change : Registry → Registry} {registry : Registry}
    (same : ∀ registry, (change registry).clients = registry.clients)
    (here : (board.registries.modify key change)[other]? = some registry) :
    registry.clients = indices board.clients (Client.isListed held other) := by
  rcases entry_of_modify here with ⟨-, before, old, rfl⟩ | ⟨-, old⟩
  · rw [same before]
    exact sound.clients old
  · exact sound.clients old

/-! ## Backends come and leave -/

/-- A hub has a registry, perhaps a spare one, once it was opened. -/
theorem openHub (sound : Sound board held none) (hub : String) :
    Sound (board.openHub hub).2 held (some (board.openHub hub).1) ∧
      (board.openHub hub).2.hub? hub = some (board.openHub hub).1 := by
  unfold Switchboard.openHub
  cases found : board.hub? hub with
  | some key => exact ⟨sound.weaken, found⟩
  | none =>
    have hubs (other : String) (different : other ≠ hub) :
        (board.hubs.insert hub board.registries.length).get? other = board.hub? other :=
      board.hubs.get?_insert_of_ne _ different
    have known {other : String} {key : RegistryKey} (here : board.hub? other = some key) :
        other ≠ hub := by
      rintro rfl
      rw [found] at here
      contradiction
    have missing : board.registryOf? board.registries.length = none :=
      List.getElem?_eq_none (Nat.le_refl _)
    refine ⟨?_, board.hubs.get?_insert_self hub _⟩
    constructor
    case mapped =>
      intro other key here
      by_cases same : other = hub
      · subst same
        obtain rfl : board.registries.length = key :=
          Option.some.inj ((board.hubs.get?_insert_self other _).symm.trans here)
        exact ⟨_, List.getElem?_concat_length, rfl, fun notSpare => absurd rfl notSpare⟩
      · have before : board.hub? other = some key := (hubs other same).symm.trans here
        obtain ⟨registry, there, named, filled⟩ := sound.mapped before
        exact ⟨registry, getElem?_concat_of_some _ there, named,
          fun _ => filled (Option.some_ne_none key).symm⟩
    case backends =>
      intro key registry here
      rcases entry_of_concat here with old | ⟨rfl, rfl⟩
      · exact sound.backends old
      · exact (sound.backends_of_missing missing).symm
    case clients =>
      intro key registry here
      rcases entry_of_concat here with old | ⟨rfl, rfl⟩
      · exact sound.clients old
      · exact (sound.clients_of_missing missing).symm
    case backendMapped =>
      intro key backend here opened
      have before := sound.backendMapped here opened
      exact (hubs backend.hub (known before)).trans before
    case clientMapped =>
      intro key client here holds
      have before := sound.clientMapped here holds
      exact (hubs client.hub (known before)).trans before
    case ids => exact sound.ids

/-- A registry that has a reason to be on the map need not be spared. -/
theorem fill {key : RegistryKey} (sound : Sound board held (some key))
    (filled : ∀ {hub registry}, board.hub? hub = some key → board.registryOf? key = some registry →
      registry.hub = hub → registry.Justified) : Sound board held none :=
  { sound with
    mapped := by
      intro hub found mapped
      obtain ⟨registry, here, named, filledElse⟩ := sound.mapped mapped
      refine ⟨registry, here, named, fun _ => ?_⟩
      by_cases same : key = found
      · subst same
        exact filled mapped here named
      · exact filledElse fun spare => same (Option.some.inj spare) }

theorem placeBackend {key : RegistryKey} {hub : String} {registry : Registry} {queue : EventQueue}
    (sound : Sound board held (some key)) (mapped : board.hub? hub = some key)
    (named : registry.hub = hub)
    (opened : queue.closed = false) (identity : String) (events : List String) :
    Sound (board.placeBackend key registry queue identity events) held none := by
  constructor
  case mapped =>
    intro other found foundMapped
    refine sound.mapped_modify ?sameHub ?filled ?elsewhere foundMapped
    case sameHub => exact fun _ => rfl
    case filled =>
      intro _ registry
      simp [Registry.isEmpty]
    case elsewhere => exact fun other different spare => different (Option.some.inj spare)
  case backends =>
    intro found entry there
    simp only [Switchboard.placeBackend, indices_concat]
    rcases entry_of_modify there with ⟨rfl, before, old, rfl⟩ | ⟨different, old⟩
    · simp [Backend.isListed, opened, sound.backends old]
    · simp [Backend.isListed, different, sound.backends old]
  case clients =>
    intro other entry here
    refine sound.clients_modify ?_ here
    exact fun _ => rfl
  case backendMapped =>
    intro backend entry found isOpen
    rcases entry_of_concat found with old | ⟨rfl, rfl⟩
    · exact sound.backendMapped old isOpen
    · exact (congrArg board.hub? named).trans mapped
  case clientMapped => exact sound.clientMapped
  case ids =>
    obtain ⟨serials, given, distinct, bounded⟩ := sound.ids
    exact ⟨serials, given, distinct, fun serial member => Nat.lt_succ_of_lt (bounded serial member)⟩

theorem tryAddBackend {key : RegistryKey} {hub : String}
    (sound : Sound board held (some key)) (mapped : board.hub? hub = some key)
    (identity : String) (events : List String) :
    Sound (board.tryAddBackend key identity events).2 held none := by
  rcases board.tryAddBackend_cases key identity events with
    ⟨registry, here, -, added⟩ | ⟨refuses, brokeOff⟩
  · obtain ⟨same, there, named, -⟩ := sound.mapped mapped
    obtain rfl := Option.some.inj (here.symm.trans there)
    rw [added]
    exact sound.placeBackend mapped named rfl identity events
  · -- the registry may stay empty, because it admits nobody
    rw [brokeOff]
    exact sound.fill fun _ here _ admits => absurd admits (refuses _ here)

theorem tryRegister (sound : Sound board held none) (hub identity : String)
    (events : List String) : Sound (board.tryRegister hub identity events).2 held none := by
  obtain ⟨opened, mapped⟩ := sound.openHub hub
  exact opened.tryAddBackend mapped identity events

/-- An empty registry can be taken off the map, because nobody belongs to it. -/
theorem eraseEmpty {key : RegistryKey} {registry : Registry} (sound : Sound board held (some key))
    (here : board.registryOf? key = some registry) (mapped : board.hub? registry.hub = some key)
    (empty : registry.isEmpty = true) :
    Sound { board with hubs := board.hubs.erase registry.hub } held none := by
  rw [Registry.isEmpty, Bool.and_eq_true, List.isEmpty_iff, List.isEmpty_iff] at empty
  obtain ⟨noBackends, noClients⟩ := empty
  have hubs (other : String) (different : other ≠ registry.hub) :
      (board.hubs.erase registry.hub).get? other = board.hub? other :=
    board.hubs.get?_erase_of_ne different
  constructor
  case mapped =>
    intro hub found foundMapped
    have different : hub ≠ registry.hub := by
      rintro rfl
      have erased := board.hubs.get?_erase_self registry.hub
      rw [show (board.hubs.erase registry.hub).get? registry.hub = some found from foundMapped]
        at erased
      contradiction
    have before := (hubs hub different).symm.trans foundMapped
    obtain ⟨entry, there, named, filled⟩ := sound.mapped before
    refine ⟨entry, there, named, fun _ => filled fun same => different ?_⟩
    rw [Option.some.inj same, there] at here
    rw [← named, Option.some.inj here]
  case backends => exact sound.backends
  case clients => exact sound.clients
  case backendMapped =>
    intro backend entry found opened
    have before := sound.backendMapped found opened
    refine (hubs entry.hub fun same => ?_).trans before
    -- an open backend of the hub would be listed in the registry
    rw [same, mapped] at before
    have listed : backend ∈ registry.backends := by
      rw [sound.backends here]
      exact mem_indices.2 ⟨entry, found, by
        simp [Backend.isListed, opened, Option.some.inj before]⟩
    rw [noBackends] at listed
    contradiction
  case clientMapped =>
    intro client entry found holds
    have before := sound.clientMapped found holds
    refine (hubs entry.hub fun same => ?_).trans before
    rw [same, mapped] at before
    have listed : client ∈ registry.clients := by
      rw [sound.clients here]
      exact mem_indices.2 ⟨entry, found, by
        simp [Client.isListed, holds, Option.some.inj before]⟩
    rw [noClients] at listed
    contradiction
  case ids => exact sound.ids

/-- A registry that was to spare is taken off the map if it is empty. -/
theorem prune {key : RegistryKey} (sound : Sound board held (some key)) :
    Sound (board.prune key) held none := by
  unfold Switchboard.prune
  cases here : board.registryOf? key with
  | none =>
    -- the map does not lead to a registry that there is not
    refine sound.fill fun _ there _ => ?_
    rw [here] at there
    contradiction
  | some spare =>
    simp only
    split
    · next empty => exact sound.eraseEmpty here empty.1 empty.2
    · next kept =>
      refine sound.fill fun mapped there named => ?_
      obtain rfl := Option.some.inj (here.symm.trans there)
      rw [named] at kept
      exact fun _ => Bool.eq_false_iff.2 fun empty => kept ⟨mapped, empty⟩

theorem closeEntry (sound : Sound board held none) {key : BackendKey} {backend : Backend}
    (found : board.backend? key = some backend) :
    Sound ((board.setQueue key backend.queue.close).removeBackend backend.registry key) held
      (some backend.registry) := by
  constructor
  case mapped =>
    intro hub found foundMapped
    refine sound.mapped_modify ?sameHub ?filled ?elsewhere foundMapped
    case sameHub => exact fun _ => rfl
    case filled => exact fun notSpare => absurd rfl notSpare
    case elsewhere => exact fun other _ => (Option.some_ne_none other).symm
  case backends =>
    intro other registry here
    have left : indices (board.backends.modify key fun entry =>
        { entry with queue := backend.queue.close }) (fun _ => Backend.isListed other) =
        (indices board.backends fun _ => Backend.isListed other).filter (· ≠ key) :=
      indices_modify_of_dropped (fun entry _ => by simp [Backend.isListed, EventQueue.close])
        fun _ _ _ => rfl
    refine Eq.trans ?_ left.symm
    rcases entry_of_modify here with ⟨rfl, before, old, rfl⟩ | ⟨different, old⟩
    · simp only [sound.backends old]
    · -- a backend is listed in its own registry only
      rw [sound.backends old]
      refine (List.filter_eq_self.2 fun listed member => ?_).symm
      obtain ⟨entry, there, isListed⟩ := mem_indices.1 member
      simp only [Backend.isListed, Bool.and_eq_true, beq_iff_eq] at isListed
      simp only [decide_eq_true_eq]
      rintro rfl
      obtain rfl : backend = entry := Option.some.inj (found.symm.trans there)
      exact different isListed.2
  case clients =>
    intro other entry here
    refine sound.clients_modify ?_ here
    exact fun _ => rfl
  case backendMapped =>
    intro other entry here opened
    rcases entry_of_modify here with ⟨-, before, old, rfl⟩ | ⟨-, old⟩
    · simp [EventQueue.close] at opened
    · exact sound.backendMapped old opened
  case clientMapped => exact sound.clientMapped
  case ids => exact sound.ids

theorem closeBackend (sound : Sound board held none) (key : BackendKey) :
    Sound (board.closeBackend key) held none := by
  unfold Switchboard.closeBackend
  cases found : board.backend? key with
  | none => exact sound
  | some backend =>
    simp only
    split
    · exact sound
    · exact (sound.closeEntry found).prune

theorem dropBackend (sound : Sound board held none) (key : BackendKey) :
    Sound (board.dropBackend key) held none :=
  (sound.closeBackend key).of_sameBooks (sameBooks_dropBackend board key)

/-! ## Clients come and leave -/

theorem addClient {key : RegistryKey} {hub : String} (sound : Sound board held none)
    (mapped : board.hub? hub = some key) (backendId : String) (context : Context) :
    Sound (board.addClient key backendId context).2
      (fun client => held client || client == board.clients.length) none := by
  obtain ⟨registry, here, named, -⟩ := sound.mapped mapped
  have before (client : ClientKey) (entry : Client) (found : board.clients[client]? = some entry) :
      (held client || client == board.clients.length) = held client := by
    have within : client < board.clients.length := (List.getElem?_eq_some_iff.1 found).1
    simp [Nat.ne_of_lt within]
  unfold Switchboard.addClient
  rw [here]
  simp only
  constructor
  case mapped =>
    intro other found foundMapped
    refine sound.mapped_modify ?sameHub ?filled ?elsewhere foundMapped
    case sameHub => exact fun _ => rfl
    case filled =>
      intro _ registry
      simp [Registry.isEmpty]
    case elsewhere => exact fun other _ => (Option.some_ne_none other).symm
  case backends =>
    intro other entry here
    refine sound.backends_modify ?_ here
    exact fun _ => rfl
  case clients =>
    intro found entry there
    have listed : indices board.clients (Client.isListed (fun client =>
        held client || client == board.clients.length) found) =
        indices board.clients (Client.isListed held found) :=
      indices_congr fun client entry here => by
        simp only [Client.isListed, before client entry here]
    simp only [indices_concat, listed]
    rcases entry_of_modify there with ⟨rfl, earlier, old, rfl⟩ | ⟨different, old⟩
    · simp [Client.isListed, sound.clients old]
    · simp [Client.isListed, different, sound.clients old]
  case backendMapped => exact sound.backendMapped
  case clientMapped =>
    intro client entry found holds
    rcases entry_of_concat found with old | ⟨rfl, rfl⟩
    · rw [before client entry old] at holds
      exact sound.clientMapped old holds
    · exact (congrArg board.hub? named).trans mapped
  case ids =>
    obtain ⟨serials, given, distinct, bounded⟩ := sound.ids
    refine ⟨serials ++ [board.issued], ?_, ?_, ?_⟩
    · simp only [List.map_append, List.map_cons, List.map_nil, given, nextId]
    · refine List.nodup_append.2 ⟨distinct, by simp, ?_⟩
      intro serial member last isLast
      rw [List.mem_singleton.1 isLast]
      exact Nat.ne_of_lt (bounded serial member)
    · intro serial member
      rcases List.mem_append.1 member with old | new
      · exact Nat.lt_succ_of_lt (bounded serial old)
      · rw [List.mem_singleton.1 new]
        exact Nat.lt_succ_self board.issued

/-- A client that was routed is new, of the hub and with the context that were asked for, and
undecided; and the books are in order if somebody holds it. -/
theorem route_ok (sound : Sound board held none) {hub event : String} {context : Context}
    {backend : BackendKey} {client : ClientKey} {later : Switchboard}
    (routed : board.route hub context event = (.ok (backend, client), later)) :
    client = board.clients.length ∧ later.backends = board.backends ∧
      (∃ entry, later.clients = board.clients ++ [entry] ∧ entry.hub = hub ∧
        entry.context = context ∧ entry.handshake.state = .pending ∧ entry.outbound = none) ∧
      Sound later (fun key => held key || key == board.clients.length) none := by
  rcases board.route_cases hub context event with
    ⟨error, rest, refused, -⟩ | ⟨key, choice, picked, mapped, selected, answered⟩
  · rw [refused] at routed
    cases routed
  · have traffic : Traffic none board (board.selectBackend key event).2 :=
      traffic_selectBackend board key event
    have clients : (board.selectBackend key event).2.clients = board.clients := by
      unfold selectBackend
      split <;> rfl
    have backends : (board.selectBackend key event).2.backends = board.backends := by
      unfold selectBackend
      split <;> rfl
    rw [selected] at traffic clients backends
    have mappedLater : picked.hub? hub = some key := by
      rw [hub?, traffic.books.hubs]
      exact mapped
    have soundPicked := sound.of_sameBooks traffic.books
    obtain ⟨registry, here, named, -⟩ := soundPicked.mapped mappedLater
    have soundLater := soundPicked.addClient mappedLater
      (((picked.backend? choice).map (·.id)).getD "") context
    rw [answered] at routed
    cases routed
    rw [clients] at soundLater
    unfold Switchboard.addClient at soundLater ⊢
    simp only [here] at soundLater ⊢
    exact ⟨trivial, backends, ⟨_, congrArg (· ++ [_]) clients, named, rfl, rfl, rfl⟩, soundLater⟩

theorem dropEntry (sound : Sound board held none) {key : ClientKey} {client : Client}
    (found : board.client? key = some client) :
    Sound ((board.updateClient key fun client => { client with outbound := none }).removeClient
      client.registry key) (fun other => held other && other != key) (some client.registry) := by
  constructor
  case mapped =>
    intro hub found foundMapped
    refine sound.mapped_modify ?sameHub ?filled ?elsewhere foundMapped
    case sameHub => exact fun _ => rfl
    case filled => exact fun notSpare => absurd rfl notSpare
    case elsewhere => exact fun other _ => (Option.some_ne_none other).symm
  case backends =>
    intro other entry here
    refine sound.backends_modify ?_ here
    exact fun _ => rfl
  case clients =>
    intro other registry here
    have left : indices (board.clients.modify key fun entry => { entry with outbound := none })
        (Client.isListed (fun other => held other && other != key) other) =
        (indices board.clients (Client.isListed held other)).filter (· ≠ key) :=
      indices_modify_of_dropped (fun entry _ => by simp [Client.isListed])
        fun position entry different => by
          simp only [Client.isListed, bne_iff_ne.2 different, Bool.and_true]
    refine Eq.trans ?_ left.symm
    rcases entry_of_modify here with ⟨rfl, before, old, rfl⟩ | ⟨different, old⟩
    · simp only [sound.clients old]
    · -- a client is listed in its own registry only
      rw [sound.clients old]
      refine (List.filter_eq_self.2 fun listed member => ?_).symm
      obtain ⟨entry, there, isListed⟩ := mem_indices.1 member
      simp only [Client.isListed, Bool.and_eq_true, beq_iff_eq] at isListed
      simp only [decide_eq_true_eq]
      rintro rfl
      obtain rfl : client = entry := Option.some.inj (found.symm.trans there)
      exact different isListed.2
  case backendMapped => exact sound.backendMapped
  case clientMapped =>
    intro other entry here holds
    rw [Bool.and_eq_true] at holds
    rcases entry_of_modify here with ⟨-, before, old, rfl⟩ | ⟨-, old⟩
    · have mapped : board.hub? before.hub = some before.registry := sound.clientMapped old holds.1
      exact mapped
    · exact sound.clientMapped old holds.1
  case ids =>
    obtain ⟨serials, given, distinct, bounded⟩ := sound.ids
    refine ⟨serials, Eq.trans ?_ given, distinct, bounded⟩
    exact map_modify_of_same board.clients key _ (·.id) fun _ _ => rfl

theorem dropClient (sound : Sound board held none) (key : ClientKey) :
    Sound (board.dropClient key) (fun other => held other && other != key) none := by
  unfold Switchboard.dropClient
  cases found : board.client? key with
  | none =>
    refine sound.congr fun other within => ?_
    have different : other ≠ key := by
      rintro rfl
      rw [client?, List.getElem?_eq_none_iff] at found
      omega
    simp [different]
  | some client => exact (sound.dropEntry found).prune

end Sound

end Switchboard

end HubRelay
