import HubRelay.Proofs.Switchboard.Sound

/-!
Contract: what books that are in order say about hubs.

Owns: which hubs are named, what is counted in them, that closing a backend twice is closing it
once, and how a hub starts that has nobody.

Does not own: that the books are in order.
-/

namespace HubRelay

namespace Switchboard

/-- Whether a backend was registered with a hub. -/
def backendIn (board : Switchboard) (hub : String) (key : BackendKey) : Bool :=
  (board.backend? key).any (·.hub == hub)

/-- Whether a client was routed in a hub. -/
def clientIn (board : Switchboard) (hub : String) (key : ClientKey) : Bool :=
  (board.client? key).any (·.hub == hub)

variable {board : Switchboard} {held : ClientKey → Bool} {hub : String} {key : RegistryKey}
  {registry : Registry}

namespace Sound

theorem backends_eq (sound : Sound board held none) (mapped : board.hub? hub = some key)
    (found : board.registryOf? key = some registry) :
    registry.backends =
      (indices board.backends fun _ backend => !backend.queue.closed).filter
        (board.backendIn hub) := by
  rw [sound.backends found]
  have keep (index : Nat) (backend : Backend) (here : board.backends[index]? = some backend) :
      board.backendIn hub index = (backend.hub == hub) := by
    rw [backendIn, show board.backend? index = some backend from here]
    rfl
  rw [filter_indices keep]
  refine (indices_congr fun index backend here => ?_).symm
  -- among open backends, those of the hub are those of its registry
  cases closed : backend.queue.closed with
  | true => simp [Backend.isListed, closed]
  | false =>
    have mappedBackend := sound.backendMapped here closed
    simp only [Backend.isListed, closed, Bool.not_false, Bool.true_and]
    rw [Bool.eq_iff_iff, beq_iff_eq, beq_iff_eq]
    constructor
    · intro named
      rw [named, mapped] at mappedBackend
      exact (Option.some.inj mappedBackend).symm
    · intro same
      obtain ⟨entry, there, named⟩ := sound.registry_of_backend here closed
      obtain ⟨own, thereOwn, namedOwn, -⟩ := sound.mapped mapped
      rw [same, thereOwn] at there
      rw [← named, ← namedOwn, Option.some.inj there]

theorem clients_eq (sound : Sound board held none) (mapped : board.hub? hub = some key)
    (found : board.registryOf? key = some registry) :
    registry.clients = (indices board.clients fun index _ => held index).filter
      (board.clientIn hub) := by
  rw [sound.clients found]
  have keep (index : Nat) (client : Client) (here : board.clients[index]? = some client) :
      board.clientIn hub index = (client.hub == hub) := by
    rw [clientIn, show board.client? index = some client from here]
    rfl
  rw [filter_indices keep]
  refine (indices_congr fun index client here => ?_).symm
  cases holds : held index with
  | false => simp [Client.isListed, holds]
  | true =>
    have mappedClient := sound.clientMapped here holds
    simp only [Client.isListed, holds, Bool.true_and]
    rw [Bool.eq_iff_iff, beq_iff_eq, beq_iff_eq]
    constructor
    · intro named
      rw [named, mapped] at mappedClient
      exact (Option.some.inj mappedClient).symm
    · intro same
      obtain ⟨entry, there, named⟩ := sound.registry_of_client here holds
      obtain ⟨own, thereOwn, namedOwn, -⟩ := sound.mapped mapped
      rw [same, thereOwn] at there
      rw [← named, ← namedOwn, Option.some.inj there]

/-- The hubs that are named are those with an open backend or a client that somebody holds, where
every registry admits backends. -/
theorem mem_hubNames_iff (sound : Sound board held none)
    (admits : ∀ {key registry}, board.registryOf? key = some registry → registry.Admits)
    (hub : String) :
    hub ∈ board.hubNames ↔
      (∃ index ∈ indices board.backends (fun _ backend => !backend.queue.closed),
        board.backendIn hub index = true) ∨
      ∃ index ∈ indices board.clients (fun index _ => held index),
        board.clientIn hub index = true := by
  rw [hubNames, Dictionary.mem_names_iff]
  constructor
  · rintro ⟨key, mapped⟩
    obtain ⟨registry, found, -, filled⟩ := sound.mapped mapped
    have notEmpty := filled (Option.some_ne_none key).symm (admits found)
    rw [Registry.isEmpty, sound.backends_eq mapped found, sound.clients_eq mapped found,
      Bool.and_eq_false_iff, List.isEmpty_eq_false_iff, List.isEmpty_eq_false_iff] at notEmpty
    refine notEmpty.imp ?_ ?_
    · intro some
      obtain ⟨index, member⟩ := List.exists_mem_of_ne_nil _ some
      exact ⟨index, (List.mem_filter.1 member).1, (List.mem_filter.1 member).2⟩
    · intro some
      obtain ⟨index, member⟩ := List.exists_mem_of_ne_nil _ some
      exact ⟨index, (List.mem_filter.1 member).1, (List.mem_filter.1 member).2⟩
  · rintro (⟨index, member, belongs⟩ | ⟨index, member, belongs⟩)
    · obtain ⟨backend, found, opened⟩ := mem_indices.1 member
      rw [backendIn, show board.backend? index = some backend from found, Option.any_some,
        beq_iff_eq] at belongs
      exact ⟨_, belongs ▸ sound.backendMapped found (by simpa using opened)⟩
    · obtain ⟨client, found, holds⟩ := mem_indices.1 member
      rw [clientIn, show board.client? index = some client from found, Option.any_some,
        beq_iff_eq] at belongs
      exact ⟨_, belongs ▸ sound.clientMapped found holds⟩

theorem hubStats_of_mem (sound : Sound board held none) (named : hub ∈ board.hubNames) :
    board.hubStats hub = some
      { backends := (indices board.backends fun _ backend =>
          !backend.queue.closed).countP (board.backendIn hub)
        clients := (indices board.clients fun index _ => held index).countP (board.clientIn hub)
        approvedClients := (indices board.clients fun index _ => held index).countP fun index =>
          board.clientIn hub index && board.isApproved index } := by
  rw [hubNames, Dictionary.mem_names_iff] at named
  obtain ⟨key, mapped⟩ := named
  obtain ⟨registry, found, -, -⟩ := sound.mapped mapped
  have mapped' : board.hub? hub = some key := mapped
  rw [hubStats, mapped', Option.bind_some, found, Option.map_some, registryStats,
    sound.backends_eq mapped found, sound.clients_eq mapped found, List.filter_filter]
  simp only [List.countP_eq_length_filter]
  congr 4
  funext index
  exact Bool.and_comm _ _

/-- Entries whose registries are there keep their names. -/
theorem names_of_mapped (entries : List (String × RegistryKey))
    (mapped : ∀ entry ∈ entries, ∃ registry, board.registryOf? entry.2 = some registry) :
    (entries.filterMap fun (name, key) => (board.registryOf? key).map fun registry =>
      (name, board.registryStats registry)).map (·.1) = entries.map (·.1) := by
  induction entries with
  | nil => rfl
  | cons entry entries inductionHypothesis =>
    obtain ⟨registry, found⟩ := mapped entry List.mem_cons_self
    have rest := inductionHypothesis fun other member =>
      mapped other (List.mem_cons_of_mem _ member)
    simp only [List.filterMap_cons, found, Option.map_some, List.map_cons, rest]

/-- All hubs that are named are counted, in the same order. -/
theorem names_stats (sound : Sound board held none) :
    board.stats.map (·.1) = board.hubNames := by
  refine names_of_mapped board.hubs.entries fun entry member => ?_
  obtain ⟨registry, found, -⟩ := sound.mapped
    ((Dictionary.mem_entries_iff _ _ _).1 member)
  exact ⟨registry, found⟩

end Sound

theorem mem_stats_iff (board : Switchboard) (hub : String) (stats : HubStats) :
    (hub, stats) ∈ board.stats ↔ board.hubStats hub = some stats := by
  simp only [Switchboard.stats, List.mem_filterMap, hubStats, Option.map_eq_some_iff,
    Option.bind_eq_some_iff, hub?]
  constructor
  · rintro ⟨⟨name, key⟩, member, registry, found, same⟩
    obtain ⟨rfl, rfl⟩ := Prod.mk.inj same
    exact ⟨registry, ⟨key, (Dictionary.mem_entries_iff _ _ _).1 member, found⟩, rfl⟩
  · rintro ⟨registry, ⟨key, mapped, found⟩, rfl⟩
    exact ⟨(hub, key), (Dictionary.mem_entries_iff _ _ _).2 mapped, registry, found, rfl⟩

/-! ## Closing twice -/

theorem closed_closeBackend (board : Switchboard) {key : BackendKey} {backend : Backend}
    (found : (board.closeBackend key).backend? key = some backend) :
    backend.queue.closed = true := by
  rw [backend?, backends_closeBackend] at found
  rcases entry_of_modify found with ⟨-, before, -, rfl⟩ | ⟨different, -⟩
  · rfl
  · exact absurd rfl different

theorem closeBackend_of_closed {key : BackendKey}
    (closed : ∀ backend, board.backend? key = some backend → backend.queue.closed = true) :
    board.closeBackend key = board := by
  unfold closeBackend
  cases found : board.backend? key with
  | none => rfl
  | some backend =>
    simp only [closed backend found, ↓reduceIte]

/-- Closing twice is closing once. -/
theorem closeBackend_closeBackend (board : Switchboard) (key : BackendKey) :
    (board.closeBackend key).closeBackend key = board.closeBackend key :=
  closeBackend_of_closed fun _ found => closed_closeBackend board found

theorem dropBackend_closeBackend (board : Switchboard) (key : BackendKey) :
    (board.closeBackend key).dropBackend key = board.dropBackend key := by
  rw [dropBackend, closeBackend_closeBackend, dropBackend]

theorem closed_dropBackend (board : Switchboard) {key : BackendKey} {backend : Backend}
    (found : (board.dropBackend key).backend? key = some backend) :
    backend.queue.closed = true := by
  rw [dropBackend, backend?_updateBackend_self] at found
  obtain ⟨before, -, rfl⟩ := Option.map_eq_some_iff.1 found
  rfl

theorem closeBackend_dropBackend (board : Switchboard) (key : BackendKey) :
    (board.dropBackend key).closeBackend key = board.dropBackend key :=
  closeBackend_of_closed fun _ found => closed_dropBackend board found

/-! ## A hub that has nobody -/

theorem hub?_of_absent (absent : hub ∉ board.hubNames) : board.hub? hub = none := by
  rw [hubNames, Dictionary.mem_names_iff, not_exists] at absent
  exact Option.eq_none_iff_forall_ne_some.2 absent

/-- The registry of a hub in which a backend was registered when the hub had nobody: a new one, with
that backend, no client, and no turn taken. -/
theorem tryRegister_of_absent (absent : hub ∉ board.hubNames)
    (admits : board.settings.Admits) (identity : String) (events : List String) :
    (board.tryRegister hub identity events).1 = some board.backends.length ∧
      (board.tryRegister hub identity events).2.hub? hub = some board.registries.length ∧
      (board.tryRegister hub identity events).2.registryOf? board.registries.length =
        some { board.newRegistry hub with backends := [board.backends.length] } := by
  have missing := hub?_of_absent absent
  rw [tryRegister_eq, tryAddBackend_of_admits identity events
    (registryOf?_openHub_of_missing missing) ((board.admits_newRegistry_iff hub).2 admits),
    openHub_of_missing missing]
  refine ⟨rfl, board.hubs.get?_insert_self hub _, ?_⟩
  exact getElem?_modify_of_some _ List.getElem?_concat_length

/-- Where registering breaks off in a hub that had nobody, a new registry is left with nobody in
it. -/
theorem tryRegister_of_absent_of_not_admits (absent : hub ∉ board.hubNames)
    (refuses : ¬ board.settings.Admits) (identity : String) (events : List String) :
    (board.tryRegister hub identity events).1 = none ∧
      (board.tryRegister hub identity events).2.hub? hub = some board.registries.length ∧
      (board.tryRegister hub identity events).2.registryOf? board.registries.length =
        some (board.newRegistry hub) := by
  have missing := hub?_of_absent absent
  rw [tryRegister_eq, tryAddBackend_of_not_admits identity events
    (registryOf?_openHub_of_missing missing) (mt (board.admits_newRegistry_iff hub).1 refuses),
    openHub_of_missing missing]
  exact ⟨rfl, board.hubs.get?_insert_self hub _, List.getElem?_concat_length⟩

end Switchboard

end HubRelay
