import HubRelay.Proofs.Switchboard.Halves
import HubRelay.Proofs.Switchboard.Hubs

/-!
Contract: pruning takes no registry off the map of hubs that somebody is in.

Owns: that between any halves of operations whoever is in a registry is in the one of its hub, that
nobody is in a registry off the map, and that somebody is yet to prune a registry on the map that
nobody is in, unless it admits no backends.

Does not own: the halves.

What carries this is that a registry is only added to while the map leads to it, and that pruning
looks again whether the map leads to the registry and whether nobody is in it.  A registry that was
made for a backend and does not allow for it is left on the map, and nobody is to prune it.
-/

namespace HubRelay

namespace Switchboard

variable {board later : Switchboard} {key : RegistryKey} {registry : Registry}

/-! ## Who is in which registry -/

/-- Everybody who is in a registry is there for its hub, the map leads from the hub to that
registry, and a registry on the map that nobody is in, though it admits backends, is yet to be
pruned. -/
structure Accounted (board : Switchboard) (owed : List RegistryKey) : Prop where
  mapped : ∀ {hub key}, board.hub? hub = some key →
    ∃ registry, board.registryOf? key = some registry ∧ registry.hub = hub ∧
      (registry.isEmpty = true → registry.Admits → key ∈ owed)
  backends : ∀ {key registry backend}, board.registryOf? key = some registry →
    backend ∈ registry.backends → board.hub? registry.hub = some key ∧
      (board.backend? backend).map Backend.home = some (registry.hub, key)
  clients : ∀ {key registry client}, board.registryOf? key = some registry →
    client ∈ registry.clients → board.hub? registry.hub = some key ∧
      (board.client? client).map Client.home = some (registry.hub, key)

variable {owed owedThen : List RegistryKey}

namespace Accounted

theorem start (settings : Settings) : Accounted (.start settings) [] where
  mapped := by
    intro hub key found
    simp [hub?, Switchboard.start, Dictionary.get?, Dictionary.empty] at found
  backends := by
    intro key registry backend found
    simp [registryOf?, Switchboard.start] at found
  clients := by
    intro key registry client found
    simp [registryOf?, Switchboard.start] at found

theorem weaken (accounted : Accounted board owed) (more : owed ⊆ owedThen) :
    Accounted board owedThen :=
  { accounted with
    mapped := by
      intro hub key mapped
      obtain ⟨registry, found, named, owing⟩ := accounted.mapped mapped
      exact ⟨registry, found, named, fun empty admits => more (owing empty admits)⟩ }

/-- Nobody is in a registry that is off the map. -/
theorem isEmpty_of_unmapped (accounted : Accounted board owed)
    (found : board.registryOf? key = some registry)
    (unmapped : board.hub? registry.hub ≠ some key) : registry.isEmpty = true := by
  rw [Registry.isEmpty, Bool.and_eq_true, List.isEmpty_iff, List.isEmpty_iff]
  constructor
  · refine List.eq_nil_iff_forall_not_mem.2 fun backend held => ?_
    exact unmapped (accounted.backends found held).1
  · refine List.eq_nil_iff_forall_not_mem.2 fun client held => ?_
    exact unmapped (accounted.clients found held).1

theorem backend_of_held (accounted : Accounted board owed) {backend : BackendKey}
    (found : board.registryOf? key = some registry) (held : backend ∈ registry.backends) :
    ∃ entry, board.backend? backend = some entry ∧ entry.hub = registry.hub ∧
      entry.registry = key ∧ board.hub? entry.hub = some key := by
  obtain ⟨mapped, known⟩ := accounted.backends found held
  obtain ⟨entry, here, home⟩ := Option.map_eq_some_iff.1 known
  obtain ⟨named, added⟩ := Prod.mk.inj home
  rw [← named] at mapped
  exact ⟨entry, here, named, added, mapped⟩

theorem client_of_held (accounted : Accounted board owed) {client : ClientKey}
    (found : board.registryOf? key = some registry) (held : client ∈ registry.clients) :
    ∃ entry, board.client? client = some entry ∧ entry.hub = registry.hub ∧
      entry.registry = key ∧ board.hub? entry.hub = some key := by
  obtain ⟨mapped, known⟩ := accounted.clients found held
  obtain ⟨entry, here, home⟩ := Option.map_eq_some_iff.1 known
  obtain ⟨named, added⟩ := Prod.mk.inj home
  rw [← named] at mapped
  exact ⟨entry, here, named, added, mapped⟩

theorem of_sameMembers (accounted : Accounted board owed) (same : SameMembers board later) :
    Accounted later owed where
  mapped := by
    intro hub key mapped
    rw [hub?, same.hubs] at mapped
    obtain ⟨registry, found, named, owing⟩ := accounted.mapped mapped
    obtain ⟨after, there, agree⟩ := entry_of_map_eq same.registries.symm found
    obtain ⟨hubs, backends, clients⟩ := Registry.eq_of_rewound_eq agree
    have capacity : after.queueCapacity = registry.queueCapacity :=
      congrArg (·.queueCapacity) agree
    refine ⟨after, there, hubs.trans named, fun empty admits => owing ?_ ?_⟩
    · rwa [Registry.isEmpty, backends, clients] at empty
    · rwa [Registry.Admits, capacity] at admits
  backends := by
    intro key registry backend found held
    obtain ⟨before, here, agree⟩ := entry_of_map_eq same.registries found
    obtain ⟨hubs, backends, -⟩ := Registry.eq_of_rewound_eq agree
    rw [← backends] at held
    obtain ⟨mapped, named⟩ := accounted.backends here held
    rw [hub?, same.hubs, backend?, ← List.getElem?_map, same.backends, List.getElem?_map, ← hubs]
    exact ⟨mapped, named⟩
  clients := by
    intro key registry client found held
    obtain ⟨before, here, agree⟩ := entry_of_map_eq same.registries found
    obtain ⟨hubs, -, clients⟩ := Registry.eq_of_rewound_eq agree
    rw [← clients] at held
    obtain ⟨mapped, named⟩ := accounted.clients here held
    rw [hub?, same.hubs, client?, ← List.getElem?_map, same.clients, List.getElem?_map, ← hubs]
    exact ⟨mapped, named⟩

/-- The map leads to registries as before where one of them is changed that keeps its hub. -/
theorem mapped_modify (accounted : Accounted board owed) {change : Registry → Registry}
    (sameHub : ∀ registry, (change registry).hub = registry.hub)
    (owing : ∀ registry, (change registry).isEmpty = true → key ∈ owedThen)
    (others : ∀ other ∈ owed, key ≠ other → other ∈ owedThen) {hub : String}
    {found : RegistryKey} (mapped : board.hub? hub = some found) :
    ∃ registry, (board.registries.modify key change)[found]? = some registry ∧
      registry.hub = hub ∧ (registry.isEmpty = true → registry.Admits → found ∈ owedThen) := by
  obtain ⟨registry, here, named, owingHere⟩ := accounted.mapped mapped
  by_cases same : key = found
  · subst same
    exact ⟨change registry, getElem?_modify_of_some _ here, (sameHub registry).trans named,
      fun empty _ => owing registry empty⟩
  · refine ⟨registry, ?_, named, fun empty admits => others found (owingHere empty admits) same⟩
    exact (List.getElem?_modify_ne change board.registries same).trans here

/-! ## Somebody comes -/

/-- A hub has a registry once it was opened, perhaps one that nobody is in. -/
theorem openHub (accounted : Accounted board owed) (hub : String) :
    Accounted (board.openHub hub).2 ((board.openHub hub).1 :: owed) ∧
      (board.openHub hub).2.hub? hub = some (board.openHub hub).1 := by
  unfold Switchboard.openHub
  cases found : board.hub? hub with
  | some key => exact ⟨accounted.weaken (List.subset_cons_self key owed), found⟩
  | none =>
    have hubs {other : String} {key : RegistryKey} (mapped : board.hub? other = some key) :
        (board.hubs.insert hub board.registries.length).get? other = some key := by
      have different : other ≠ hub := by
        rintro rfl
        rw [found] at mapped
        contradiction
      exact (board.hubs.get?_insert_of_ne _ different).trans mapped
    refine ⟨?_, board.hubs.get?_insert_self hub _⟩
    constructor
    case mapped =>
      intro other key mapped
      by_cases same : other = hub
      · subst same
        obtain rfl : board.registries.length = key :=
          Option.some.inj ((board.hubs.get?_insert_self other _).symm.trans mapped)
        exact ⟨_, List.getElem?_concat_length, rfl, fun _ _ => List.mem_cons_self⟩
      · have before : board.hub? other = some key :=
          (board.hubs.get?_insert_of_ne _ same).symm.trans mapped
        obtain ⟨registry, here, named, owing⟩ := accounted.mapped before
        exact ⟨registry, getElem?_concat_of_some _ here, named,
          fun empty admits => List.mem_cons_of_mem _ (owing empty admits)⟩
    case backends =>
      intro key registry backend here held
      rcases entry_of_concat here with old | ⟨-, rfl⟩
      · obtain ⟨mapped, named⟩ := accounted.backends old held
        exact ⟨hubs mapped, named⟩
      · exact absurd held List.not_mem_nil
    case clients =>
      intro key registry client here held
      rcases entry_of_concat here with old | ⟨-, rfl⟩
      · obtain ⟨mapped, named⟩ := accounted.clients old held
        exact ⟨hubs mapped, named⟩
      · exact absurd held List.not_mem_nil

theorem backends_modify (accounted : Accounted board owed) {change : Registry → Registry}
    (sameHub : ∀ registry, (change registry).hub = registry.hub)
    (backends : ∀ registry, (change registry).backends ⊆ registry.backends)
    {found : RegistryKey} {backend : BackendKey}
    (here : (board.registries.modify key change)[found]? = some registry)
    (held : backend ∈ registry.backends) :
    board.hub? registry.hub = some found ∧
      (board.backend? backend).map Backend.home = some (registry.hub, found) := by
  rcases entry_of_modify here with ⟨-, before, old, rfl⟩ | ⟨-, old⟩
  · rw [sameHub]
    exact accounted.backends old (backends before held)
  · exact accounted.backends old held

theorem clients_modify (accounted : Accounted board owed) {change : Registry → Registry}
    (sameHub : ∀ registry, (change registry).hub = registry.hub)
    (clients : ∀ registry, (change registry).clients ⊆ registry.clients)
    {found : RegistryKey} {client : ClientKey}
    (here : (board.registries.modify key change)[found]? = some registry)
    (held : client ∈ registry.clients) :
    board.hub? registry.hub = some found ∧
      (board.client? client).map Client.home = some (registry.hub, found) := by
  rcases entry_of_modify here with ⟨-, before, old, rfl⟩ | ⟨-, old⟩
  · rw [sameHub]
    exact accounted.clients old (clients before held)
  · exact accounted.clients old held

/-- Whoever is taken out of a registry, it is yet to be pruned then. -/
theorem removed (accounted : Accounted board owed) {change : Registry → Registry}
    (sameHub : ∀ registry, (change registry).hub = registry.hub)
    (backends : ∀ registry, (change registry).backends ⊆ registry.backends)
    (clients : ∀ registry, (change registry).clients ⊆ registry.clients) :
    Accounted (board.updateRegistry key change) (key :: owed) where
  mapped := by
    intro hub found mapped
    refine accounted.mapped_modify sameHub ?owing ?others mapped
    case owing => exact fun _ _ => List.mem_cons_self
    case others => exact fun _ owing _ => List.mem_cons_of_mem _ owing
  backends := by
    intro found registry backend here held
    exact accounted.backends_modify sameHub backends here held
  clients := by
    intro found registry client here held
    exact accounted.clients_modify sameHub clients here held

/-- A registry that has a reason to be on the map, or is off it, need not be pruned. -/
theorem settle (accounted : Accounted board owed)
    (filled : ∀ {hub registry}, board.hub? hub = some key → board.registryOf? key = some registry →
      registry.hub = hub → registry.Justified) : Accounted board (owed.erase key) :=
  { accounted with
    mapped := by
      intro hub found mapped
      obtain ⟨registry, here, named, owing⟩ := accounted.mapped mapped
      refine ⟨registry, here, named, fun empty admits => ?_⟩
      refine (List.mem_erase_of_ne fun same => ?_).2 (owing empty admits)
      subst same
      rw [filled mapped here named admits] at empty
      contradiction }

theorem placeBackend {hub : String} {queue : EventQueue} (accounted : Accounted board (key :: owed))
    (here : board.registryOf? key = some registry) (mapped : board.hub? hub = some key)
    (named : registry.hub = hub) (identity : String) (events : List String) :
    Accounted (board.placeBackend key registry queue identity events) owed := by
  constructor
  case mapped =>
    intro other found mappedThere
    refine accounted.mapped_modify ?sameHub ?owing ?others mappedThere
    case sameHub => exact fun _ => rfl
    case owing => simp [Registry.isEmpty]
    case others => exact fun other owing different =>
      (List.mem_cons.1 owing).resolve_left (Ne.symm different)
  case backends =>
    intro found entry backend there held
    rcases entry_of_modify there with ⟨rfl, before, old, rfl⟩ | ⟨-, old⟩
    · rcases List.mem_append.1 held with among | added
      · obtain ⟨leads, known⟩ := accounted.backends old among
        exact ⟨leads, map_getElem?_concat _ known⟩
      · obtain rfl := List.mem_singleton.1 added
        obtain rfl : registry = before := Option.some.inj (here.symm.trans old)
        refine ⟨(congrArg board.hub? named).trans mapped, ?_⟩
        exact congrArg (Option.map Backend.home) List.getElem?_concat_length
    · obtain ⟨leads, known⟩ := accounted.backends old held
      exact ⟨leads, map_getElem?_concat _ known⟩
  case clients =>
    intro found entry client there held
    refine accounted.clients_modify ?sameHub ?clients there held
    case sameHub => exact fun _ => rfl
    case clients => exact fun _ => List.Subset.refl _

theorem tryAddBackend {hub : String} (accounted : Accounted board (key :: owed))
    (mapped : board.hub? hub = some key) (identity : String) (events : List String) :
    Accounted (board.tryAddBackend key identity events).2 owed := by
  rcases board.tryAddBackend_cases key identity events with
    ⟨registry, here, -, added⟩ | ⟨refuses, brokeOff⟩
  · obtain ⟨same, there, named, -⟩ := accounted.mapped mapped
    obtain rfl := Option.some.inj (here.symm.trans there)
    rw [added]
    exact accounted.placeBackend here mapped named identity events
  · -- a registry that admits nobody is not owed
    have settled := accounted.settle fun _ here _ admits => absurd admits (refuses _ here)
    rw [brokeOff]
    rwa [List.erase_cons_head] at settled

theorem tryRegister (accounted : Accounted board owed) (hub identity : String)
    (events : List String) : Accounted (board.tryRegister hub identity events).2 owed := by
  obtain ⟨opened, mapped⟩ := accounted.openHub hub
  exact opened.tryAddBackend mapped identity events

theorem addClient {hub : String} (accounted : Accounted board owed)
    (mapped : board.hub? hub = some key) (backendId : String) (context : Context) :
    Accounted (board.addClient key backendId context).2 owed := by
  obtain ⟨registry, here, named, -⟩ := accounted.mapped mapped
  unfold Switchboard.addClient
  rw [here]
  simp only
  constructor
  case mapped =>
    intro other found mappedThere
    refine accounted.mapped_modify ?sameHub ?owing ?others mappedThere
    case sameHub => exact fun _ => rfl
    case owing => simp [Registry.isEmpty]
    case others => exact fun other owing _ => owing
  case backends =>
    intro found entry backend there held
    refine accounted.backends_modify ?sameHub ?backends there held
    case sameHub => exact fun _ => rfl
    case backends => exact fun _ => List.Subset.refl _
  case clients =>
    intro found entry client there held
    rcases entry_of_modify there with ⟨rfl, before, old, rfl⟩ | ⟨-, old⟩
    · rcases List.mem_append.1 held with among | added
      · obtain ⟨leads, known⟩ := accounted.clients old among
        exact ⟨leads, map_getElem?_concat _ known⟩
      · obtain rfl := List.mem_singleton.1 added
        obtain rfl : registry = before := Option.some.inj (here.symm.trans old)
        refine ⟨(congrArg board.hub? named).trans mapped, ?_⟩
        rw [client?, List.getElem?_concat_length]
        rfl
    · obtain ⟨leads, known⟩ := accounted.clients old held
      exact ⟨leads, map_getElem?_concat _ known⟩

/-! ## Pruning -/

/-- A registry that nobody is in can be taken off the map. -/
theorem forget (accounted : Accounted board owed) (here : board.registryOf? key = some registry)
    (mapped : board.hub? registry.hub = some key) (empty : registry.isEmpty = true) :
    Accounted { board with hubs := board.hubs.erase registry.hub } (owed.erase key) := by
  rw [Registry.isEmpty, Bool.and_eq_true, List.isEmpty_iff, List.isEmpty_iff] at empty
  obtain ⟨noBackends, noClients⟩ := empty
  -- whoever is in another registry is there for another hub
  have leads {other : RegistryKey} {entry : Registry}
      (there : board.registryOf? other = some entry) (different : entry ≠ registry)
      (before : board.hub? entry.hub = some other) :
      (board.hubs.erase registry.hub).get? entry.hub = some other := by
    refine (board.hubs.get?_erase_of_ne fun same => different ?_).trans before
    rw [same, mapped] at before
    rw [← Option.some.inj before, here] at there
    exact (Option.some.inj there).symm
  constructor
  case mapped =>
    intro hub found foundMapped
    have different : hub ≠ registry.hub := by
      rintro rfl
      have erased := board.hubs.get?_erase_self registry.hub
      rw [show (board.hubs.erase registry.hub).get? registry.hub = some found from foundMapped]
        at erased
      contradiction
    have before := (board.hubs.get?_erase_of_ne different).symm.trans foundMapped
    obtain ⟨entry, there, named, owing⟩ := accounted.mapped before
    refine ⟨entry, there, named, fun emptyThere admits => ?_⟩
    refine (List.mem_erase_of_ne fun same => different ?_).2 (owing emptyThere admits)
    rw [same, here] at there
    rw [← named, Option.some.inj there]
  case backends =>
    intro found entry backend there held
    obtain ⟨before, known⟩ := accounted.backends there held
    refine ⟨leads there ?_ before, known⟩
    rintro rfl
    rw [noBackends] at held
    exact List.not_mem_nil held
  case clients =>
    intro found entry client there held
    obtain ⟨before, known⟩ := accounted.clients there held
    refine ⟨leads there ?_ before, known⟩
    rintro rfl
    rw [noClients] at held
    exact List.not_mem_nil held

theorem prune (accounted : Accounted board owed) (key : RegistryKey) :
    Accounted (board.prune key) (owed.erase key) := by
  unfold Switchboard.prune
  cases here : board.registryOf? key with
  | none =>
    -- the map does not lead to a registry that there is not
    refine accounted.settle fun _ there _ => ?_
    rw [here] at there
    contradiction
  | some registry =>
    simp only
    split
    · next empty => exact accounted.forget here empty.1 empty.2
    · next kept =>
      refine accounted.settle fun mapped there named => ?_
      obtain rfl := Option.some.inj (here.symm.trans there)
      rw [named] at kept
      exact fun _ => Bool.eq_false_iff.2 fun empty => kept ⟨mapped, empty⟩

/-! ## Halves -/

/-- Every half keeps everybody accounted for. -/
theorem change (accounted : Accounted board owed) (half : Half) :
    Accounted (board.change half) (half.owes owed) := by
  cases stays : half.changesMembers with
  | false =>
    rw [Half.owes_of_stays stays]
    exact accounted.of_sameMembers (sameMembers_change stays)
  | true =>
    cases half with
    | register hub identity events => exact accounted.tryRegister hub identity events
    | addClient hub backendId context =>
      simp only [Switchboard.change]
      split
      · exact accounted
      · next mapped => exact accounted.addClient mapped backendId context
    | removeBackend registry backend =>
      apply accounted.removed
      · exact fun _ => rfl
      · exact fun _ => List.filter_sublist.subset
      · exact fun _ => List.Subset.refl _
    | removeClient registry client =>
      apply accounted.removed
      · exact fun _ => rfl
      · exact fun _ => List.Subset.refl _
      · exact fun _ => List.filter_sublist.subset
    | prune registry => exact accounted.prune registry
    | _ => contradiction

theorem run {halfway : Halfway} (accounted : Accounted halfway.board halfway.owed)
    (halves : List Half) : Accounted (halfway.run halves).board (halfway.run halves).owed :=
  Halfway.run_induction (motive := fun halfway => Accounted halfway.board halfway.owed)
    (fun _ half accounted => accounted.change half) accounted halves

end Accounted

/-- Pruning what is yet to be pruned, in any order, leaves nothing to be pruned. -/
theorem owed_run_prune (halfway : Halfway) {order : List RegistryKey}
    (all : order.Perm halfway.owed) : (halfway.run (order.map .prune)).owed = [] := by
  induction order generalizing halfway with
  | nil => exact List.nil_perm.1 all
  | cons key order inductionHypothesis =>
    obtain ⟨-, rest⟩ := List.cons_perm_iff_perm_erase.1 all
    exact inductionHypothesis (halfway.take (.prune key)) rest

/-! ## Which registries allow for backends -/

/-- A switchboard has these settings, and all its registries were made with their capacity. -/
structure MadeUnder (settings : Settings) (board : Switchboard) : Prop where
  settings_eq : board.settings = settings
  capacities : ∀ capacity ∈ board.registries.map (·.queueCapacity),
    capacity = settings.queueCapacity

namespace MadeUnder

variable {settings : Settings}

theorem start (settings : Settings) : MadeUnder settings (.start settings) :=
  ⟨rfl, List.forall_mem_nil _⟩

theorem of_same (made : MadeUnder settings board) (same : later.settings = board.settings)
    (capacities : later.registries.map (·.queueCapacity) = board.registries.map (·.queueCapacity)) :
    MadeUnder settings later :=
  ⟨same.trans made.settings_eq, capacities ▸ made.capacities⟩

theorem queueCapacity_eq (made : MadeUnder settings board)
    (found : board.registryOf? key = some registry) :
    registry.queueCapacity = settings.queueCapacity :=
  made.capacities _ (List.mem_map_of_mem (List.mem_of_getElem? found))

theorem admits_iff (made : MadeUnder settings board)
    (found : board.registryOf? key = some registry) : registry.Admits ↔ settings.Admits := by
  rw [Registry.Admits, made.queueCapacity_eq found]
  rfl

theorem openHub (made : MadeUnder settings board) (hub : String) :
    MadeUnder settings (board.openHub hub).2 := by
  cases found : board.hub? hub with
  | some key => rwa [Switchboard.openHub, found]
  | none =>
    rw [openHub_of_missing found]
    refine ⟨made.settings_eq, fun capacity among => ?_⟩
    rw [List.map_append, List.map_singleton, List.mem_append, List.mem_singleton] at among
    rcases among with before | rfl
    · exact made.capacities capacity before
    · exact congrArg (·.queueCapacity) made.settings_eq

theorem tryAddBackend (made : MadeUnder settings board) (key : RegistryKey) (identity : String)
    (events : List String) : MadeUnder settings (board.tryAddBackend key identity events).2 := by
  rcases board.tryAddBackend_cases key identity events with ⟨_, -, -, added⟩ | ⟨-, brokeOff⟩
  · rw [added]
    exact made.of_same rfl (map_modify_of_same board.registries key _ _ fun _ _ => rfl)
  · rwa [brokeOff]

theorem addClient (made : MadeUnder settings board) (key : RegistryKey) (backendId : String)
    (context : Context) : MadeUnder settings (board.addClient key backendId context).2 := by
  unfold Switchboard.addClient
  split
  · exact made
  · exact made.of_same rfl (map_modify_of_same board.registries key _ _ fun _ _ => rfl)

/-- No half changes the settings or the capacity of a registry. -/
theorem change (made : MadeUnder settings board) (half : Half) :
    MadeUnder settings (board.change half) := by
  have stays (same : half.changesMembers = false)
      (unchanged : (board.change half).settings = board.settings) :
      MadeUnder settings (board.change half) := by
    have kept : SameMembers board (board.change half) := sameMembers_change same
    have rows := congrArg (List.map (·.queueCapacity)) kept.registries
    rw [List.map_map, List.map_map] at rows
    exact made.of_same unchanged rows
  cases half with
  | register hub identity events => exact (made.openHub hub).tryAddBackend _ identity events
  | pick hub event =>
    refine stays rfl ?_
    simp only [Switchboard.change]
    split
    · rfl
    · next key _ =>
      have picks : Traffic none board (board.selectBackend key event).2 :=
        traffic_selectBackend board key event
      exact picks.settings
  | addClient hub backendId context =>
    simp only [Switchboard.change]
    split
    · exact made
    · exact made.addClient _ backendId context
  | shut backend =>
    refine stays rfl ?_
    simp only [Switchboard.change]
    split <;> rfl
  | discard backend => exact stays rfl rfl
  | detach client => exact stays rfl rfl
  | removeBackend registry backend | removeClient registry client =>
    exact made.of_same rfl (map_modify_of_same board.registries registry _ _ fun _ _ => rfl)
  | prune registry =>
    have pruned : Steady none board (board.prune registry) := steady_prune board registry
    refine made.of_same pruned.settings ?_
    rw [Switchboard.change, registries_prune]
  | aside change books settings => exact stays rfl (settings board)

theorem run {halfway : Halfway} (made : MadeUnder settings halfway.board) (halves : List Half) :
    MadeUnder settings (halfway.run halves).board :=
  Halfway.run_induction (motive := fun halfway => MadeUnder settings halfway.board)
    (fun _ half made => made.change half) made halves

end MadeUnder

/-! ## Whatever comes in between -/

/-- Somebody is in every registry to which the map leads. -/
def Occupied (board : Switchboard) : Prop :=
  ∀ (hub : String) (key : RegistryKey), board.hub? hub = some key →
    ∃ registry, board.registryOf? key = some registry ∧ registry.hub = hub ∧
      registry.isEmpty = false

/-- Once nothing is yet to be pruned, somebody is in every registry on the map, if all of them allow
for backends. -/
theorem Accounted.occupied (accounted : Accounted board [])
    (admits : ∀ {key registry}, board.registryOf? key = some registry → registry.Admits) :
    Occupied board := by
  intro hub key mapped
  obtain ⟨registry, found, named, owing⟩ := accounted.mapped mapped
  exact ⟨registry, found, named,
    Bool.eq_false_iff.2 fun empty => List.not_mem_nil (owing empty (admits found))⟩

namespace Halfway

/-- Pruning never orphans anybody under some settings, as things stand and whatever comes next. -/
structure PrunesSafely (settings : Settings) (halfway : Halfway) : Prop where
  /-- A backend in a registry was added to it, and the map leads there from the hub of the
  backend. -/
  backends : ∀ {key registry backend}, halfway.board.registryOf? key = some registry →
    backend ∈ registry.backends → ∃ entry, halfway.board.backend? backend = some entry ∧
      entry.hub = registry.hub ∧ entry.registry = key ∧ halfway.board.hub? entry.hub = some key
  /-- So it is with a client. -/
  clients : ∀ {key registry client}, halfway.board.registryOf? key = some registry →
    client ∈ registry.clients → ∃ entry, halfway.board.client? client = some entry ∧
      entry.hub = registry.hub ∧ entry.registry = key ∧ halfway.board.hub? entry.hub = some key
  /-- A registry stays, and nobody leaves it but who is removed from that very registry. -/
  stays : ∀ {key registry} more, halfway.board.registryOf? key = some registry →
    ∃ later, (halfway.run more).board.registryOf? key = some later ∧ Keeps key more registry later
  /-- Nobody is in a registry that is off the map, and it stays so. -/
  removed : ∀ {key registry} more, halfway.board.registryOf? key = some registry →
    halfway.board.hub? registry.hub ≠ some key →
      ∃ later, (halfway.run more).board.registryOf? key = some later ∧ later.hub = registry.hub ∧
        later.isEmpty = true ∧ (halfway.run more).board.hub? later.hub ≠ some key
  /-- The map leads from a hub to a registry of that hub, which is yet to be pruned if nobody is in
  it, unless no channel can be made for a backend. -/
  mapped : ∀ {hub key}, halfway.board.hub? hub = some key →
    ∃ registry, halfway.board.registryOf? key = some registry ∧ registry.hub = hub ∧
      (registry.isEmpty = true → settings.Admits → key ∈ halfway.owed)
  /-- Once all that was yet to be pruned has been, whatever came in between, somebody is in every
  registry on the map, if channels can be made. -/
  settled : settings.Admits → ∀ more, (halfway.run more).owed = [] →
    Occupied (halfway.run more).board
  /-- So it is if nothing else comes in between, in any order. -/
  pruned : ∀ order : List RegistryKey, order.Perm halfway.owed →
    (halfway.run (order.map .prune)).owed = [] ∧
      (settings.Admits → Occupied (halfway.run (order.map .prune)).board)
  /-- If no channel can be made, registering in a hub that there was not leaves a registry on the
  map that nobody is in, and that nobody is to prune. -/
  vacated : ¬ settings.Admits → ∀ hub identity events, hub ∉ halfway.board.hubNames →
    let vacant := halfway.take (.register hub identity events)
    vacant.owed = halfway.owed ∧ ∃ key registry, vacant.board.hub? hub = some key ∧
      vacant.board.registryOf? key = some registry ∧ registry.isEmpty = true
  /-- Every request is made of halves, between which there may be others. -/
  request : ∀ request, halfway.run (halfway.board.halvesOf request) =
    ⟨halfway.board.perform request, halfway.owed⟩
  /-- So is letting go of a client. -/
  release : ∀ client, halfway.run (halfway.board.releasing client) =
    ⟨halfway.board.dropClient client, halfway.owed⟩

/-- After any halves of operations, by whomever and in whatever order, pruning never orphans
anybody. -/
theorem prunesSafely (settings : Settings) (halves : List Half) :
    PrunesSafely settings (after settings halves) := by
  have made : MadeUnder settings (after settings halves).board :=
    (MadeUnder.start settings).run halves
  have accounted : Accounted (after settings halves).board (after settings halves).owed :=
    (Accounted.start settings).run halves
  have occupied (admits : settings.Admits) (more : List Half)
      (settled : ((after settings halves).run more).owed = []) :
      Occupied ((after settings halves).run more).board := by
    have accountedThen := accounted.run more
    rw [settled] at accountedThen
    exact accountedThen.occupied fun found => ((made.run more).admits_iff found).2 admits
  constructor
  case backends => exact accounted.backend_of_held
  case clients => exact accounted.client_of_held
  case stays => exact fun more found => keeps_run _ more found
  case removed =>
    intro key registry more found unmapped
    obtain ⟨later, there, keeps⟩ := keeps_run _ more found
    have unmappedThen := unmapped_run _ found unmapped more
    rw [← keeps.hub] at unmappedThen
    exact ⟨later, there, keeps.hub, (accounted.run more).isEmpty_of_unmapped there unmappedThen,
      unmappedThen⟩
  case mapped =>
    intro hub key mapped
    obtain ⟨registry, found, named, owing⟩ := accounted.mapped mapped
    exact ⟨registry, found, named, fun empty admits =>
      owing empty ((made.admits_iff found).2 admits)⟩
  case settled => exact occupied
  case pruned =>
    intro order all
    have settled := owed_run_prune _ all
    exact ⟨settled, fun admits => occupied admits _ settled⟩
  case vacated =>
    intro refuses hub identity events absent vacant
    rw [← made.settings_eq] at refuses
    obtain ⟨-, mapped, found⟩ :=
      tryRegister_of_absent_of_not_admits absent refuses identity events
    exact ⟨rfl, _, _, mapped, found, rfl⟩
  case request => exact run_halvesOf _ _
  case release => exact run_releasing _ _

/-- Not once all pruning has been done is somebody in every registry on the map, whatever the
settings. -/
theorem vacancy_unpruned : ¬ ∀ settings halves, (after settings halves).owed = [] →
    Occupied (after settings halves).board := by
  intro occupied
  obtain ⟨registry, found, -, filled⟩ :=
    occupied .oversized [.register "chat" "bot" [connectEvent]] rfl "chat" 0 (by decide +kernel)
  obtain rfl : Registry.start "chat" .firstMatch (channelLimit + 1) 5000 = registry :=
    Option.some.inj found
  contradiction

-- somebody comes between a removal and its pruning
example : (after .standard [.register "chat" "one" [], .removeBackend 0 0,
    .register "chat" "two" [], .prune 0]).board.hub? "chat" = some 0 := by
  decide +kernel

-- a registry is pruned again after the hub was opened anew
example : (after .standard [.register "chat" "one" [], .removeBackend 0 0, .prune 0,
    .register "chat" "two" [], .prune 0]).board.hub? "chat" = some 1 := by
  decide +kernel

end Halfway

end Switchboard

end HubRelay
