import HubRelay.Proofs.Switchboard.Request

/-!
Contract: the operations of a switchboard in halves, with others in between.

Owns: the halves, carrying out one after the other, the registries that somebody is yet to prune,
who stays in a registry, that a registry off the map never gets back, and that every whole operation
is made of halves.

Does not own: who is in which registry.

Whoever lets go of an entry removes it from its registry and then prunes the registry.  In between,
anybody may add to the registry, empty it, prune it, or have the hub opened anew.
-/

namespace HubRelay

/-- The hub of a backend and the registry that it was added to. -/
def Backend.home (backend : Backend) : String × RegistryKey :=
  (backend.hub, backend.registry)

/-- The hub of a client and the registry that it was added to. -/
def Client.home (client : Client) : String × RegistryKey :=
  (client.hub, client.registry)

theorem Registry.eq_of_rewound_eq {one other : Registry} (same : one.rewound = other.rewound) :
    one.hub = other.hub ∧ one.backends = other.backends ∧ one.clients = other.clients :=
  ⟨congrArg (·.hub) same, congrArg (·.backends) same, congrArg (·.clients) same⟩

namespace Switchboard

/-! ## Halves -/

/-- What is done to a switchboard at one go.

Registering keeps the map of hubs from being changed until the backend has been added, and pruning
lets nobody be added while it looks, so each is one half.  Routing keeps the map from being changed
as well, but is taken apart here, which lets more come between picking a backend and adding a client
than can. -/
inductive Half where
  | register (hub identity : String) (events : List String)
  /-- Pick a backend of a hub for an event. -/
  | pick (hub event : String)
  /-- Add a client of a backend to the registry of a hub. -/
  | addClient (hub backendId : String) (context : Context)
  /-- Let the queue of a backend take no more events. -/
  | shut (backend : BackendKey)
  /-- Forget the events that wait for a backend. -/
  | discard (backend : BackendKey)
  /-- Let nothing more be handed over for a client. -/
  | detach (client : ClientKey)
  | removeBackend (registry : RegistryKey) (backend : BackendKey)
  | removeClient (registry : RegistryKey) (client : ClientKey)
  | prune (registry : RegistryKey)
  /-- Do anything else by which nobody comes, leaves or closes, and the settings stay. -/
  | aside (change : Switchboard → Switchboard) (books : ∀ board, SameBooks board (change board))
    (settings : ∀ board, (change board).settings = board.settings)

/-- What a half does to a switchboard. -/
def change (board : Switchboard) : Half → Switchboard
  | .register hub identity events => (board.tryRegister hub identity events).2
  | .pick hub event =>
    match board.hub? hub with
    | none => board
    | some key => (board.selectBackend key event).2
  | .addClient hub backendId context =>
    match board.hub? hub with
    | none => board
    | some key => (board.addClient key backendId context).2
  | .shut key =>
    match board.backend? key with
    | none => board
    | some backend => board.setQueue key backend.queue.close
  | .discard key => board.updateBackend key fun backend =>
    { backend with queue := backend.queue.discard }
  | .detach key => board.updateClient key fun client => { client with outbound := none }
  | .removeBackend registry backend => board.removeBackend registry backend
  | .removeClient registry client => board.removeClient registry client
  | .prune registry => board.prune registry
  | .aside change _ _ => change board

/-- The registries that are yet to be pruned: whoever removes something owes it, and pruning settles
one debt. -/
def Half.owes (owed : List RegistryKey) : Half → List RegistryKey
  | .removeBackend registry _ | .removeClient registry _ => registry :: owed
  | .prune registry => owed.erase registry
  | _ => owed

/-- Whether a half may let somebody come or leave, or take a hub off the map. -/
def Half.changesMembers : Half → Bool
  | .register .. | .addClient .. | .removeBackend .. | .removeClient .. | .prune _ => true
  | _ => false

theorem Half.owes_of_stays {half : Half} (stays : half.changesMembers = false)
    (owed : List RegistryKey) : half.owes owed = owed := by
  cases half with
  | register _ _ _ | addClient _ _ _ | removeBackend _ _ | removeClient _ _ | prune _ =>
    contradiction
  | _ => rfl

/-- A switchboard between halves. -/
structure Halfway where
  board : Switchboard
  /-- The registries that somebody is yet to prune, as often as that is to be done. -/
  owed : List RegistryKey

namespace Halfway

/-- Carry out a half. -/
def take (halfway : Halfway) (half : Half) : Halfway :=
  ⟨halfway.board.change half, half.owes halfway.owed⟩

/-- Carry out one half after the other. -/
def run (halfway : Halfway) (halves : List Half) : Halfway :=
  halves.foldl take halfway

/-- How things stand after halves, by whomever and in whatever order. -/
def after (settings : Settings) (halves : List Half) : Halfway :=
  run ⟨.start settings, []⟩ halves

theorem run_append (halfway : Halfway) (halves more : List Half) :
    halfway.run (halves ++ more) = (halfway.run halves).run more :=
  List.foldl_append

/-- What every half keeps, any number of halves keep. -/
theorem run_induction {motive : Halfway → Prop}
    (step : ∀ halfway half, motive halfway → motive (halfway.take half)) {halfway : Halfway}
    (start : motive halfway) (halves : List Half) : motive (halfway.run halves) := by
  induction halves generalizing halfway with
  | nil => exact start
  | cons half halves inductionHypothesis => exact inductionHypothesis (step halfway half start)

end Halfway

variable (board : Switchboard)

/-! ## Halves by which nobody comes or leaves -/

/-- Nobody comes or leaves, and the map stays, though backends may be shut and clients detached. -/
structure SameMembers (before after : Switchboard) : Prop where
  hubs : after.hubs = before.hubs
  registries : after.registries.map Registry.rewound = before.registries.map Registry.rewound
  backends : after.backends.map Backend.home = before.backends.map Backend.home
  clients : after.clients.map Client.home = before.clients.map Client.home

theorem SameMembers.refl : SameMembers board board :=
  ⟨rfl, rfl, rfl, rfl⟩

variable {board}

theorem SameBooks.sameMembers {later : Switchboard} (books : SameBooks board later) :
    SameMembers board later where
  hubs := books.hubs
  registries := books.registries
  backends := by
    have homes := congrArg (List.map Backend.home) books.backends
    rwa [List.map_map, List.map_map] at homes
  clients := by
    have homes := congrArg (List.map Client.home) books.clients
    rwa [List.map_map, List.map_map] at homes

theorem sameMembers_updateBackend (key : BackendKey) (change : Backend → Backend)
    (same : ∀ backend, (change backend).home = backend.home) :
    SameMembers board (board.updateBackend key change) :=
  { SameMembers.refl board with
    backends := map_modify_of_same board.backends key change Backend.home fun backend _ =>
      same backend }

theorem sameMembers_change {half : Half} (stays : half.changesMembers = false) :
    SameMembers board (board.change half) := by
  cases half with
  | pick hub event =>
    simp only [change]
    split
    · exact .refl board
    · next key _ =>
      have picks : Traffic none board (board.selectBackend key event).2 :=
        traffic_selectBackend board key event
      exact picks.books.sameMembers
  | shut key =>
    simp only [change]
    split
    · exact .refl board
    · exact sameMembers_updateBackend key _ fun _ => rfl
  | discard key => exact sameMembers_updateBackend key _ fun _ => rfl
  | detach key => exact (traffic_outbound board key fun _ => none).books.sameMembers
  | aside change books _ => exact (books board).sameMembers
  | _ => contradiction

variable {later : Switchboard} {key : RegistryKey} {registry : Registry}

/-! ## Who stays in a registry -/

/-- How halves may change a registry: nobody leaves it but whom one of them removes from it. -/
structure Keeps (key : RegistryKey) (halves : List Half) (before after : Registry) : Prop where
  hub : after.hub = before.hub
  backends : ∀ backend ∈ before.backends, .removeBackend key backend ∉ halves →
    backend ∈ after.backends
  clients : ∀ client ∈ before.clients, .removeClient key client ∉ halves → client ∈ after.clients

variable {halves more : List Half}

theorem Keeps.refl (registry : Registry) : Keeps key halves registry registry :=
  ⟨rfl, fun _ held _ => held, fun _ held _ => held⟩

theorem Keeps.trans {first second third : Registry} (one : Keeps key halves first second)
    (two : Keeps key more second third) : Keeps key (halves ++ more) first third where
  hub := two.hub.trans one.hub
  backends := by
    intro backend held spared
    rw [List.mem_append, not_or] at spared
    exact two.backends backend (one.backends backend held spared.1) spared.2
  clients := by
    intro client held spared
    rw [List.mem_append, not_or] at spared
    exact two.clients client (one.clients client held spared.1) spared.2

theorem SameMembers.keeps (same : SameMembers board later)
    (found : board.registryOf? key = some registry) :
    ∃ after, later.registryOf? key = some after ∧ Keeps key halves registry after := by
  obtain ⟨after, there, agree⟩ := entry_of_map_eq same.registries.symm found
  obtain ⟨hubs, backends, clients⟩ := Registry.eq_of_rewound_eq agree
  refine ⟨after, there, hubs, fun _ held _ => ?_, fun _ held _ => ?_⟩
  · rwa [backends]
  · rwa [clients]

theorem keeps_modify {other : RegistryKey} {change : Registry → Registry}
    (found : board.registryOf? key = some registry)
    (keeps : other = key → Keeps key halves registry (change registry)) :
    ∃ after, (board.registries.modify other change)[key]? = some after ∧
      Keeps key halves registry after := by
  by_cases same : other = key
  · subst same
    exact ⟨change registry, getElem?_modify_of_some change found, keeps rfl⟩
  · exact ⟨registry, (List.getElem?_modify_ne change _ same).trans found, .refl registry⟩

theorem keeps_tryRegister (hub identity : String) (events : List String)
    (found : board.registryOf? key = some registry) :
    ∃ after, (board.tryRegister hub identity events).2.registryOf? key = some after ∧
      Keeps key halves registry after := by
  have opened : (board.openHub hub).2.registryOf? key = some registry := by
    unfold openHub
    split
    · exact found
    · exact getElem?_concat_of_some _ found
  rw [tryRegister_eq]
  rcases (board.openHub hub).2.tryAddBackend_cases (board.openHub hub).1 identity events with
    ⟨_, -, -, added⟩ | ⟨-, brokeOff⟩
  · rw [added]
    apply keeps_modify opened
    exact fun _ => ⟨rfl, fun _ held _ => List.mem_append_left _ held, fun _ held _ => held⟩
  · rw [brokeOff]
    exact ⟨registry, opened, .refl registry⟩

theorem keeps_addClient (other : RegistryKey) (backendId : String) (context : Context)
    (found : board.registryOf? key = some registry) :
    ∃ after, (board.addClient other backendId context).2.registryOf? key = some after ∧
      Keeps key halves registry after := by
  unfold addClient
  split
  · exact ⟨registry, found, .refl registry⟩
  · apply keeps_modify found
    exact fun _ => ⟨rfl, fun _ held _ => held, fun _ held _ => List.mem_append_left _ held⟩

theorem registries_prune (board : Switchboard) (key : RegistryKey) :
    (board.prune key).registries = board.registries := by
  unfold prune
  split
  · rfl
  · split <;> rfl

/-- A registry stays, and nobody leaves it but whom a half removes from it. -/
theorem keeps_change (half : Half) (found : board.registryOf? key = some registry) :
    ∃ after, (board.change half).registryOf? key = some after ∧
      Keeps key [half] registry after := by
  cases stays : half.changesMembers with
  | false => exact (sameMembers_change stays).keeps found
  | true =>
    cases half with
    | register hub identity events => exact keeps_tryRegister hub identity events found
    | addClient hub backendId context =>
      simp only [change]
      split
      · exact ⟨registry, found, .refl registry⟩
      · exact keeps_addClient _ backendId context found
    | removeBackend other backend =>
      apply keeps_modify found
      rintro rfl
      refine ⟨rfl, fun held among spared => List.mem_filter.2 ⟨among, ?_⟩, fun _ held _ => held⟩
      rw [decide_eq_true_eq]
      rintro rfl
      exact spared List.mem_cons_self
    | removeClient other client =>
      apply keeps_modify found
      rintro rfl
      refine ⟨rfl, fun _ held _ => held, fun held among spared => List.mem_filter.2 ⟨among, ?_⟩⟩
      rw [decide_eq_true_eq]
      rintro rfl
      exact spared List.mem_cons_self
    | prune other =>
      refine ⟨registry, ?_, .refl registry⟩
      rw [change, registryOf?, registries_prune]
      exact found
    | _ => contradiction

theorem keeps_run (halfway : Halfway) (halves : List Half)
    (found : halfway.board.registryOf? key = some registry) :
    ∃ after, (halfway.run halves).board.registryOf? key = some after ∧
      Keeps key halves registry after := by
  induction halves generalizing halfway registry with
  | nil => exact ⟨registry, found, .refl registry⟩
  | cons half halves inductionHypothesis =>
    obtain ⟨next, there, keeps⟩ := keeps_change half found
    obtain ⟨after, last, keepsThen⟩ := inductionHypothesis (halfway.take half) there
    exact ⟨after, last, keeps.trans keepsThen⟩

/-! ## Where the map leads -/

theorem hubs_tryAddBackend (board : Switchboard) (key : RegistryKey) (identity : String)
    (events : List String) : (board.tryAddBackend key identity events).2.hubs = board.hubs := by
  rcases board.tryAddBackend_cases key identity events with ⟨_, -, -, added⟩ | ⟨-, brokeOff⟩
  · rw [added]
    rfl
  · rw [brokeOff]

theorem hubs_addClient (board : Switchboard) (key : RegistryKey) (backendId : String)
    (context : Context) : (board.addClient key backendId context).2.hubs = board.hubs := by
  unfold addClient
  split <;> rfl

/-- A half leads the map to no registry to which it did not lead before, unless that is new. -/
theorem mapped_change (half : Half) {hub : String}
    (mapped : (board.change half).hub? hub = some key) :
    board.hub? hub = some key ∨ board.registries.length ≤ key := by
  cases stays : half.changesMembers with
  | false =>
    rw [hub?, (sameMembers_change stays).hubs] at mapped
    exact Or.inl mapped
  | true =>
    cases half with
    | register opened identity events =>
      simp only [change, tryRegister_eq, hub?, hubs_tryAddBackend, openHub] at mapped
      split at mapped
      · exact Or.inl mapped
      · by_cases same : hub = opened
        · rw [same, Dictionary.get?_insert_self] at mapped
          exact Or.inr (Nat.le_of_eq (Option.some.inj mapped))
        · rw [Dictionary.get?_insert_of_ne _ _ same] at mapped
          exact Or.inl mapped
    | addClient joined backendId context =>
      left
      simp only [change] at mapped
      split at mapped
      · exact mapped
      · rwa [hub?, hubs_addClient] at mapped
    | removeBackend other backend => exact Or.inl mapped
    | removeClient other client => exact Or.inl mapped
    | prune other =>
      left
      simp only [change, prune] at mapped
      split at mapped
      · exact mapped
      · next pruned _ =>
        split at mapped
        · have there : (board.hubs.erase pruned.hub).get? hub = some key := mapped
          by_cases same : hub = pruned.hub
          · rw [same, Dictionary.get?_erase_self] at there
            contradiction
          · rwa [Dictionary.get?_erase_of_ne _ same] at there
        · exact mapped
    | _ => contradiction

/-- A registry that is off the map never gets back. -/
theorem unmapped_run (halfway : Halfway) {hub : String}
    (found : halfway.board.registryOf? key = some registry)
    (unmapped : halfway.board.hub? hub ≠ some key) (halves : List Half) :
    (halfway.run halves).board.hub? hub ≠ some key := by
  induction halves generalizing halfway registry with
  | nil => exact unmapped
  | cons half halves inductionHypothesis =>
    obtain ⟨next, there, -⟩ := keeps_change half found
    have within : key < halfway.board.registries.length := (List.getElem?_eq_some_iff.1 found).1
    refine inductionHypothesis (halfway.take half) there fun mapped => ?_
    -- the map may be led to a registry that is new, but this one is not
    rcases mapped_change half mapped with before | fresh
    · exact unmapped before
    · exact Nat.not_le_of_lt within fresh

/-! ## Whole operations -/

variable (board)

/-- The halves of closing a backend. -/
def closing (key : BackendKey) : List Half :=
  match board.backend? key with
  | none => []
  | some backend =>
    if backend.queue.closed then []
    else [.shut key, .removeBackend backend.registry key, .prune backend.registry]

/-- The halves of letting go of a client. -/
def releasing (key : ClientKey) : List Half :=
  match board.client? key with
  | none => []
  | some client => [.detach key, .removeClient client.registry key, .prune client.registry]

/-- The halves of routing a client. -/
def routing (hub : String) (context : Context) (event : String) : List Half :=
  match board.hub? hub with
  | none => []
  | some key =>
    match board.selectBackend key event with
    | (none, _) => [.pick hub event]
    | (some backend, picked) =>
      [.pick hub event, .addClient hub (((picked.backend? backend).map (·.id)).getD "") context]

/-- The halves of a request. -/
def halvesOf (request : Request) : List Half :=
  if stays : request.changesBooks = false then
    [.aside (·.perform request) (fun board => sameBooks_perform board stays)
      fun board => (onward_perform board request).settings]
  else
    match request with
    | .register hub identity events => [.register hub identity events]
    | .close backend => board.closing backend
    | .drop backend => board.closing backend ++ [.discard backend]
    | .route hub context event => board.routing hub context event
    | _ => []

variable (owed : List RegistryKey)

theorem run_closing (key : BackendKey) :
    Halfway.run ⟨board, owed⟩ (board.closing key) = ⟨board.closeBackend key, owed⟩ := by
  unfold closing closeBackend
  cases found : board.backend? key with
  | none => rfl
  | some backend =>
    cases closed : backend.queue.closed with
    | true => simp [closed, Halfway.run]
    | false =>
      simp only [closed, Bool.false_eq_true, ↓reduceIte, Halfway.run, List.foldl_cons,
        List.foldl_nil, Halfway.take, change, found, Half.owes, List.erase_cons_head]

theorem run_releasing (key : ClientKey) :
    Halfway.run ⟨board, owed⟩ (board.releasing key) = ⟨board.dropClient key, owed⟩ := by
  unfold releasing dropClient
  cases board.client? key with
  | none => rfl
  | some client =>
    simp only [Halfway.run, List.foldl_cons, List.foldl_nil, Halfway.take, change, Half.owes,
      List.erase_cons_head]

theorem run_routing (hub : String) (context : Context) (event : String) :
    Halfway.run ⟨board, owed⟩ (board.routing hub context event) =
      ⟨(board.route hub context event).2, owed⟩ := by
  unfold routing route
  cases found : board.hub? hub with
  | none => rfl
  | some key =>
    -- picking changes no map, so the client is added to the registry of which it was a backend
    have hubs : (board.selectBackend key event).2.hub? hub = some key := by
      have picks : Traffic none board (board.selectBackend key event).2 :=
        traffic_selectBackend board key event
      rw [hub?, picks.books.hubs]
      exact found
    cases selected : board.selectBackend key event with
    | mk choice picked =>
      rw [selected] at hubs
      cases choice with
      | none => simp only [Halfway.run, List.foldl_cons, List.foldl_nil, Halfway.take, change,
          found, selected, Half.owes]
      | some backend =>
        simp only [Halfway.run, List.foldl_cons, List.foldl_nil, Halfway.take, change, found,
          selected, hubs, Half.owes]

/-- Every request is made of halves, and leaves no debt of its own. -/
theorem run_halvesOf (request : Request) :
    Halfway.run ⟨board, owed⟩ (board.halvesOf request) = ⟨board.perform request, owed⟩ := by
  unfold halvesOf
  split
  · rfl
  · next changes =>
    cases request with
    | register hub identity events => rfl
    | close backend => exact run_closing board owed backend
    | drop backend =>
      simp only [Halfway.run_append, run_closing]
      rfl
    | route hub context event => exact run_routing board owed hub context event
    | _ => exact absurd rfl changes

end Switchboard

end HubRelay
