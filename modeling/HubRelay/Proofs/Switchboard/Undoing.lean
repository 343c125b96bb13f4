import HubRelay.Proofs.Exchange.Routing
import HubRelay.Proofs.Isolation.Membership
import HubRelay.Proofs.Switchboard.Naming
import Mathlib.Data.List.Find

/-!
Contract: a client that was added and let go again leaves no trace.

Owns: when two switchboards tell everybody the same; that a turn that was taken and a client that
nobody lists are not noticed; and what is left of a client that was routed and let go, also if its
backend went in between.

Does not own: why the client is let go.

A client that was let go stays under its key, because its handshake could still be looked at, and
its id is not given out again.  But no registry lists it, and nobody is told about a client but
through a registry.
-/

namespace HubRelay

namespace Selection

/-- A selection that has picked once more. -/
def turned : Selection → Selection
  | .firstMatch => .firstMatch
  | .roundRobin turns => .roundRobin (turns + 1)

/-- Picking one of some candidates takes one turn, whoever is picked. -/
theorem choose_snd {α : Type} {candidates : List α} (selection : Selection)
    (some : candidates ≠ []) : (selection.choose candidates).2 = selection.turned := by
  have positive : candidates.length ≠ 0 := by
    intro empty
    exact some (List.eq_nil_of_length_eq_zero empty)
  cases selection with
  | firstMatch => rfl
  | roundRobin turns => simp only [choose, pick, if_neg positive, turned]

theorem policy_turned (selection : Selection) : selection.turned.policy = selection.policy := by
  cases selection <;> rfl

end Selection

namespace Switchboard

/-- Two switchboards that tell everybody the same. -/
structure Alike (before after : Switchboard) : Prop where
  settings : after.settings = before.settings
  now : after.now = before.now
  stopped : after.stopped = before.stopped
  /-- Everybody who was registered is as before, with the events that wait. -/
  backends : after.backends = before.backends
  /-- The clients that were there are as before, with their handshakes. -/
  clients : ∀ key client, before.client? key = some client → after.client? key = some client
  hubNames : after.hubNames = before.hubNames
  hubStats : ∀ hub, after.hubStats hub = before.hubStats hub
  stats : after.stats = before.stats
  /-- The same backends can be picked. -/
  candidates : ∀ hub event, after.candidatesIn hub event = before.candidatesIn hub event
  /-- The same ids name the same clients. -/
  named : ∀ hub id, after.named? hub id = before.named? hub id
  acknowledges : ∀ hub approval,
    (after.tryAcknowledge hub approval).1 = (before.tryAcknowledge hub approval).1
  sends : ∀ hub id payload,
    (after.sendToConnection hub id payload).1 = (before.sendToConnection hub id payload).1

/-- Nothing has happened but turns of selections and clients that nobody lists. -/
structure Unnoticed (before after : Switchboard) : Prop where
  settings : after.settings = before.settings
  now : after.now = before.now
  stopped : after.stopped = before.stopped
  hubs : after.hubs = before.hubs
  backends : after.backends = before.backends
  clients : before.clients <+: after.clients
  registries : after.registries.map Registry.rewound = before.registries.map Registry.rewound

/-- Whose handshakes ended in approval depends on nobody else. -/
theorem approved_congr {first second : Switchboard} {clients : List ClientKey}
    (same : ∀ client ∈ clients, second.client? client = first.client? client) :
    clients.filter second.isApproved = clients.filter first.isApproved := by
  apply List.filter_congr
  intro client among
  rw [isApproved, same client among, isApproved]

namespace Unnoticed

variable {first second third : Switchboard} {held : ClientKey → Bool}

theorem trans (one : Unnoticed first second) (two : Unnoticed second third) :
    Unnoticed first third where
  settings := two.settings.trans one.settings
  now := two.now.trans one.now
  stopped := two.stopped.trans one.stopped
  hubs := two.hubs.trans one.hubs
  backends := two.backends.trans one.backends
  clients := one.clients.trans two.clients
  registries := two.registries.trans one.registries

theorem hub? (unnoticed : Unnoticed first second) (hub : String) :
    second.hub? hub = first.hub? hub := by
  rw [Switchboard.hub?, unnoticed.hubs, Switchboard.hub?]

theorem client? (unnoticed : Unnoticed first second) {key : ClientKey} {client : Client}
    (found : first.client? key = some client) : second.client? key = some client :=
  List.getElem?_eq_some_iff.2 <| by
    obtain ⟨within, here⟩ := List.getElem?_eq_some_iff.1 found
    exact ⟨Nat.lt_of_lt_of_le within unnoticed.clients.length_le,
      (unnoticed.clients.getElem within).symm.trans here⟩

/-- What is told of a registry is told of its lists, and the clients that it lists are as before. -/
theorem registry_map {α : Type} {tells told : Registry → α} (unnoticed : Unnoticed first second)
    (sound : Sound first held none) (key : RegistryKey)
    (same : ∀ registry later : Registry, later.backends = registry.backends →
      later.clients = registry.clients →
      (∀ client ∈ registry.clients, second.client? client = first.client? client) →
      told later = tells registry) :
    (second.registryOf? key).map told = (first.registryOf? key).map tells := by
  cases found : first.registryOf? key with
  | none =>
    have missing : second.registryOf? key = none := by
      have lengths := congrArg List.length unnoticed.registries
      rw [List.length_map, List.length_map] at lengths
      rw [registryOf?, List.getElem?_eq_none_iff] at found ⊢
      omega
    rw [missing, Option.map_none, Option.map_none]
  | some registry =>
    obtain ⟨later, there, rewound⟩ := entry_of_map_eq unnoticed.registries.symm found
    have listed : ∀ client ∈ registry.clients, second.client? client = first.client? client := by
      intro client among
      rw [sound.clients found] at among
      obtain ⟨entry, here, -⟩ := mem_indices.1 among
      exact (unnoticed.client? here).trans here.symm
    have there : second.registryOf? key = some later := there
    rw [there, Option.map_some, Option.map_some]
    exact congrArg some (same registry later (congrArg (·.backends) rewound)
      (congrArg (·.clients) rewound) listed)

theorem registryStats (unnoticed : Unnoticed first second) (sound : Sound first held none)
    (key : RegistryKey) :
    (second.registryOf? key).map second.registryStats =
      (first.registryOf? key).map first.registryStats := by
  refine unnoticed.registry_map sound key fun registry later backends clients listed => ?_
  rw [Switchboard.registryStats, backends, clients, approved_congr listed,
    Switchboard.registryStats]

theorem findClient (unnoticed : Unnoticed first second) (sound : Sound first held none)
    (key : RegistryKey) (id : String) : second.findClient key id = first.findClient key id := by
  have searches (board : Switchboard) : board.findClient key id =
      ((board.registryOf? key).map fun registry => registry.clients.find? fun client =>
        (board.client? client).map (·.id) = some id).getD none := by
    unfold Switchboard.findClient
    cases board.registryOf? key with
    | none => rfl
    | some registry => rfl
  rw [searches, searches]
  refine congrArg (Option.getD · none) ?_
  refine unnoticed.registry_map sound key fun registry later _ clients listed => ?_
  rw [clients]
  exact List.find?_congr fun client among => by rw [listed client among]

theorem candidatesIn (unnoticed : Unnoticed first second) (sound : Sound first held none)
    (hub event : String) : second.candidatesIn hub event = first.candidatesIn hub event := by
  have tells (board : Switchboard) : board.candidatesIn hub event =
      ((board.hub? hub).bind fun key => (board.registryOf? key).map
        (board.candidates · event)).getD [] := by
    unfold Switchboard.candidatesIn
    cases board.hub? hub with
    | none => rfl
    | some key =>
      cases found : board.registryOf? key <;> simp only [Option.bind_some, found] <;> rfl
  have kept (key : RegistryKey) : (second.registryOf? key).map (second.candidates · event) =
      (first.registryOf? key).map (first.candidates · event) := by
    refine unnoticed.registry_map sound key fun registry later backends _ _ => ?_
    have wants : second.isCandidate event = first.isCandidate event := by
      funext backend
      rw [isCandidate, backend?, unnoticed.backends, isCandidate, backend?]
    rw [candidates, candidates, backends, wants]
  rw [tells, tells, unnoticed.hub? hub]
  simp only [kept]

theorem named? (unnoticed : Unnoticed first second) (sound : Sound first held none)
    (hub id : String) : second.named? hub id = first.named? hub id := by
  rw [Switchboard.named?, Switchboard.named?, unnoticed.hub? hub]
  simp only [unnoticed.findClient sound]

/-- Whom an id names, that client is as before. -/
theorem named?_bind (unnoticed : Unnoticed first second) (sound : Sound first held none)
    (hub id : String) :
    (second.named? hub id).bind second.client? = (first.named? hub id).bind first.client? := by
  rw [unnoticed.named? sound]
  cases named : first.named? hub id with
  | none => rfl
  | some key =>
    obtain ⟨-, client, found, -⟩ := sound.named?_eq_some_iff.1 named
    rw [Option.bind_some, Option.bind_some, found]
    exact unnoticed.client? found

/-- What is not noticed tells nobody anything else. -/
theorem alike (unnoticed : Unnoticed first second) (sound : Sound first held none) :
    Alike first second where
  settings := unnoticed.settings
  now := unnoticed.now
  stopped := unnoticed.stopped
  backends := unnoticed.backends
  clients := fun _ _ found => unnoticed.client? found
  hubNames := congrArg Dictionary.names unnoticed.hubs
  hubStats := by
    intro hub
    rw [Switchboard.hubStats, Switchboard.hubStats, unnoticed.hub? hub]
    cases first.hub? hub with
    | none => rfl
    | some key => exact unnoticed.registryStats sound key
  stats := by
    have entry (board : Switchboard) (name : String) (key : RegistryKey) :
        ((board.registryOf? key).map fun registry => (name, board.registryStats registry)) =
          ((board.registryOf? key).map board.registryStats).map (name, ·) := by
      rw [Option.map_map]
      rfl
    rw [Switchboard.stats, Switchboard.stats, unnoticed.hubs]
    refine congrArg (List.filterMap · first.hubs.entries) (funext fun listed => ?_)
    simp only [entry, unnoticed.registryStats sound]
  candidates := unnoticed.candidatesIn sound
  named := unnoticed.named? sound
  acknowledges := by
    intro hub approval
    rw [tryAcknowledge_fst, tryAcknowledge_fst, unnoticed.hub? hub, unnoticed.now,
      unnoticed.named?_bind sound]
  sends := by
    intro hub id payload
    rw [sendToConnection_fst, sendToConnection_fst, unnoticed.named?_bind sound]

end Unnoticed

/-! ## A turn, and a client that nobody lists -/

/-- A registry is put to another selection. -/
def turn (board : Switchboard) (key : RegistryKey) (selection : Selection) : Switchboard :=
  board.updateRegistry key fun registry => { registry with selection := selection }

/-- A client that nobody lists is added. -/
def haunt (board : Switchboard) (ghost : Client) : Switchboard :=
  { board with issued := board.issued + 1, clients := board.clients ++ [ghost] }

variable {board : Switchboard} {held : ClientKey → Bool} {key : RegistryKey}
  {registry : Registry}

theorem unnoticed_turn (found : board.registryOf? key = some registry) :
    Unnoticed board (board.turn key registry.selection.turned) where
  settings := rfl
  now := rfl
  stopped := rfl
  hubs := rfl
  backends := rfl
  clients := List.prefix_refl _
  registries := by
    refine map_modify_of_same board.registries key _ Registry.rewound fun entry here => ?_
    obtain rfl : registry = entry := Option.some.inj (found.symm.trans here)
    simp only [Registry.rewound, registry.selection.policy_turned]

theorem unnoticed_haunt (board : Switchboard) (ghost : Client) :
    Unnoticed board (board.haunt ghost) where
  settings := rfl
  now := rfl
  stopped := rfl
  hubs := rfl
  backends := rfl
  clients := List.prefix_append _ _
  registries := rfl

/-! ## Letting go of a client that was just added -/

theorem prune_of_found (found : board.registryOf? key = some registry) :
    board.prune key = if board.hub? registry.hub = some key ∧ registry.isEmpty then
      { board with hubs := board.hubs.erase registry.hub } else board := by
  rw [prune, found]

theorem prune_of_nonempty (found : board.registryOf? key = some registry)
    (nonempty : registry.isEmpty = false) : board.prune key = board := by
  rw [prune_of_found found]
  exact if_neg fun empty => by simp [nonempty] at empty

theorem prune_haunt (found : board.registryOf? key = some registry) (ghost : Client) :
    (board.haunt ghost).prune key = (board.prune key).haunt ghost := by
  have there : (board.haunt ghost).registryOf? key = some registry := found
  rw [prune_of_found found, prune_of_found there, apply_ite (haunt · ghost)]
  rfl

theorem registryOf?_prune (board : Switchboard) (key other : RegistryKey) :
    (board.prune key).registryOf? other = board.registryOf? other := by
  unfold prune
  split
  · rfl
  · split
    · rfl
    · rfl

theorem prune_turn (found : board.registryOf? key = some registry) (selection : Selection) :
    (board.turn key selection).prune key = (board.prune key).turn key selection := by
  have there : (board.turn key selection).registryOf? key =
      some { registry with selection := selection } := getElem?_modify_of_some _ found
  rw [prune_of_found found, prune_of_found there, apply_ite (turn · key selection)]
  rfl

theorem prune_updateBackend (board : Switchboard) (chosen : BackendKey)
    (change : Backend → Backend) (key : RegistryKey) :
    (board.updateBackend chosen change).prune key =
      (board.prune key).updateBackend chosen change := by
  cases found : board.registryOf? key with
  | none =>
    have missing : (board.updateBackend chosen change).registryOf? key = none := found
    rw [prune, missing, prune, found]
  | some registry =>
    have there : (board.updateBackend chosen change).registryOf? key = some registry := found
    rw [prune_of_found found, prune_of_found there, apply_ite (updateBackend · chosen change)]
    rfl

/-- What is left of a client that was added and let go: its hub may have nobody any more, and nobody
lists the client. -/
theorem dropClient_addClient (found : board.registryOf? key = some registry)
    (bounded : ∀ client ∈ registry.clients, client < board.clients.length) (backendId : String)
    (context : Context) :
    (board.addClient key backendId context).2.dropClient board.clients.length =
      (board.prune key).haunt (board.newClient key registry backendId context) := by
  rw [← prune_haunt found, addClient_of_found found]
  simp only
  have there : (board.clients ++ [board.newClient key registry backendId context])[
      board.clients.length]? = some (board.newClient key registry backendId context) :=
    List.getElem?_concat_length
  rw [dropClient]
  simp only [client?, there]
  -- nothing could be handed over for it, and taking it off the list again leaves the list as it was
  have silent : (board.clients ++ [board.newClient key registry backendId context]).modify
      board.clients.length (fun client => { client with outbound := none }) =
        board.clients ++ [board.newClient key registry backendId context] := by
    have rows := map_modify_of_same _ board.clients.length
      (fun client : Client => { client with outbound := none }) id fun entry here => by
        obtain rfl := Option.some.inj (there.symm.trans here)
        rfl
    simpa only [List.map_id_fun, id_eq] using rows
  have delisted : ((board.registries.modify key fun registry =>
      { registry with clients := registry.clients ++ [board.clients.length] }).modify key
        fun registry => { registry with
          clients := registry.clients.filter (· ≠ board.clients.length) }) =
      board.registries := by
    rw [List.modify_modify_eq]
    have rows := map_modify_of_same board.registries key
      ((fun registry : Registry => { registry with
          clients := registry.clients.filter (· ≠ board.clients.length) }) ∘
        fun registry => { registry with clients := registry.clients ++ [board.clients.length] })
      id fun entry here => by
        obtain rfl : registry = entry := Option.some.inj (found.symm.trans here)
        have kept : (registry.clients ++ [board.clients.length]).filter
            (· ≠ board.clients.length) = registry.clients := by
          rw [List.filter_append, List.filter_eq_self.2 fun client among => by
            simpa using Nat.ne_of_lt (bounded client among)]
          simp
        simp only [Function.comp_apply, kept, id_eq]
    simpa only [List.map_id_fun, id_eq] using rows
  refine congrArg (prune · key) ?_
  exact Switchboard.ext rfl rfl rfl rfl delisted rfl rfl silent

/-! ## Letting go of a client that was just routed -/

variable {hub event : String} {chosen : BackendKey} {backend : Backend}

/-- A client is routed by picking a candidate, which takes a turn, and by being added. -/
theorem route_eq (mapped : board.hub? hub = some key)
    (found : board.registryOf? key = some registry)
    (somebody : board.candidatesIn hub event ≠ []) (context : Context) :
    ∃ chosen ∈ registry.backends, ∃ backend, board.backend? chosen = some backend ∧
      backend.queue.closed = false ∧ backend.wants event = true ∧
      board.route hub context event = (.ok (chosen, board.clients.length),
        ((board.turn key registry.selection.turned).addClient key backend.id context).2) := by
  rw [candidatesIn_of_mapped mapped found] at somebody
  obtain ⟨chosen, among, picked, -⟩ := registry.selection.choose_of_ne_nil somebody
  obtain ⟨listed, isCandidate⟩ := List.mem_filter.1 among
  unfold Switchboard.isCandidate at isCandidate
  split at isCandidate
  · next backend here =>
    rw [Bool.and_eq_true, Bool.not_eq_true'] at isCandidate
    refine ⟨chosen, listed, backend, here, isCandidate.1, isCandidate.2, ?_⟩
    have selected : board.selectBackend key event =
        (some chosen, board.turn key registry.selection.turned) := by
      rw [selectBackend_of_found found, picked, Selection.choose_snd _ somebody]
      rfl
    have there : (board.turn key registry.selection.turned).registryOf? key =
        some { registry with selection := registry.selection.turned } :=
      getElem?_modify_of_some _ found
    have present : (board.turn key registry.selection.turned).backend? chosen = some backend := here
    rw [route_of_picked mapped selected present, addClient_of_found there]
    rfl
  · contradiction

/-- A backend that leaves, but for the map of hubs. -/
def depart (board : Switchboard) (chosen : BackendKey) (backend : Backend) : Switchboard :=
  (board.setQueue chosen backend.queue.close).removeBackend backend.registry chosen

theorem closeBackend_of_open (here : board.backend? chosen = some backend)
    (opened : backend.queue.closed = false) :
    board.closeBackend chosen = (board.depart chosen backend).prune backend.registry := by
  rw [closeBackend, here]
  simp only [opened, Bool.false_eq_true, ↓reduceIte]
  rfl

theorem registryOf?_depart (found : board.registryOf? backend.registry = some registry)
    (chosen : BackendKey) : (board.depart chosen backend).registryOf? backend.registry =
      some { registry with backends := registry.backends.filter (· ≠ chosen) } :=
  getElem?_modify_of_some _ found

theorem closeBackend_turn (here : board.backend? chosen = some backend)
    (opened : backend.queue.closed = false)
    (found : board.registryOf? backend.registry = some registry) (selection : Selection) :
    (board.turn backend.registry selection).closeBackend chosen =
      (board.closeBackend chosen).turn backend.registry selection := by
  rw [closeBackend_of_open here opened, ← prune_turn (registryOf?_depart found chosen),
    closeBackend_of_open (show (board.turn backend.registry selection).backend? chosen =
      some backend from here) opened]
  refine congrArg (prune · backend.registry) ?_
  refine Switchboard.ext rfl rfl rfl rfl ?_ rfl rfl rfl
  show (board.registries.modify backend.registry _).modify backend.registry _ =
    (board.registries.modify backend.registry _).modify backend.registry _
  rw [List.modify_modify_eq, List.modify_modify_eq]
  rfl

/-- If the backend goes in between, it is as if there had been nothing but its going. -/
theorem dropClient_closeBackend (here : board.backend? chosen = some backend)
    (opened : backend.queue.closed = false)
    (found : board.registryOf? backend.registry = some registry)
    (bounded : ∀ client ∈ registry.clients, client < board.clients.length) (backendId : String)
    (context : Context) :
    ((board.addClient backend.registry backendId context).2.closeBackend chosen).dropClient
        board.clients.length =
      (board.closeBackend chosen).haunt
        (board.newClient backend.registry registry backendId context) := by
  have foundThere := registryOf?_depart found chosen
  -- while the client is there the hub has somebody
  have closed : (board.addClient backend.registry backendId context).2.closeBackend chosen =
      ((board.depart chosen backend).addClient backend.registry backendId context).2 := by
    rw [addClient_of_found found, addClient_of_found foundThere]
    let client := board.newClient backend.registry registry backendId context
    let added := { board.updateRegistry backend.registry fun registry =>
        { registry with clients := registry.clients ++ [board.clients.length] } with
      issued := board.issued + 1
      clients := board.clients ++ [client] }
    have present : added.backend? chosen = some backend := here
    have commuted : added.depart chosen backend =
        { (board.depart chosen backend).updateRegistry backend.registry fun registry =>
            { registry with clients := registry.clients ++ [board.clients.length] } with
          issued := board.issued + 1
          clients := board.clients ++ [client] } := by
      refine Switchboard.ext rfl rfl rfl rfl ?_ rfl rfl rfl
      show (board.registries.modify backend.registry _).modify backend.registry _ =
        (board.registries.modify backend.registry _).modify backend.registry _
      rw [List.modify_modify_eq, List.modify_modify_eq]
      rfl
    refine (closeBackend_of_open present opened).trans ?_
    rw [commuted]
    refine prune_of_nonempty (getElem?_modify_of_some _ foundThere) ?_
    simp [Registry.isEmpty]
  rw [closed]
  exact (dropClient_addClient foundThere bounded backendId context).trans <|
    congrArg (haunt · _) (closeBackend_of_open here opened).symm

theorem dropClient_updateBackend (board : Switchboard) (chosen : BackendKey)
    (change : Backend → Backend) (client : ClientKey) :
    (board.updateBackend chosen change).dropClient client =
      (board.dropClient client).updateBackend chosen change := by
  have same : (board.updateBackend chosen change).client? client = board.client? client := rfl
  unfold dropClient
  rw [same]
  cases board.client? client with
  | none => rfl
  | some entry =>
    exact prune_updateBackend ((board.updateClient client fun entry =>
      { entry with outbound := none }).removeClient entry.registry client) chosen change
      entry.registry

end Switchboard

end HubRelay
