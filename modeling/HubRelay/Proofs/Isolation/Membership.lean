import HubRelay.Proofs.Isolation.View

/-!
Contract: who comes to a hub, and who leaves it, does the same where there is nothing else.

Owns: that opening a hub, registering and closing backends, routing clients and letting go of them
commute with cutting the switchboard down to the hub, and answer the same but for the numbers.

Does not own: what is done with those who are there.

An operation that adds something needs numbers that fit what it adds, so for these the numbers are
to fit the switchboard afterwards.
-/

namespace HubRelay

attribute [ext] Switchboard

namespace Switchboard

variable {board : Switchboard} {hub : String} {numbers : Renumbering}

/-! ## Ids that are given out -/

/-- If an id was given out to the hub, it is the one that is given out where there is nothing
else. -/
def Named (before after : Switchboard) (hub : String) (numbers : Renumbering) : Prop :=
  before.issuedIn hub < after.issuedIn hub →
    numbers.name before.nextId = (before.within hub numbers).nextId

/-- The id stays the same as long as none is given out. -/
theorem Named.later {before later after : Switchboard} (named : Named before after hub numbers)
    (issued : later.issued = before.issued) (issuedIn : later.issuedIn hub = before.issuedIn hub)
    (given : after.issuedIn hub = later.issuedIn hub + 1) :
    numbers.name later.nextId = (later.within hub numbers).nextId := by
  have known := named (by omega)
  show numbers.name (Identifier.ofSerial later.issued) =
    Identifier.ofSerial (later.issuedIn hub)
  rw [issued, issuedIn]
  exact known

/-! ## Coming -/

theorem Placed.openHub (placed : Placed (board.openHub hub).2 hub numbers) :
    (board.within hub numbers).openHub hub =
      (numbers.registry (board.openHub hub).1, (board.openHub hub).2.within hub numbers) := by
  cases mapped : board.hub? hub with
  | some key =>
    have there : (board.within hub numbers).hub? hub = some (numbers.registry key) := by
      rw [hub?_within, mapped, Option.map_some]
    rw [Switchboard.openHub, Switchboard.openHub, there, mapped]
  | none =>
    have there : (board.within hub numbers).hub? hub = none := by
      rw [hub?_within, mapped, Option.map_none]
    rw [openHub_of_missing mapped] at placed ⊢
    rw [openHub_of_missing there]
    have number : numbers.registry board.registries.length =
        (board.registriesIn hub numbers).length :=
      placed.registries.cut_length (beq_self_eq_true hub) _
    have registries : cut (board.registries ++ [board.newRegistry hub]) (·.hub == hub)
        (·.renumbered numbers) = board.registriesIn hub numbers ++ [board.newRegistry hub] :=
      cut_concat_chosen board.registries (·.hub == hub) _ (beq_self_eq_true hub)
    refine Prod.ext number.symm (Switchboard.ext rfl rfl rfl rfl registries.symm ?_ rfl rfl)
    -- the hub is the only one on the map
    have before : board.hubsIn hub numbers = .empty := by rw [hubsIn, mapped]
    have after : hubsIn { board with hubs := board.hubs.insert hub board.registries.length } hub
        numbers = .single hub (numbers.registry board.registries.length) := by
      simp only [hubsIn, hub?, board.hubs.get?_insert_self hub board.registries.length]
    show (board.hubsIn hub numbers).insert hub (board.registriesIn hub numbers).length =
      hubsIn { board with hubs := board.hubs.insert hub board.registries.length } hub numbers
    rw [before, after, ← number]
    rfl

/-- Listing a backend in a registry. -/
theorem Placed.listBackend (placed : Placed board hub numbers) {key : RegistryKey}
    (own : board.registryHub? key = some hub) (backend : BackendKey) :
    (board.updateRegistry key fun registry =>
        { registry with backends := registry.backends ++ [backend] }).within hub numbers =
      (board.within hub numbers).updateRegistry (numbers.registry key) fun registry =>
        { registry with backends := registry.backends ++ [numbers.backend backend] } := by
  refine placed.updateRegistry own _ (fun _ => rfl) fun registry _ => ?_
  simp only [Registry.renumbered, List.map_append, List.map_singleton]

theorem Placed.listClient (placed : Placed board hub numbers) {key : RegistryKey}
    (own : board.registryHub? key = some hub) (client : ClientKey) :
    (board.updateRegistry key fun registry =>
        { registry with clients := registry.clients ++ [client] }).within hub numbers =
      (board.within hub numbers).updateRegistry (numbers.registry key) fun registry =>
        { registry with clients := registry.clients ++ [numbers.client client] } := by
  refine placed.updateRegistry own _ (fun _ => rfl) fun registry _ => ?_
  simp only [Registry.renumbered, List.map_append, List.map_singleton]

/-- The entry of a backend that is added to a registry. -/
def newBackend (board : Switchboard) (key : RegistryKey) (registry : Registry) (identity : String)
    (events : List String) : Backend :=
  { id := board.nextId
    hub := registry.hub
    registry := key
    identity := identity
    events := Interest.sortNames events
    queue := .ofCapacity registry.queueCapacity }

theorem tryAddBackend_of_found {key : RegistryKey} {registry : Registry}
    (found : board.registryOf? key = some registry) (admits : registry.Admits) (identity : String)
    (events : List String) : board.tryAddBackend key identity events =
      (some board.backends.length,
        { board.updateRegistry key fun registry =>
            { registry with backends := registry.backends ++ [board.backends.length] } with
          issued := board.issued + 1
          backends := board.backends ++ [board.newBackend key registry identity events] }) :=
  tryAddBackend_of_admits identity events found admits

/-- A backend that was added to a hub was given an id. -/
theorem issuedIn_concatBackend (board : Switchboard) {backend : Backend}
    (own : (backend.hub == hub) = true) :
    (board.backends ++ [backend]).countP (·.hub == hub) + board.clients.countP (·.hub == hub) =
      board.issuedIn hub + 1 := by
  rw [List.countP_append, List.countP_singleton, if_pos own, issuedIn]
  omega

theorem issuedIn_concatClient (board : Switchboard) {client : Client}
    (own : (client.hub == hub) = true) :
    board.backends.countP (·.hub == hub) + (board.clients ++ [client]).countP (·.hub == hub) =
      board.issuedIn hub + 1 := by
  rw [List.countP_append, List.countP_singleton, if_pos own, issuedIn]
  omega

theorem Placed.tryAddBackend {key : RegistryKey} {identity : String} {events : List String}
    (placed : Placed (board.tryAddBackend key identity events).2 hub numbers)
    (own : board.registryHub? key = some hub)
    (named : (board.tryAddBackend key identity events).2.issuedIn hub = board.issuedIn hub + 1 →
      numbers.name board.nextId = (board.within hub numbers).nextId) :
    (board.within hub numbers).tryAddBackend (numbers.registry key) identity events =
      ((board.tryAddBackend key identity events).1.map numbers.backend,
        (board.tryAddBackend key identity events).2.within hub numbers) := by
  have placedBefore := placed.of_lasting (lasting_tryAddBackend board key identity events)
  obtain ⟨registry, found, isOwn, there⟩ := placedBefore.registryOf? own
  by_cases admits : registry.Admits
  · have chosen : (board.newBackend key registry identity events).hub == hub := beq_iff_eq.2 isOwn
    have added := tryAddBackend_of_found found admits identity events
    have addedThere : (registry.renumbered numbers).Admits := admits
    rw [added] at placed named ⊢
    rw [tryAddBackend_of_found there addedThere]
    have known := named (issuedIn_concatBackend board chosen)
    have number : numbers.backend board.backends.length = (board.backendsIn hub numbers).length :=
      placed.backends.cut_length chosen _
    have rows : cut (board.backends ++ [board.newBackend key registry identity events])
        (·.hub == hub) (·.renumbered numbers) = board.backendsIn hub numbers ++
          [(board.within hub numbers).newBackend (numbers.registry key)
            (registry.renumbered numbers) identity events] := by
      refine (cut_concat_chosen board.backends (·.hub == hub) _ chosen).trans ?_
      refine congrArg (board.backendsIn hub numbers ++ [·]) ?_
      rw [newBackend, newBackend, ← known]
      rfl
    have listed := placedBefore.listBackend own board.backends.length
    rw [number] at listed
    refine Prod.ext (congrArg some number.symm)
      (Switchboard.ext rfl rfl rfl ?issued ?registries rfl rows.symm rfl)
    case registries => exact congrArg (·.registries) listed.symm
    case issued => exact (issuedIn_concatBackend board chosen).symm
  · have refuses : ¬ (registry.renumbered numbers).Admits := admits
    rw [tryAddBackend_of_not_admits identity events found admits,
      tryAddBackend_of_not_admits identity events there refuses]
    rfl

theorem Placed.tryRegister {identity : String} {events : List String}
    (placed : Placed (board.tryRegister hub identity events).2 hub numbers) (zoned : Zoned board)
    (named : Named board (board.tryRegister hub identity events).2 hub numbers) :
    (board.within hub numbers).tryRegister hub identity events =
      ((board.tryRegister hub identity events).1.map numbers.backend,
        (board.tryRegister hub identity events).2.within hub numbers) := by
  have own := zoned.openHub hub
  have opened := (placed.of_lasting (lasting_tryAddBackend _ _ identity events)).openHub
  obtain ⟨backends, clients, issued⟩ := board.members_openHub hub
  have issuedIn : (board.openHub hub).2.issuedIn hub = board.issuedIn hub := by
    rw [Switchboard.issuedIn, backends, clients, Switchboard.issuedIn]
  rw [tryRegister_eq, opened]
  exact placed.tryAddBackend own fun grown => named.later issued issuedIn grown

/-- The entry of a client that is added to a registry. -/
def newClient (board : Switchboard) (key : RegistryKey) (registry : Registry) (backendId : String)
    (context : Context) : Client :=
  { id := board.nextId
    hub := registry.hub
    registry := key
    backendId := backendId
    context := context
    handshake := .start board.now registry.handshakeTimeout
    outbound := none
    waiters := 0 }

theorem addClient_of_found {key : RegistryKey} {registry : Registry}
    (found : board.registryOf? key = some registry) (backendId : String) (context : Context) :
    board.addClient key backendId context =
      (board.clients.length,
        { board.updateRegistry key fun registry =>
            { registry with clients := registry.clients ++ [board.clients.length] } with
          issued := board.issued + 1
          clients := board.clients ++ [board.newClient key registry backendId context] }) := by
  rw [Switchboard.addClient, found]
  rfl

theorem Placed.addClient {key : RegistryKey} {backendId : String} {context : Context}
    (placed : Placed (board.addClient key backendId context).2 hub numbers)
    (own : board.registryHub? key = some hub)
    (named : numbers.name board.nextId = (board.within hub numbers).nextId) :
    (board.within hub numbers).addClient (numbers.registry key) (numbers.name backendId) context =
      (numbers.client (board.addClient key backendId context).1,
        (board.addClient key backendId context).2.within hub numbers) := by
  have placedBefore := placed.of_lasting (lasting_addClient board key backendId context)
  obtain ⟨registry, found, isOwn, there⟩ := placedBefore.registryOf? own
  have chosen : (board.newClient key registry backendId context).hub == hub := beq_iff_eq.2 isOwn
  rw [addClient_of_found found] at placed ⊢
  rw [addClient_of_found there]
  have number : numbers.client board.clients.length = (board.clientsIn hub numbers).length :=
    placed.clients.cut_length chosen _
  have added : cut (board.clients ++ [board.newClient key registry backendId context])
      (·.hub == hub) (·.renumbered numbers) = board.clientsIn hub numbers ++
        [(board.within hub numbers).newClient (numbers.registry key) (registry.renumbered numbers)
          (numbers.name backendId) context] := by
    refine (cut_concat_chosen board.clients (·.hub == hub) _ chosen).trans ?_
    refine congrArg (board.clientsIn hub numbers ++ [·]) ?_
    rw [newClient, newClient, ← named]
    rfl
  have listed := placedBefore.listClient own board.clients.length
  rw [number] at listed
  refine Prod.ext number.symm (Switchboard.ext rfl rfl rfl ?issued ?registries rfl rfl added.symm)
  case registries => exact congrArg (·.registries) listed.symm
  case issued => exact (issuedIn_concatClient board chosen).symm

theorem issuedIn_addClient {key : RegistryKey} (own : board.registryHub? key = some hub)
    (backendId : String) (context : Context) :
    (board.addClient key backendId context).2.issuedIn hub = board.issuedIn hub + 1 := by
  obtain ⟨registry, found, isOwn⟩ := Option.map_eq_some_iff.1 own
  rw [addClient_of_found found]
  exact issuedIn_concatClient board (beq_iff_eq.2 isOwn)

/-! ## Routing -/

/-- Whoever is listed and may be picked there may be picked here, and the other way round. -/
theorem Placed.candidates (placed : Placed board hub numbers) (zoned : Zoned board)
    {key : RegistryKey} {registry : Registry} (found : board.registryOf? key = some registry)
    (named : registry.hub = hub) (event : String) :
    (board.within hub numbers).candidates (registry.renumbered numbers) event =
      (board.candidates registry event).map numbers.backend := by
  show (registry.backends.map numbers.backend).filter _ = _
  rw [List.filter_map]
  refine congrArg (List.map numbers.backend) (List.filter_congr fun listed among => ?_)
  have own := zoned.listedBackends found listed among
  rw [named] at own
  obtain ⟨backend, here, -, there⟩ := placed.backend? own
  rw [Function.comp_apply, isCandidate, isCandidate, here, there]
  rfl

theorem Placed.setSelection (placed : Placed board hub numbers) {key : RegistryKey}
    (own : board.registryHub? key = some hub) (selection : Selection) :
    (board.updateRegistry key fun registry =>
        { registry with selection := selection }).within hub numbers =
      (board.within hub numbers).updateRegistry (numbers.registry key) fun registry =>
        { registry with selection := selection } :=
  placed.updateRegistry own _ (fun _ => rfl) fun _ _ => rfl

theorem selectBackend_of_found {key : RegistryKey} {registry : Registry}
    (found : board.registryOf? key = some registry) (event : String) :
    board.selectBackend key event =
      ((registry.selection.choose (board.candidates registry event)).1,
        board.updateRegistry key fun entry =>
          { entry with
            selection := (registry.selection.choose (board.candidates registry event)).2 }) := by
  rw [Switchboard.selectBackend, found]

theorem Placed.selectBackend (placed : Placed board hub numbers) (zoned : Zoned board)
    {key : RegistryKey} (own : board.registryHub? key = some hub) (event : String) :
    (board.within hub numbers).selectBackend (numbers.registry key) event =
      ((board.selectBackend key event).1.map numbers.backend,
        (board.selectBackend key event).2.within hub numbers) := by
  obtain ⟨registry, found, named, there⟩ := placed.registryOf? own
  have candidates := placed.candidates zoned found named event
  have chosen : (registry.renumbered numbers).selection.choose
      ((board.within hub numbers).candidates (registry.renumbered numbers) event) =
        ((registry.selection.choose (board.candidates registry event)).1.map numbers.backend,
          (registry.selection.choose (board.candidates registry event)).2) := by
    rw [candidates]
    exact registry.selection.choose_map (board.candidates registry event) numbers.backend
  rw [selectBackend_of_found found, selectBackend_of_found there, chosen, placed.setSelection own]

/-- Who is picked for the hub belongs to it. -/
theorem Zoned.selectBackend (zoned : Zoned board) {key : RegistryKey}
    (own : board.registryHub? key = some hub) {event : String} {chosen : BackendKey}
    {later : Switchboard} (selected : board.selectBackend key event = (some chosen, later)) :
    board.backendHub? chosen = some hub := by
  obtain ⟨registry, found, named⟩ := Option.map_eq_some_iff.1 own
  rw [selectBackend_of_found found] at selected
  have picked := (Prod.mk.inj selected).1
  have among : chosen ∈ board.candidates registry event := by
    unfold Selection.choose at picked
    simp only at picked
    obtain ⟨index, -, here⟩ := Option.bind_eq_some_iff.1 picked
    exact List.mem_of_getElem? here
  rw [← named]
  exact zoned.listedBackends found chosen ((List.mem_filter.1 among).1)

theorem route_of_picked {key : RegistryKey} {event : String} {chosen : BackendKey}
    {later : Switchboard} (mapped : board.hub? hub = some key)
    (selected : board.selectBackend key event = (some chosen, later)) {backend : Backend}
    (found : later.backend? chosen = some backend) (context : Context) :
    board.route hub context event =
      (.ok (chosen, (later.addClient key backend.id context).1),
        (later.addClient key backend.id context).2) := by
  simp only [Switchboard.route, mapped, selected, found, Option.map_some, Option.getD_some]

theorem Placed.route {context : Context} {event : String}
    (placed : Placed (board.route hub context event).2 hub numbers) (zoned : Zoned board)
    (named : Named board (board.route hub context event).2 hub numbers) :
    (board.within hub numbers).route hub context event =
      ((board.route hub context event).1.map fun route =>
          (numbers.backend route.1, numbers.client route.2),
        (board.route hub context event).2.within hub numbers) := by
  have placedBefore := placed.of_lasting (lasting_route board hub context event)
  cases mapped : board.hub? hub with
  | none =>
    have there : (board.within hub numbers).hub? hub = none := by
      rw [hub?_within, mapped, Option.map_none]
    simp only [Switchboard.route, mapped, there]
    rfl
  | some key =>
    have own := zoned.mapped mapped
    have there : (board.within hub numbers).hub? hub = some (numbers.registry key) := by
      rw [hub?_within, mapped, Option.map_some]
    have selects := placedBefore.selectBackend zoned own event
    have picks : Traffic none board (board.selectBackend key event).2 :=
      traffic_selectBackend board key event
    have ownLater := (lasting_selectBackend board key event).registryHub? own
    cases selected : board.selectBackend key event with
    | mk chosen later =>
      rw [selected] at selects picks ownLater
      cases chosen with
      | none =>
        rw [Option.map_none] at selects
        simp only [Switchboard.route, mapped, there, selected, selects]
        rfl
      | some chosen =>
        rw [Option.map_some] at selects
        have ownBackend := (lasting_of_traffic picks).backendHub? (zoned.selectBackend own selected)
        obtain ⟨backend, found, -, foundThere⟩ :=
          (placedBefore.of_books picks.books).backend? ownBackend
        rw [route_of_picked mapped selected found] at placed named ⊢
        rw [route_of_picked there selects foundThere]
        have issuedIn := issuedIn_of_books hub picks.books
        have name := named.later picks.books.issued issuedIn
          (issuedIn_addClient ownLater backend.id context)
        have added : (later.within hub numbers).addClient (numbers.registry key)
            (backend.renumbered numbers).id context = _ := placed.addClient ownLater name
        rw [added]
        rfl

/-! ## Leaving -/

theorem map_filter_ne (rename : Nat ↪ Nat) (keys : List Nat) (key : Nat) :
    (keys.filter (· ≠ key)).map rename = (keys.map rename).filter (· ≠ rename key) := by
  rw [List.filter_map]
  refine congrArg (List.map rename) (List.filter_congr fun other _ => ?_)
  simp only [Function.comp_apply, ne_eq, rename.injective.eq_iff]

theorem Placed.removeBackend (placed : Placed board hub numbers) {key : RegistryKey}
    (own : board.registryHub? key = some hub) (backend : BackendKey) :
    (board.removeBackend key backend).within hub numbers =
      (board.within hub numbers).removeBackend (numbers.registry key)
        (numbers.backend backend) := by
  refine placed.updateRegistry own _ (fun _ => rfl) fun registry _ => ?_
  simp only [Registry.renumbered, map_filter_ne]

theorem Placed.removeClient (placed : Placed board hub numbers) {key : RegistryKey}
    (own : board.registryHub? key = some hub) (client : ClientKey) :
    (board.removeClient key client).within hub numbers =
      (board.within hub numbers).removeClient (numbers.registry key) (numbers.client client) := by
  refine placed.updateRegistry own _ (fun _ => rfl) fun registry _ => ?_
  simp only [Registry.renumbered, map_filter_ne]

theorem Placed.prune (placed : Placed board hub numbers) {key : RegistryKey}
    (own : board.registryHub? key = some hub) :
    (board.prune key).within hub numbers =
      (board.within hub numbers).prune (numbers.registry key) := by
  obtain ⟨registry, found, named, there⟩ := placed.registryOf? own
  have empty : (registry.renumbered numbers).isEmpty = registry.isEmpty := by
    simp only [Registry.isEmpty, Registry.renumbered, List.isEmpty_map]
  have mapped : (board.within hub numbers).hub? (registry.renumbered numbers).hub =
      some (numbers.registry key) ↔ board.hub? registry.hub = some key := by
    rw [show (registry.renumbered numbers).hub = hub from named, hub?_within, named]
    exact (Option.map_injective numbers.registry.injective).eq_iff (b := some key)
  unfold Switchboard.prune
  rw [found, there]
  simp only [mapped, empty]
  split
  · next emptied =>
    have before : board.hubsIn hub numbers = .single hub (numbers.registry key) := by
      rw [hubsIn, ← named, emptied.1]
    have after : hubsIn { board with hubs := board.hubs.erase registry.hub } hub numbers =
        .empty := by
      have gone : (board.hubs.erase registry.hub).get? hub = none := by
        rw [named]
        exact board.hubs.get?_erase_self hub
      simp only [hubsIn, hub?, gone]
    refine Switchboard.ext rfl rfl rfl rfl rfl ?_ rfl rfl
    show hubsIn { board with hubs := board.hubs.erase registry.hub } hub numbers =
      (board.hubsIn hub numbers).erase registry.hub
    rw [after, before, named, Dictionary.erase_single]
  · rfl

theorem Placed.closeBackend (placed : Placed board hub numbers) (zoned : Zoned board)
    {key : BackendKey} (own : board.backendHub? key = some hub) :
    (board.within hub numbers).closeBackend (numbers.backend key) =
      (board.closeBackend key).within hub numbers := by
  obtain ⟨backend, found, named, there⟩ := placed.backend? own
  have home : board.registryHub? backend.registry = some hub := named ▸ zoned.backendHome found
  have closed : (backend.renumbered numbers).queue.closed = backend.queue.closed := rfl
  simp only [Switchboard.closeBackend, found, there, closed]
  split
  · rfl
  · -- the queue is closed, the backend is taken off the list, and the registry off the map
    let sealed := board.setQueue key backend.queue.close
    let removed := sealed.removeBackend backend.registry key
    have placedSealed : Placed sealed hub numbers := placed.after_updateBackend key fun _ => rfl
    have placedRemoved : Placed removed hub numbers :=
      placedSealed.after_updateRegistry backend.registry fun _ => rfl
    have homeRemoved : removed.registryHub? backend.registry = some hub :=
      (registryHub?_removeBackend sealed backend.registry key).trans home
    have sealedThere := placed.setQueue own backend.queue.close
    have removedThere := placedSealed.removeBackend home key
    have prunedThere := placedRemoved.prune homeRemoved
    rw [prunedThere, removedThere, sealedThere]
    rfl

theorem Placed.dropBackend {key : BackendKey}
    (placed : Placed (board.dropBackend key) hub numbers) (zoned : Zoned board)
    (own : board.backendHub? key = some hub) :
    (board.within hub numbers).dropBackend (numbers.backend key) =
      (board.dropBackend key).within hub numbers := by
  have hubs : (board.dropBackend key).backends.map (·.hub) =
      (board.closeBackend key).backends.map (·.hub) :=
    map_modify_of_same _ key _ _ fun _ _ => rfl
  have placedClosed : Placed (board.closeBackend key) hub numbers :=
    placed.congr rfl hubs.symm rfl
  have closed := (placed.of_lasting (lasting_dropBackend board key)).closeBackend zoned own
  have ownClosed := (lasting_closeBackend board key).backendHub? own
  have discarded : (board.dropBackend key).within hub numbers = _ :=
    placedClosed.updateBackend ownClosed
      (fun backend => { backend with queue := backend.queue.discard }) (fun _ => rfl) fun _ _ => rfl
  rw [discarded, ← closed]
  rfl

theorem Placed.dropClient (placed : Placed board hub numbers) (zoned : Zoned board)
    {key : ClientKey} (own : board.clientHub? key = some hub) :
    (board.within hub numbers).dropClient (numbers.client key) =
      (board.dropClient key).within hub numbers := by
  obtain ⟨client, found, named, there⟩ := placed.client? own
  have home : board.registryHub? client.registry = some hub := named ▸ zoned.clientHome found
  simp only [Switchboard.dropClient, found, there]
  let silenced := board.updateClient key fun client => { client with outbound := none }
  let removed := silenced.removeClient client.registry key
  have placedSilenced : Placed silenced hub numbers := placed.after_updateClient key fun _ => rfl
  have placedRemoved : Placed removed hub numbers :=
    placedSilenced.after_updateRegistry client.registry fun _ => rfl
  have homeRemoved : removed.registryHub? client.registry = some hub :=
    (registryHub?_removeClient silenced client.registry key).trans home
  have silencedThere : silenced.within hub numbers = _ :=
    placed.updateClient own (fun client => { client with outbound := none }) (fun _ => rfl)
      fun _ _ => rfl
  have removedThere := placedSilenced.removeClient home key
  have prunedThere := placedRemoved.prune homeRemoved
  rw [prunedThere, removedThere, silencedThere]
  rfl

end Switchboard

end HubRelay
