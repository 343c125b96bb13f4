import HubRelay.Proofs.Isolation.Zones
import HubRelay.Proofs.Places

/-!
Contract: what is done to one hub changes nothing of the others.

Owns: changes that are confined to a hub, and that every request and every action of a relay is
confined to the hub that it is about.

Does not own: what happens in that hub.

The parts of the other hubs are compared as lists, so they keep their order as well.
-/

namespace HubRelay

namespace Switchboard

/-- Nothing is changed but in one hub. -/
structure Confined (hub : String) (before after : Switchboard) : Prop where
  settings : after.settings = before.settings
  now : after.now = before.now
  stopped : after.stopped = before.stopped
  registries : ∀ other ≠ hub,
    after.registries.filter (·.hub == other) = before.registries.filter (·.hub == other)
  hubs : ∀ other ≠ hub, after.hub? other = before.hub? other
  backends : ∀ other ≠ hub,
    after.backends.filter (·.hub == other) = before.backends.filter (·.hub == other)
  clients : ∀ other ≠ hub,
    after.clients.filter (·.hub == other) = before.clients.filter (·.hub == other)

variable {board first second third : Switchboard} {hub : String}

namespace Confined

theorem refl (board : Switchboard) : Confined hub board board :=
  ⟨rfl, rfl, rfl, fun _ _ => rfl, fun _ _ => rfl, fun _ _ => rfl, fun _ _ => rfl⟩

theorem trans (one : Confined hub first second) (two : Confined hub second third) :
    Confined hub first third where
  settings := two.settings.trans one.settings
  now := two.now.trans one.now
  stopped := two.stopped.trans one.stopped
  registries := fun other apart => (two.registries other apart).trans (one.registries other apart)
  hubs := fun other apart => (two.hubs other apart).trans (one.hubs other apart)
  backends := fun other apart => (two.backends other apart).trans (one.backends other apart)
  clients := fun other apart => (two.clients other apart).trans (one.clients other apart)

end Confined

/-! ## Changing one thing -/

/-- Changing an entry of a hub does not show in the part of another. -/
theorem filter_modify_of_hub {α : Type} {entries : List α} {index : Nat} {change : α → α}
    {hubOf : α → String} {other : String} (own : entries[index]?.map hubOf = some hub)
    (apart : other ≠ hub) (keeps : ∀ entry, hubOf (change entry) = hubOf entry) :
    (entries.modify index change).filter (hubOf · == other) =
      entries.filter (hubOf · == other) := by
  refine filter_modify_other fun entry found => ?_
  rw [found, Option.map_some] at own
  rw [keeps, Option.some.inj own, beq_eq_false_iff_ne]
  exact ⟨apart.symm, apart.symm⟩

/-- Adding an entry of a hub does not show in the part of another. -/
theorem filter_concat_of_hub {α : Type} (hubOf : α → String) {entries : List α} {last : α}
    {other : String} (own : hubOf last = hub) (apart : other ≠ hub) :
    (entries ++ [last]).filter (hubOf · == other) = entries.filter (hubOf · == other) := by
  rw [List.filter_append, List.filter_cons_of_neg (by simpa [own] using apart.symm)]
  exact List.append_nil _

theorem confined_updateBackend {key : BackendKey} (own : board.backendHub? key = some hub)
    (change : Backend → Backend) (keeps : ∀ backend, (change backend).hub = backend.hub) :
    Confined hub board (board.updateBackend key change) :=
  { Confined.refl board with
    backends := fun _ apart => filter_modify_of_hub own apart keeps }

theorem confined_updateClient {key : ClientKey} (own : board.clientHub? key = some hub)
    (change : Client → Client) (keeps : ∀ client, (change client).hub = client.hub) :
    Confined hub board (board.updateClient key change) :=
  { Confined.refl board with
    clients := fun _ apart => filter_modify_of_hub own apart keeps }

theorem confined_updateRegistry {key : RegistryKey} (own : board.registryHub? key = some hub)
    (change : Registry → Registry) (keeps : ∀ registry, (change registry).hub = registry.hub) :
    Confined hub board (board.updateRegistry key change) :=
  { Confined.refl board with
    registries := fun _ apart => filter_modify_of_hub own apart keeps }

theorem confined_setQueue {key : BackendKey} (own : board.backendHub? key = some hub)
    (queue : EventQueue) : Confined hub board (board.setQueue key queue) :=
  confined_updateBackend own _ fun _ => rfl

theorem confined_setHandshake {key : ClientKey} (own : board.clientHub? key = some hub)
    (handshake : Handshake) : Confined hub board (board.setHandshake key handshake) :=
  confined_updateClient own _ fun _ => rfl

theorem confined_removeBackend {key : RegistryKey} (own : board.registryHub? key = some hub)
    (backend : BackendKey) : Confined hub board (board.removeBackend key backend) :=
  confined_updateRegistry own _ fun _ => rfl

theorem confined_removeClient {key : RegistryKey} (own : board.registryHub? key = some hub)
    (client : ClientKey) : Confined hub board (board.removeClient key client) :=
  confined_updateRegistry own _ fun _ => rfl

/-! ## Queues -/

theorem lasting_enqueue (board : Switchboard) (key : BackendKey) (event : Event) :
    Lasting board (board.enqueue key event).2 :=
  lasting_of_traffic (traffic_enqueue board key event : Traffic none _ _)

theorem confined_enqueue {key : BackendKey} (own : board.backendHub? key = some hub)
    (event : Event) : Confined hub board (board.enqueue key event).2 := by
  unfold enqueue
  split
  · exact .refl board
  · split
    · exact confined_setQueue own _
    · exact .refl board

theorem confined_receive {key : BackendKey} (own : board.backendHub? key = some hub) :
    Confined hub board (board.receive key).2 := by
  unfold receive
  split
  · exact .refl board
  · exact confined_setQueue own _

theorem confined_flush {key : BackendKey} (own : board.backendHub? key = some hub)
    (outcomes : List EventQueue.WriteOutcome) :
    Confined hub board (board.flush key outcomes).2.2 := by
  unfold flush
  split
  · exact .refl board
  · exact confined_setQueue own _

theorem confined_drain {key : BackendKey} (own : board.backendHub? key = some hub)
    (outcomes : List EventQueue.WriteOutcome) :
    Confined hub board (board.drain key outcomes).2.2 := by
  unfold drain
  split
  · exact .refl board
  · exact confined_setQueue own _

theorem confined_notifyAll (payload : Payload) (keys : List BackendKey)
    (own : ∀ key ∈ keys, board.backendHub? key = some hub) :
    Confined hub board (board.notifyAll hub payload keys).2 := by
  induction keys generalizing board with
  | nil => exact .refl board
  | cons key keys inductionHypothesis =>
    have step := confined_enqueue (own key List.mem_cons_self)
      (.service hub (((board.backend? key).map (·.id)).getD "") payload)
    have rest : ∀ listed ∈ keys, (board.enqueue key (.service hub
        (((board.backend? key).map (·.id)).getD "") payload)).2.backendHub? listed = some hub :=
      fun listed among => (lasting_enqueue board key _).backendHub?
        (own listed (List.mem_cons_of_mem key among))
    unfold notifyAll
    simp only
    split <;> next asked =>
      rw [asked] at step rest
      exact step.trans (inductionHypothesis rest)

/-- The registry to which a hub is mapped belongs to it, with all that it lists. -/
theorem Zoned.registry (zoned : Zoned board) {registry : Registry}
    (found : (board.hub? hub).bind board.registryOf? = some registry) : registry.hub = hub := by
  obtain ⟨key, mapped, here⟩ := Option.bind_eq_some_iff.1 found
  have known := zoned.mapped mapped
  rw [registryHub?_of_found here] at known
  exact Option.some.inj known

theorem Zoned.backendsOf (zoned : Zoned board) {registry : Registry}
    (found : (board.hub? hub).bind board.registryOf? = some registry) :
    ∀ listed ∈ registry.backends, board.backendHub? listed = some hub := by
  intro listed among
  obtain ⟨key, -, here⟩ := Option.bind_eq_some_iff.1 found
  rw [zoned.listedBackends here listed among, zoned.registry found]

theorem Zoned.clientsOf (zoned : Zoned board) {registry : Registry}
    (found : (board.hub? hub).bind board.registryOf? = some registry) :
    ∀ listed ∈ registry.clients, board.clientHub? listed = some hub := by
  intro listed among
  obtain ⟨key, -, here⟩ := Option.bind_eq_some_iff.1 found
  rw [zoned.listedClients here listed among, zoned.registry found]

theorem confined_notify (zoned : Zoned board) (hub : String) (payload : Payload) :
    Confined hub board (board.notify hub payload).2 := by
  unfold notify
  split
  · exact .refl board
  · next registry found => exact confined_notifyAll payload _ (zoned.backendsOf found)

/-! ## Coming and leaving -/

theorem confined_openHub (board : Switchboard) (hub : String) :
    Confined hub board (board.openHub hub).2 := by
  unfold openHub
  split
  · exact .refl board
  · exact { Confined.refl board with
      registries := fun _ apart => filter_concat_of_hub Registry.hub rfl apart
      hubs := fun _ apart => board.hubs.get?_insert_of_ne _ apart }

theorem confined_tryAddBackend {key : RegistryKey} (own : board.registryHub? key = some hub)
    (identity : String) (events : List String) :
    Confined hub board (board.tryAddBackend key identity events).2 := by
  rcases board.tryAddBackend_cases key identity events with
    ⟨registry, found, -, added⟩ | ⟨-, brokeOff⟩
  · rw [added]
    rw [registryHub?_of_found found] at own
    have changed := confined_updateRegistry (registryHub?_of_found found ▸ own)
      (fun registry =>
        { registry with backends := registry.backends ++ [board.backends.length] }) fun _ => rfl
    exact { Confined.refl board with
      registries := changed.registries
      backends := fun _ apart => filter_concat_of_hub Backend.hub (Option.some.inj own) apart }
  · rw [brokeOff]
    exact .refl board

theorem confined_addClient {key : RegistryKey} (own : board.registryHub? key = some hub)
    (backendId : String) (context : Context) :
    Confined hub board (board.addClient key backendId context).2 := by
  unfold addClient
  split
  · exact .refl board
  · next registry found =>
    have changed := confined_updateRegistry own (fun registry =>
      { registry with clients := registry.clients ++ [board.clients.length] }) fun _ => rfl
    rw [registryHub?_of_found found] at own
    exact { Confined.refl board with
      registries := changed.registries
      clients := fun _ apart => filter_concat_of_hub Client.hub (Option.some.inj own) apart }

theorem confined_prune {key : RegistryKey} (own : board.registryHub? key = some hub) :
    Confined hub board (board.prune key) := by
  unfold prune
  split
  · exact .refl board
  · next registry found =>
    rw [registryHub?_of_found found] at own
    split
    · exact { Confined.refl board with
        hubs := fun _ apart => board.hubs.get?_erase_of_ne (Option.some.inj own ▸ apart) }
    · exact .refl board

/-- A hub that was opened is mapped to a registry of its own. -/
theorem Zoned.openHub (zoned : Zoned board) (hub : String) :
    (board.openHub hub).2.registryHub? (board.openHub hub).1 = some hub := by
  unfold Switchboard.openHub
  split
  · next key mapped => exact zoned.mapped mapped
  · rw [registryHub?, registryOf?, List.getElem?_concat_length, Option.map_some]
    rfl

theorem confined_tryRegister (zoned : Zoned board) (hub identity : String)
    (events : List String) : Confined hub board (board.tryRegister hub identity events).2 :=
  (confined_openHub board hub).trans (confined_tryAddBackend (zoned.openHub hub) identity events)

theorem registryHub?_updateRegistry {key other : RegistryKey} {change : Registry → Registry}
    (keeps : ∀ registry, (change registry).hub = registry.hub) :
    (board.updateRegistry other change).registryHub? key = board.registryHub? key := by
  rw [registryHub?, registryOf?, updateRegistry, List.getElem?_modify, registryHub?, registryOf?]
  cases board.registries[key]? with
  | none => rfl
  | some registry =>
    by_cases same : other = key <;> simp [same, keeps]

theorem registryHub?_removeBackend (board : Switchboard) (key : RegistryKey)
    (backend : BackendKey) : (board.removeBackend key backend).registryHub? key =
      board.registryHub? key :=
  registryHub?_updateRegistry fun _ => rfl

theorem registryHub?_removeClient (board : Switchboard) (key : RegistryKey)
    (client : ClientKey) : (board.removeClient key client).registryHub? key =
      board.registryHub? key :=
  registryHub?_updateRegistry fun _ => rfl

theorem confined_closeBackend (zoned : Zoned board) {key : BackendKey}
    (own : board.backendHub? key = some hub) : Confined hub board (board.closeBackend key) := by
  unfold closeBackend
  split
  · exact .refl board
  · next backend found =>
    split
    · exact .refl board
    · have home := zoned.backendHome found
      rw [← backendHub?_of_found found, own] at home
      have closed := confined_setQueue own backend.queue.close
      have homeThen : (board.setQueue key backend.queue.close).registryHub? backend.registry =
          some hub := home
      have removed := confined_removeBackend homeThen key
      exact closed.trans (removed.trans
        (confined_prune ((registryHub?_removeBackend _ _ key).trans homeThen)))

theorem confined_dropBackend (zoned : Zoned board) {key : BackendKey}
    (own : board.backendHub? key = some hub) : Confined hub board (board.dropBackend key) :=
  (confined_closeBackend zoned own).trans
    (confined_updateBackend ((lasting_closeBackend board key).backendHub? own) _ fun _ => rfl)

theorem lasting_selectBackend (board : Switchboard) (key : RegistryKey) (event : String) :
    Lasting board (board.selectBackend key event).2 :=
  lasting_of_traffic (traffic_selectBackend board key event : Traffic none _ _)

theorem confined_selectBackend {key : RegistryKey} (own : board.registryHub? key = some hub)
    (event : String) : Confined hub board (board.selectBackend key event).2 := by
  unfold selectBackend
  split
  · exact .refl board
  · exact confined_updateRegistry own _ fun _ => rfl

theorem confined_route (zoned : Zoned board) (hub : String) (context : Context)
    (event : String) : Confined hub board (board.route hub context event).2 := by
  unfold route
  split
  · exact .refl board
  · next key mapped =>
    have own := zoned.mapped mapped
    have picks := confined_selectBackend own event
    have ownLater := (lasting_selectBackend board key event).registryHub? own
    split
    · next later selected =>
      rw [selected] at picks
      exact picks
    · next backend later selected =>
      rw [selected] at picks ownLater
      exact picks.trans (confined_addClient ownLater _ context)

theorem confined_dropClient (zoned : Zoned board) {key : ClientKey}
    (own : board.clientHub? key = some hub) : Confined hub board (board.dropClient key) := by
  unfold dropClient
  split
  · exact .refl board
  · next client found =>
    have home := zoned.clientHome found
    rw [← clientHub?_of_found found, own] at home
    have silenced := confined_updateClient own (fun client =>
      { client with outbound := none }) fun _ => rfl
    have homeThen : (board.updateClient key fun client =>
        { client with outbound := none }).registryHub? client.registry = some hub := home
    have removed := confined_removeClient homeThen key
    exact silenced.trans (removed.trans
      (confined_prune ((registryHub?_removeClient _ _ key).trans homeThen)))

/-! ## Deciding and sending -/

theorem confined_decide {key : ClientKey} (own : board.clientHub? key = some hub)
    (decision : Decision) : Confined hub board (board.decide key decision).2 := by
  unfold decide
  split
  · exact .refl board
  · exact confined_setHandshake own _

/-- A client that is found by its id in a hub belongs to it. -/
theorem Zoned.findClient (zoned : Zoned board) {key : RegistryKey} {client : ClientKey}
    {id : String} (mapped : board.hub? hub = some key)
    (found : board.findClient key id = some client) : board.clientHub? client = some hub := by
  unfold Switchboard.findClient at found
  split at found
  · contradiction
  · next registry here =>
    refine zoned.clientsOf ?_ client (List.mem_of_find?_eq_some found)
    rw [mapped, Option.bind_some, here]

theorem confined_tryAcknowledge (zoned : Zoned board) (hub : String) (approval : Approval) :
    Confined hub board (board.tryAcknowledge hub approval).2 := by
  unfold tryAcknowledge
  split
  · exact .refl board
  · next key mapped =>
    split
    · exact .refl board
    · next client found => exact confined_decide (zoned.findClient mapped found) _

theorem confined_lookAfter {key : ClientKey} (own : board.clientHub? key = some hub) :
    Confined hub board (board.lookAfter key) := by
  unfold lookAfter
  split
  · exact .refl board
  · split
    · exact .refl board
    · exact confined_setHandshake own _

theorem lasting_send (board : Switchboard) (key : ClientKey) (payload : Payload) :
    Lasting board (board.send key payload).2 :=
  lasting_of_traffic (traffic_send board key payload : Traffic none _ _)

theorem confined_send {key : ClientKey} (own : board.clientHub? key = some hub)
    (payload : Payload) : Confined hub board (board.send key payload).2 := by
  unfold send
  split
  · exact .refl board
  · exact confined_updateClient own _ fun _ => rfl

theorem confined_sendAll (payload : Payload) (keys : List ClientKey)
    (own : ∀ key ∈ keys, board.clientHub? key = some hub) :
    Confined hub board (board.sendAll payload keys).2 := by
  induction keys generalizing board with
  | nil => exact .refl board
  | cons key keys inductionHypothesis =>
    refine (confined_send (own key List.mem_cons_self) payload).trans ?_
    refine inductionHypothesis fun listed among => ?_
    exact (lasting_send board key payload).clientHub? (own listed (List.mem_cons_of_mem key among))

theorem confined_broadcast (zoned : Zoned board) (hub : String) (payload : Payload) :
    Confined hub board (board.broadcast hub payload).2 := by
  unfold broadcast
  split
  · exact .refl board
  · next registry found => exact confined_sendAll payload _ (zoned.clientsOf found)

theorem confined_sendToConnection (zoned : Zoned board) (hub connectionId : String)
    (payload : Payload) :
    Confined hub board (board.sendToConnection hub connectionId payload).2 := by
  unfold sendToConnection
  split
  · exact .refl board
  · next client found =>
    obtain ⟨key, mapped, here⟩ := Option.bind_eq_some_iff.1 found
    exact confined_send (zoned.findClient mapped here) payload

/-! ## All requests -/

/-- The hub that a request is about, if it is about one: the hub that it names, or that of the
backend or client that it is made to. -/
def Request.hub? (board : Switchboard) : Request → Option String
  | .register hub _ _ | .notify hub _ | .route hub _ _ | .acknowledge hub _ | .broadcast hub _
  | .sendToConnection hub _ _ => some hub
  | .close backend | .drop backend | .enqueue backend _ | .receive backend | .flush backend _
  | .drain backend _ => board.backendHub? backend
  | .decide client _ | .send client _ | .watch client | .unwatch client | .lookAfter client =>
    board.clientHub? client
  | .shutdown | .pass _ => none

/-- Every request is confined to the hub that it is about. -/
theorem confined_perform (zoned : Zoned board) {request : Request}
    (about : request.hub? board = some hub) : Confined hub board (board.perform request) := by
  cases request with
  | register named identity events =>
    exact Option.some.inj about ▸ confined_tryRegister zoned named identity events
  | notify named payload => exact Option.some.inj about ▸ confined_notify zoned named payload
  | route named context event =>
    exact Option.some.inj about ▸ confined_route zoned named context event
  | acknowledge named approval =>
    exact Option.some.inj about ▸ confined_tryAcknowledge zoned named approval
  | broadcast named payload =>
    exact Option.some.inj about ▸ confined_broadcast zoned named payload
  | sendToConnection named connectionId payload =>
    exact Option.some.inj about ▸ confined_sendToConnection zoned named connectionId payload
  | close backend => exact confined_closeBackend zoned about
  | drop backend => exact confined_dropBackend zoned about
  | enqueue backend event => exact confined_enqueue about event
  | receive backend => exact confined_receive about
  | flush backend outcomes => exact confined_flush about outcomes
  | drain backend outcomes => exact confined_drain about outcomes
  | decide client decision => exact confined_decide about decision
  | send client payload => exact confined_send about payload
  | watch client => exact confined_updateClient about _ fun _ => rfl
  | unwatch client => exact confined_updateClient about _ fun _ => rfl
  | lookAfter client => exact confined_lookAfter about
  | shutdown => contradiction
  | pass milliseconds => contradiction

end Switchboard

end HubRelay
