import HubRelay.Proofs.Exchange.Queues
import HubRelay.Proofs.Isolation.Actions
import HubRelay.Proofs.Switchboard.Undoing

/-!
Contract: opening a relay does everything or nothing.

Owns: how opening a relay goes; that whoever looks finds all as it was if it fails, but for whose
turn it is in the hub; and that exactly one client is added and exactly one backend asked if it
succeeds.

Does not own: what becomes of a relay that was opened.

The client is added before its backend is asked.  So a refused question takes back what routing has
done, and what it cannot take back is the turn that routing took.
-/

namespace HubRelay

namespace Switchboard

/-- All is as it was, but that the selection of a hub has picked once more. -/
structure Untraced (before after : Switchboard) (hub : String) : Prop extends
    Alike before after where
  rotated : ∃ key registry, before.registryOf? key = some registry ∧ registry.hub = hub ∧
    after.registries = before.registries.modify key fun entry =>
      { entry with selection := registry.selection.turned }

/-- The selection of a hub may pick a backend for an event. -/
structure Picks (board : Switchboard) (hub event : String) (key : RegistryKey)
    (registry : Registry) (chosen : BackendKey) (backend : Backend) : Prop where
  mapped : board.hub? hub = some key
  registered : board.registryOf? key = some registry
  named : registry.hub = hub
  listed : chosen ∈ registry.backends
  found : board.backend? chosen = some backend
  opened : backend.queue.closed = false
  wants : backend.wants event = true
  home : backend.registry = key

variable {board : Switchboard} {held : ClientKey → Bool} {hub event : String} {key : RegistryKey}
  {registry : Registry} {chosen : BackendKey} {backend : Backend}

theorem Sound.bounded (sound : Sound board held none)
    (registered : board.registryOf? key = some registry) :
    ∀ client ∈ registry.clients, client < board.clients.length := by
  intro client among
  rw [sound.clients registered] at among
  obtain ⟨entry, found, -⟩ := mem_indices.1 among
  exact (List.getElem?_eq_some_iff.1 found).1

/-- A switchboard after a client was routed to a backend that the selection of a registry picked. -/
def routed (board : Switchboard) (key : RegistryKey) (registry : Registry) (backend : Backend)
    (context : Context) : Switchboard :=
  ((board.turn key registry.selection.turned).addClient key backend.id context).2

/-- The client that was routed. -/
def newcomer (board : Switchboard) (key : RegistryKey) (registry : Registry) (backend : Backend)
    (context : Context) : Client :=
  board.newClient key registry backend.id context

/-- A client is routed to a backend that the selection picks. -/
theorem Sound.route_picks (sound : Sound board held none)
    (somebody : board.candidatesIn hub event ≠ []) (context : Context) :
    ∃ key registry chosen backend, board.Picks hub event key registry chosen backend ∧
      board.route hub context event =
        (.ok (chosen, board.clients.length), board.routed key registry backend context) := by
  obtain ⟨key, registry, mapped, registered⟩ := registry_of_candidates somebody
  obtain ⟨chosen, listed, backend, found, opened, wants, routed⟩ :=
    route_eq mapped registered somebody context
  obtain ⟨same, there, named, -⟩ := sound.mapped mapped
  obtain rfl : registry = same := Option.some.inj (registered.symm.trans there)
  have home : backend.registry = key := by
    rw [sound.backends registered] at listed
    obtain ⟨entry, here, isListed⟩ := mem_indices.1 listed
    obtain rfl : backend = entry := Option.some.inj (found.symm.trans here)
    rw [Backend.isListed, Bool.and_eq_true, beq_iff_eq] at isListed
    exact isListed.2
  exact ⟨key, registry, chosen, backend,
    ⟨mapped, registered, named, listed, found, opened, wants, home⟩, routed⟩

/-- A turn and a client that nobody lists are all that is there to be seen, and they are not
seen. -/
theorem Sound.untraced (sound : Sound board held none)
    (registered : board.registryOf? key = some registry) (named : registry.hub = hub)
    (ghost : Client) :
    Untraced board ((board.turn key registry.selection.turned).haunt ghost) hub where
  toAlike := ((unnoticed_turn registered).trans (unnoticed_haunt _ ghost)).alike sound
  rotated := ⟨key, registry, registered, named, rfl⟩

/-- Whoever was routed was routed to a backend that the selection picked. -/
theorem Sound.picks_of_route (sound : Sound board held none) {context : Context}
    {client : ClientKey} {later : Switchboard}
    (routing : board.route hub context event = (.ok (chosen, client), later)) :
    client = board.clients.length ∧ ∃ key registry backend,
      board.Picks hub event key registry chosen backend ∧
        later = board.routed key registry backend context := by
  by_cases nobody : board.candidatesIn hub event = []
  · rw [route_of_nil nobody context] at routing
    cases routing
  · obtain ⟨key, registry, picked, backend, picks, routed⟩ := sound.route_picks nobody context
    rw [routed] at routing
    cases routing
    exact ⟨rfl, key, registry, backend, picks, rfl⟩

/-- A backend that takes nothing in any more refuses every question. -/
theorem enqueue_of_closed {question : Event}
    (closed : ∀ backend, board.backend? chosen = some backend → backend.queue.closed = true) :
    (board.enqueue chosen question).1 = .error .closed := by
  cases found : board.backend? chosen with
  | none => rw [enqueue, found]
  | some backend =>
    exact (enqueue_eq_error_iff board found question .closed).2
      (Or.inl ⟨closed backend found, rfl⟩)

namespace Picks

variable (picks : board.Picks hub event key registry chosen backend)

include picks

theorem registered_turn : (board.turn key registry.selection.turned).registryOf? key =
    some { registry with selection := registry.selection.turned } :=
  getElem?_modify_of_some _ picks.registered

/-- A client that was routed and is let go leaves a turn behind, and that somebody had its key. -/
theorem dropClient (sound : Sound board held none) (context : Context) :
    (board.routed key registry backend context).dropClient board.clients.length =
      (board.turn key registry.selection.turned).haunt
        (board.newcomer key registry backend context) := by
  have bounded := sound.bounded picks.registered
  have left := dropClient_addClient picks.registered_turn bounded backend.id context
  refine left.trans (congrArg (haunt · _) (prune_of_nonempty picks.registered_turn ?_))
  rw [Registry.isEmpty, Bool.and_eq_false_iff, List.isEmpty_eq_false_iff]
  exact Or.inl (List.ne_nil_of_mem picks.listed)

/-- If the backend is closed in between, a turn is left behind by the registry that it was taken
off. -/
theorem dropClient_closeBackend (sound : Sound board held none) (context : Context) :
    ((board.routed key registry backend context).closeBackend chosen).dropClient
        board.clients.length =
      ((board.closeBackend chosen).turn key registry.selection.turned).haunt
        (board.newcomer key registry backend context) := by
  obtain rfl := picks.home
  have bounded := sound.bounded picks.registered
  have found : (board.turn backend.registry registry.selection.turned).backend? chosen =
    some backend := picks.found
  have left := Switchboard.dropClient_closeBackend found picks.opened picks.registered_turn bounded
    backend.id context
  rw [closeBackend_turn picks.found picks.opened picks.registered] at left
  exact left

theorem registered_closeBackend : (board.closeBackend chosen).registryOf? key =
    some { registry with backends := registry.backends.filter (· ≠ chosen) } := by
  obtain rfl := picks.home
  rw [closeBackend_of_open picks.found picks.opened, registryOf?_prune]
  exact registryOf?_depart picks.registered chosen

theorem untraced (sound : Sound board held none) (context : Context) :
    Untraced board ((board.routed key registry backend context).dropClient board.clients.length)
      hub := by
  rw [picks.dropClient sound]
  exact sound.untraced picks.registered picks.named _

theorem untraced_closeBackend (sound : Sound board held none) (context : Context) :
    Untraced (board.closeBackend chosen)
      (((board.routed key registry backend context).closeBackend chosen).dropClient
        board.clients.length) hub := by
  rw [picks.dropClient_closeBackend sound]
  exact (sound.closeBackend chosen).untraced picks.registered_closeBackend picks.named _

/-- The same if the backend also forgets what waits for it. -/
theorem untraced_dropBackend (sound : Sound board held none) (context : Context) :
    Untraced (board.dropBackend chosen)
      (((board.routed key registry backend context).dropBackend chosen).dropClient
        board.clients.length) hub := by
  rw [Switchboard.dropBackend, Switchboard.dropBackend, dropClient_updateBackend,
    picks.dropClient_closeBackend sound]
  exact (sound.dropBackend chosen).untraced picks.registered_closeBackend picks.named _

theorem routed_eq (context : Context) : board.routed key registry backend context =
    { board.turn key registry.selection.turned with
      issued := board.issued + 1
      clients := board.clients ++ [board.newcomer key registry backend context]
      registries := board.registries.modify key fun entry => { entry with
        selection := registry.selection.turned
        clients := entry.clients ++ [board.clients.length] } } := by
  rw [routed, addClient_of_found picks.registered_turn]
  refine Switchboard.ext rfl rfl rfl rfl ?_ rfl rfl rfl
  exact List.modify_modify_eq _ _ key board.registries

end Picks

end Switchboard

/-! ## How opening a relay goes -/

namespace Exchange

open Switchboard

variable {exchange : Exchange} {held : ClientKey → Bool} {hub : String} {context : Context}

/-- How opening a relay goes: nobody can be picked, or whoever is picked has no room for the
question, or is asked. -/
inductive Opening (exchange : Exchange) (hub : String) (context : Context) :
    Except RelayError RelayKey × Exchange → Prop where
  | unrouted (nobody : exchange.board.candidatesIn hub connectEvent = []) :
      Opening exchange hub context (.error (.route (.noRoute hub connectEvent)), exchange)
  | full {key : RegistryKey} {registry : Registry} {chosen : BackendKey} {backend : Backend}
      (picks : exchange.board.Picks hub connectEvent key registry chosen backend)
      (full : backend.queue.waiting.length = backend.queue.capacity) :
      Opening exchange hub context (.error (.route (.queueFull backend.queue.capacity)),
        ⟨(exchange.board.routed key registry backend context).dropClient
          exchange.board.clients.length, exchange.relays⟩)
  | asked {key : RegistryKey} {registry : Registry} {chosen : BackendKey} {backend : Backend}
      {later : Switchboard}
      (picks : exchange.board.Picks hub connectEvent key registry chosen backend)
      (taken : (exchange.board.routed key registry backend context).enqueue chosen
        (.connect hub exchange.board.nextId context) = (.ok (), later)) :
      Opening exchange hub context (.ok exchange.relays.length,
        ⟨later, exchange.relays ++ [⟨⟨exchange.board.clients.length, chosen⟩, .pending⟩]⟩)

theorem opening_openRelay (sound : Sound exchange.board held none) (hub : String)
    (context : Context) : Opening exchange hub context (exchange.openRelay hub context) := by
  by_cases nobody : exchange.board.candidatesIn hub connectEvent = []
  · rw [openRelay_of_refused (route_of_nil nobody context)]
    exact .unrouted nobody
  · obtain ⟨key, registry, chosen, backend, picks, routed⟩ := sound.route_picks nobody context
    have clients : (exchange.board.routed key registry backend context).client?
        exchange.board.clients.length =
          some (exchange.board.newcomer key registry backend context) := by
      rw [picks.routed_eq]
      exact List.getElem?_concat_length
    have found : (exchange.board.routed key registry backend context).backend? chosen =
        some backend := by
      rw [picks.routed_eq]
      exact picks.found
    have id : (exchange.board.newcomer key registry backend context).id =
      exchange.board.nextId := rfl
    rw [openRelay_of_routed routed clients, id]
    cases asked : (exchange.board.routed key registry backend context).enqueue chosen
        (.connect hub exchange.board.nextId context) with
    | mk answer later =>
      cases answer with
      | ok => exact .asked picks asked
      | error error =>
        have refused := congrArg Prod.fst asked
        have same : later = exchange.board.routed key registry backend context := by
          have left := enqueue_error refused
          rwa [asked] at left
        rw [enqueue_eq_error_iff _ found] at refused
        rcases refused with ⟨closed, -⟩ | ⟨-, full, rfl⟩
        · rw [picks.opened] at closed
          contradiction
        · rw [same]
          exact .full picks full

/-- A relay that was opened: what is new, and that all else is as it was. -/
structure Opened (before after : Exchange) (hub : String) (context : Context) (key : RelayKey)
    (chosen : BackendKey) (client : Client) : Prop where
  relays : key = before.relays.length ∧
    after.relays = before.relays ++ [⟨⟨before.board.clients.length, chosen⟩, .pending⟩]
  /-- One client is added, of the hub and with the context, which nobody has decided about. -/
  clients : after.board.clients = before.board.clients ++ [client]
  inHub : client.hub = hub
  withContext : client.context = context
  pending : client.handshake.state = .pending
  /-- Who is asked is open, belongs to the hub, and wants to be asked. -/
  picked : ∃ backend, before.board.backend? chosen = some backend ∧ backend.hub = hub ∧
    backend.queue.closed = false ∧ backend.wants connectEvent = true
  /-- The question waits behind all else that waits there, and nobody else is asked. -/
  asked : after.board.waiting chosen =
    before.board.waiting chosen ++ [.connect hub client.id context]
  others : ∀ other ≠ chosen, after.board.backend? other = before.board.backend? other
  queueOnly : after.board.backends.map Backend.unladen = before.board.backends.map Backend.unladen
  hubNames : after.board.hubNames = before.board.hubNames
  counted : ∃ stats, before.board.hubStats hub = some stats ∧
    after.board.hubStats hub = some { stats with clients := stats.clients + 1 }
  countedOthers : ∀ other ≠ hub, after.board.hubStats other = before.board.hubStats other
  /-- The id of the client names it, nobody had this id, and all other ids name whom they named. -/
  named : after.board.named? hub client.id = some before.board.clients.length
  unheard : ∀ earlier ∈ before.board.clients, earlier.id ≠ client.id
  namedOthers : ∀ other id, (other, id) ≠ (hub, client.id) →
    after.board.named? other id = before.board.named? other id

end Exchange

namespace Switchboard

/-- An event that is taken in changes the queue that takes it. -/
theorem enqueue_taken {board later : Switchboard} {key : BackendKey} {event : Event}
    (taken : board.enqueue key event = (.ok (), later)) :
    ∃ queue, later = board.setQueue key queue := by
  unfold enqueue at taken
  split at taken
  · cases taken
  · split at taken
    · next queue _ => exact ⟨queue, (congrArg Prod.snd taken).symm⟩
    · cases taken

namespace Picks

variable {board later : Switchboard} {held : ClientKey → Bool} {hub event : String}
  {key : RegistryKey} {registry : Registry} {chosen : BackendKey} {backend : Backend}
  {context : Context} {question : Event}
  (picks : board.Picks hub event key registry chosen backend)
  (taken : (board.routed key registry backend context).enqueue chosen question = (.ok (), later))

include taken

theorem traffic_asked : Traffic none (board.routed key registry backend context) later := by
  have asked : Traffic none (board.routed key registry backend context)
      ((board.routed key registry backend context).enqueue chosen question).2 :=
    traffic_enqueue _ chosen question
  rwa [taken] at asked

include picks

/-- Asking changes the queue of who is asked, and nothing else that routing has left behind. -/
theorem rest_asked : later.hubs = board.hubs ∧
    later.clients = board.clients ++ [board.newcomer key registry backend context] ∧
    later.registries = board.registries.modify key fun entry => { entry with
      selection := registry.selection.turned
      clients := entry.clients ++ [board.clients.length] } := by
  obtain ⟨queue, rfl⟩ := enqueue_taken taken
  rw [picks.routed_eq]
  exact ⟨rfl, rfl, rfl⟩

theorem sound_asked (sound : Sound board held none) :
    Sound later (fun client => held client || client == board.clients.length) none := by
  have turned : Traffic none board (board.turn key registry.selection.turned) := by
    refine traffic_updateRegistry board key _ fun same found => ?_
    obtain rfl : registry = same := Option.some.inj (picks.registered.symm.trans found)
    exact registry.selection.policy_turned
  exact ((sound.of_sameBooks turned.books).addClient picks.mapped backend.id context).of_sameBooks
    (traffic_asked taken).books

theorem client?_asked {client : ClientKey} (listed : client < board.clients.length) :
    later.client? client = board.client? client := by
  rw [client?, (picks.rest_asked taken).2.1, List.getElem?_append_left listed, client?]

theorem newcomer_asked : later.client? board.clients.length =
    some (board.newcomer key registry backend context) := by
  rw [client?, (picks.rest_asked taken).2.1]
  exact List.getElem?_concat_length

theorem counted_asked (sound : Sound board held none) :
    later.hubStats hub = some { board.registryStats registry with
      clients := (board.registryStats registry).clients + 1 } := by
  obtain ⟨hubs, clients, registries⟩ := picks.rest_asked taken
  have mapped : later.hub? hub = some key := by
    rw [hub?, hubs]
    exact picks.mapped
  have found : later.registryOf? key = some { registry with
      selection := registry.selection.turned
      clients := registry.clients ++ [board.clients.length] } := by
    rw [registryOf?, registries]
    exact getElem?_modify_of_some _ picks.registered
  have undecided : later.isApproved board.clients.length = false := by
    rw [isApproved, picks.newcomer_asked taken]
    rfl
  have approved : registry.clients.filter later.isApproved =
      registry.clients.filter board.isApproved :=
    approved_congr fun client among =>
      picks.client?_asked taken (sound.bounded picks.registered client among)
  have none : [board.clients.length].filter later.isApproved = [] := by simp [undecided]
  rw [hubStats, mapped, Option.bind_some, found, Option.map_some]
  simp only [registryStats, List.length_append, List.length_singleton, List.filter_append,
    approved, none, List.length_nil, Nat.add_zero]

theorem countedOthers_asked (sound : Sound board held none) {other : String}
    (different : other ≠ hub) : later.hubStats other = board.hubStats other := by
  obtain ⟨hubs, clients, registries⟩ := picks.rest_asked taken
  rw [hubStats, hubStats, hub?, hubs, ← hub?]
  cases mapped : board.hub? other with
  | none => rfl
  | some entry =>
    obtain ⟨same, found, named, -⟩ := sound.mapped mapped
    have elsewhere : key ≠ entry := by
      rintro rfl
      rw [picks.registered] at found
      exact different (named.symm.trans ((congrArg _ (Option.some.inj found)).symm.trans
        picks.named))
    have kept : later.registryOf? entry = board.registryOf? entry := by
      rw [registryOf?, registries]
      exact List.getElem?_modify_ne _ _ elsewhere
    have approved : same.clients.filter later.isApproved = same.clients.filter board.isApproved :=
      approved_congr fun client among =>
        picks.client?_asked taken (sound.bounded found client among)
    rw [Option.bind_some, Option.bind_some, kept, found, Option.map_some, Option.map_some,
      registryStats, registryStats, approved]

theorem named_asked (sound : Sound board held none) :
    later.named? hub (board.newcomer key registry backend context).id =
      some board.clients.length := by
  refine (picks.sound_asked taken sound).named?_eq_some_iff.2 ⟨by simp, _,
    picks.newcomer_asked taken, ?_, rfl⟩
  exact picks.named

theorem unheard_asked (sound : Sound board held none) {earlier : Client}
    (among : earlier ∈ board.clients) :
    earlier.id ≠ (board.newcomer key registry backend context).id := by
  intro same
  obtain ⟨index, found⟩ := List.mem_iff_getElem?.1 among
  have listed : index < board.clients.length := (List.getElem?_eq_some_iff.1 found).1
  have there : later.client? index = some earlier :=
    (picks.client?_asked taken listed).trans found
  have equal := (picks.sound_asked taken sound).client_of_id (picks.newcomer_asked taken) there same
  exact Nat.ne_of_lt listed equal

theorem namedOthers_asked (sound : Sound board held none) {other id : String}
    (different : (other, id) ≠ (hub, (board.newcomer key registry backend context).id)) :
    later.named? other id = board.named? other id := by
  apply Option.ext
  intro client
  rw [(picks.sound_asked taken sound).named?_eq_some_iff, sound.named?_eq_some_iff]
  constructor
  · rintro ⟨holds, entry, found, inHub, called⟩
    rw [Bool.or_eq_true, beq_iff_eq] at holds
    rcases holds with held | rfl
    · -- whoever is held was there before
      have listed : client < board.clients.length := by
        by_contra beyond
        have last : client = board.clients.length := by
          have within := (List.getElem?_eq_some_iff.1 found).1
          rw [(picks.rest_asked taken).2.1, List.length_append, List.length_singleton] at within
          exact Nat.le_antisymm (Nat.le_of_lt_succ within) (Nat.le_of_not_lt beyond)
        rw [last, picks.newcomer_asked taken] at found
        obtain rfl := Option.some.inj found
        exact different (Prod.ext (inHub.symm.trans picks.named) called.symm)
      exact ⟨held, entry, (picks.client?_asked taken listed).symm.trans found, inHub, called⟩
    · rw [picks.newcomer_asked taken] at found
      obtain rfl := Option.some.inj found
      exact absurd (Prod.ext (inHub.symm.trans picks.named) called.symm) different
  · rintro ⟨held, entry, found, inHub, called⟩
    have listed := (List.getElem?_eq_some_iff.1 found).1
    exact ⟨by simp [held], entry, (picks.client?_asked taken listed).trans found, inHub, called⟩

end Picks

end Switchboard

/-! ## All or nothing -/

namespace Exchange

open Switchboard

variable {exchange : Exchange} {held : ClientKey → Bool} {hub : String} {context : Context}

/-- Whoever is asked is asked by a relay that was opened, for a client that was added. -/
theorem opened_of_asked (sound : Sound exchange.board held none) {key : RegistryKey}
    {registry : Registry} {chosen : BackendKey} {backend : Backend} {later : Switchboard}
    (picks : exchange.board.Picks hub connectEvent key registry chosen backend)
    (taken : (exchange.board.routed key registry backend context).enqueue chosen
      (.connect hub exchange.board.nextId context) = (.ok (), later)) :
    exchange.Opened
      ⟨later, exchange.relays ++ [⟨⟨exchange.board.clients.length, chosen⟩, .pending⟩]⟩ hub context
      exchange.relays.length chosen (exchange.board.newcomer key registry backend context) := by
  have accepted := congrArg Prod.fst taken
  have backends : (exchange.board.routed key registry backend context).backends =
      exchange.board.backends := by rw [picks.routed_eq]; rfl
  have before (other : BackendKey) : (exchange.board.routed key registry backend context).backend?
      other = exchange.board.backend? other := by rw [backend?, backends, backend?]
  constructor
  case relays => exact ⟨rfl, rfl⟩
  case clients => exact (picks.rest_asked taken).2.1
  case inHub => exact picks.named
  case withContext => rfl
  case pending => rfl
  case picked =>
    have mapped := sound.backendMapped picks.found picks.opened
    obtain ⟨same, found, named, -⟩ := sound.mapped mapped
    rw [picks.home, picks.registered] at found
    refine ⟨backend, picks.found, ?_, picks.opened, picks.wants⟩
    rw [← named, ← Option.some.inj found, picks.named]
  case asked =>
    have waits := (enqueue_ok accepted).1
    rw [taken] at waits
    rw [waiting, waiting, before] at waits
    exact waits
  case others =>
    intro other different
    obtain ⟨queue, rfl⟩ := enqueue_taken taken
    exact (backend?_updateBackend_ne _ _ (Ne.symm different)).trans (before other)
  case queueOnly =>
    rw [(Picks.traffic_asked taken).books.backends, backends]
  case hubNames => exact congrArg Dictionary.names (picks.rest_asked taken).1
  case counted =>
    refine ⟨exchange.board.registryStats registry, ?_, picks.counted_asked taken sound⟩
    rw [hubStats, picks.mapped, Option.bind_some, picks.registered, Option.map_some]
  case countedOthers => exact fun other => picks.countedOthers_asked taken sound
  case named => exact picks.named_asked taken sound
  case unheard => exact fun earlier => picks.unheard_asked taken sound
  case namedOthers => exact fun other id => picks.namedOthers_asked taken sound

end Exchange

namespace Course

open Switchboard

/-- What opening a relay does after a course. -/
structure OpensCleanly (course : Course) (hub : String) (context : Context) : Prop where
  /-- If it fails, either nobody can be picked and nothing at all has happened, or whoever was
  picked has no room, and all is as it was but for the turn that was taken. -/
  failed : ∀ error later, course.exchange.openRelay hub context = (.error error, later) →
    (error = .route (.noRoute hub connectEvent) ∧ later = course.exchange) ∨
      ((∃ capacity, error = .route (.queueFull capacity)) ∧
        later.relays = course.exchange.relays ∧
        Untraced course.exchange.board later.board hub)
  /-- Then nobody holds anything else than before. -/
  sameHoldings : ∀ error later, course.exchange.openRelay hub context = (.error error, later) →
    (course.take (.openRelay hub context)).holdings = course.holdings ∧
      (course.take (.openRelay hub context)).registrations = course.registrations
  /-- If the one who was picked is closed before the question is put, the question is refused, and
  once the client is let go there was nothing but the closing, and the turn. -/
  closed : ∀ chosen client routed question,
    course.exchange.board.route hub context connectEvent = (.ok (chosen, client), routed) →
      ((routed.closeBackend chosen).enqueue chosen question).1 = .error .closed ∧
        Untraced (course.exchange.board.closeBackend chosen)
          ((routed.closeBackend chosen).dropClient client) hub
  dropped : ∀ chosen client routed question,
    course.exchange.board.route hub context connectEvent = (.ok (chosen, client), routed) →
      ((routed.dropBackend chosen).enqueue chosen question).1 = .error .closed ∧
        Untraced (course.exchange.board.dropBackend chosen)
          ((routed.dropBackend chosen).dropClient client) hub
  /-- If it succeeds, one client is added and one backend asked. -/
  succeeded : ∀ key later, course.exchange.openRelay hub context = (.ok key, later) →
    (∃ chosen client, course.exchange.Opened later hub context key chosen client) ∧
      (course.take (.openRelay hub context)).holdings.clients =
        course.holdings.clients ++ [course.exchange.board.clients.length]

variable {course : Course} {hub : String} {context : Context}

/-- Who holds what after a relay was opened, or was not, is told by the relays. -/
theorem holdings_openRelay {answer : Except RelayError RelayKey} {later : Exchange}
    (opened : course.exchange.openRelay hub context = (answer, later)) :
    (course.take (.openRelay hub context)).holdings =
      ⟨course.holdings.routed, later.relays⟩ := by
  rw [holdings_take, Exchange.perform, opened]
  rfl

theorem Orderly.opensCleanly (orderly : course.Orderly) (hub : String) (context : Context) :
    course.OpensCleanly hub context := by
  have sound := orderly.sound
  have opening := Exchange.opening_openRelay sound hub context
  constructor
  case failed =>
    intro error later opened
    rw [opened] at opening
    cases opening with
    | unrouted => exact Or.inl ⟨rfl, rfl⟩
    | full picks => exact Or.inr ⟨⟨_, rfl⟩, rfl, picks.untraced sound context⟩
  case sameHoldings =>
    intro error later opened
    refine ⟨?_, registrations_take course _⟩
    rw [holdings_openRelay opened]
    rw [opened] at opening
    cases opening with
    | unrouted | full => rfl
  case closed =>
    intro chosen client routed question routing
    obtain ⟨rfl, key, registry, backend, picks, rfl⟩ := sound.picks_of_route routing
    refine ⟨enqueue_of_closed fun _ found => closed_closeBackend _ found, ?_⟩
    exact picks.untraced_closeBackend sound context
  case dropped =>
    intro chosen client routed question routing
    obtain ⟨rfl, key, registry, backend, picks, rfl⟩ := sound.picks_of_route routing
    refine ⟨enqueue_of_closed fun _ found => closed_dropBackend _ found, ?_⟩
    exact picks.untraced_dropBackend sound context
  case succeeded =>
    intro key later opened
    rw [holdings_openRelay opened]
    rw [opened] at opening
    cases opening with
    | asked picks taken =>
      refine ⟨⟨_, _, Exchange.opened_of_asked sound picks taken⟩, ?_⟩
      rw [Holdings.clients, List.filterMap_append, ← List.append_assoc]
      rfl

/-- Along every course a relay that cannot be opened leaves no trace but a turn that was taken, and
one that is opened adds one client and asks one backend. -/
theorem openings_clean (settings : Settings) (actions : List Action) (hub : String)
    (context : Context) : (of settings actions).OpensCleanly hub context :=
  (orderly_of settings actions).opensCleanly hub context

end Course

end HubRelay
