import HubRelay.Proofs.Exchange.Course

/-!
Contract: what was added to a switchboard stays as it was added.

Owns: that backends keep everything but their queues, that registries keep everything but whom they
list and whose turn it is, and that every registry was opened with the settings of the switchboard.

Does not own: who is listed where.
-/

namespace HubRelay

theorem EventQueue.ofCapacity_capacity (capacity : Nat) :
    EventQueue.ofCapacity (EventQueue.ofCapacity capacity).capacity = .ofCapacity capacity := by
  simp [EventQueue.ofCapacity, EventQueue.asked]

/-- A backend as it was registered: nothing waits for it, and it is open. -/
def Backend.asRegistered (backend : Backend) : Backend :=
  { backend with queue := .ofCapacity backend.queue.capacity }

/-- A registry as it was opened: it lists nobody, and no turn was taken. -/
def Registry.asOpened (registry : Registry) : Registry :=
  .start registry.hub registry.selection.policy registry.queueCapacity registry.handshakeTimeout

/-- Whether a registry was opened with some settings. -/
def Registry.OpenedWith (settings : Settings) (registry : Registry) : Prop :=
  registry.asOpened = .start registry.hub settings.selection settings.queueCapacity
    settings.handshakeTimeout

theorem Registry.OpenedWith.policy_eq {settings : Settings} {registry : Registry}
    (opened : registry.OpenedWith settings) : registry.selection.policy = settings.selection := by
  have policy (policy : SelectionPolicy) : (Selection.start policy).policy = policy := by
    cases policy <;> rfl
  have same := congrArg (·.selection.policy) opened
  exact (policy _).symm.trans (same.trans (policy _))

theorem Registry.OpenedWith.capacity_eq {settings : Settings} {registry : Registry}
    (opened : registry.OpenedWith settings) : registry.queueCapacity = settings.queueCapacity :=
  congrArg (·.queueCapacity) opened

theorem Registry.OpenedWith.timeout_eq {settings : Settings} {registry : Registry}
    (opened : registry.OpenedWith settings) :
    registry.handshakeTimeout = settings.handshakeTimeout :=
  congrArg (·.handshakeTimeout) opened

/-- Whether a backend belongs to a registry in a row, which admitted it and gave it its queue. -/
def Backend.HasHome (rows : List Registry) (backend : Backend) : Prop :=
  ∃ registry, rows[backend.registry]? = some registry ∧ registry.hub = backend.hub ∧
    registry.Admits ∧ backend.queue = .ofCapacity registry.queueCapacity

/-- Whether a client belongs to a registry in a row. -/
def Client.HasHome (rows : List Registry) (client : Client) : Prop :=
  ∃ registry, rows[client.registry]? = some registry ∧ registry.hub = client.hub

namespace Switchboard

/-- Registries, backends and clients stay as they were added, new registries are opened with the
settings, new backends and clients belong to a registry of their hub, and each of these was given an
id. -/
structure Lasting (before after : Switchboard) : Prop where
  settings : after.settings = before.settings
  registries : Extends (Registry.OpenedWith before.settings)
    (before.registries.map Registry.asOpened) (after.registries.map Registry.asOpened)
  backends : Extends (Backend.HasHome (after.registries.map Registry.asOpened))
    (before.backends.map Backend.asRegistered) (after.backends.map Backend.asRegistered)
  clients : Extends (Client.HasHome (after.registries.map Registry.asOpened))
    (before.clients.map Client.asAdded) (after.clients.map Client.asAdded)
  issued : after.issued + before.backends.length + before.clients.length =
    before.issued + after.backends.length + after.clients.length

variable {touched : Option ClientKey} {first second third : Switchboard} (board : Switchboard)

theorem Lasting.refl : Lasting board board :=
  ⟨rfl, .of_eq rfl, .of_eq rfl, .of_eq rfl, rfl⟩

theorem Lasting.trans (one : Lasting first second) (two : Lasting second third) :
    Lasting first third where
  settings := two.settings.trans one.settings
  registries := one.registries.trans (one.settings ▸ two.registries) fun _ => id
  backends := one.backends.trans two.backends fun _ ⟨registry, home, law⟩ =>
    ⟨registry, two.registries.getElem? home, law⟩
  clients := one.clients.trans two.clients fun _ ⟨registry, home, law⟩ =>
    ⟨registry, two.registries.getElem? home, law⟩
  issued := by
    have early := one.issued
    have late := two.issued
    omega

/-- A backend that was registered is there for good. -/
theorem Lasting.backend? (lasting : Lasting first second) {key : BackendKey} {backend : Backend}
    (found : first.backend? key = some backend) :
    ∃ later, second.backend? key = some later ∧ later.asRegistered = backend.asRegistered := by
  have here : (first.backends.map Backend.asRegistered)[key]? = some backend.asRegistered := by
    rw [List.getElem?_map, show first.backends[key]? = some backend from found, Option.map_some]
  have row := lasting.backends.getElem? here
  rw [List.getElem?_map] at row
  exact Option.map_eq_some_iff.1 row

/-- Every backend belongs to a registry of its hub, as every client does, and each of them was given
an id. -/
structure Homed (board : Switchboard) : Prop where
  backends : ∀ row ∈ board.backends.map Backend.asRegistered,
    row.HasHome (board.registries.map Registry.asOpened)
  clients : ∀ row ∈ board.clients.map Client.asAdded,
    row.HasHome (board.registries.map Registry.asOpened)
  issued : board.issued = board.backends.length + board.clients.length

theorem homed_start (settings : Settings) : Homed (.start settings) :=
  ⟨List.forall_mem_nil _, List.forall_mem_nil _, rfl⟩

/-- Nobody loses a home. -/
theorem Homed.of_lasting (homed : Homed first) (lasting : Lasting first second) : Homed second where
  backends := by
    intro row among
    refine (lasting.backends.mem among).elim (fun before => ?_) id
    obtain ⟨registry, home, law⟩ := homed.backends row before
    exact ⟨registry, lasting.registries.getElem? home, law⟩
  clients := by
    intro row among
    refine (lasting.clients.mem among).elim (fun before => ?_) id
    obtain ⟨registry, home, law⟩ := homed.clients row before
    exact ⟨registry, lasting.registries.getElem? home, law⟩
  issued := by
    have before := homed.issued
    have grown := lasting.issued
    omega

/-! ## What lasts in each operation -/

theorem lasting_of_same (settings : second.settings = first.settings)
    (registries : second.registries.map Registry.asOpened =
      first.registries.map Registry.asOpened)
    (backends : second.backends.map Backend.asRegistered =
      first.backends.map Backend.asRegistered)
    (clients : second.clients.map Client.asAdded = first.clients.map Client.asAdded)
    (issued : second.issued = first.issued) : Lasting first second where
  settings := settings
  registries := .of_eq registries
  backends := .of_eq backends
  clients := .of_eq clients
  issued := by
    have backendCount := congrArg List.length backends
    have clientCount := congrArg List.length clients
    simp only [List.length_map] at backendCount clientCount
    omega

theorem lasting_of_books (books : SameBooks first second)
    (settings : second.settings = first.settings) : Lasting first second := by
  refine lasting_of_same settings ?_ ?_ books.clients books.issued
  · have rows := congrArg (List.map Registry.asOpened) books.registries
    rw [List.map_map, List.map_map] at rows
    have forgets : Registry.asOpened ∘ Registry.rewound = Registry.asOpened := by
      funext registry
      cases registry with
      | mk hub selection => cases selection <;> rfl
    rwa [forgets] at rows
  · have rows := congrArg (List.map Backend.asRegistered) books.backends
    rw [List.map_map, List.map_map] at rows
    exact rows

theorem lasting_of_traffic (traffic : Traffic touched first second) : Lasting first second :=
  lasting_of_books traffic.books traffic.settings

theorem lasting_prune (key : RegistryKey) : Lasting board (board.prune key) := by
  unfold prune
  split
  · exact .refl board
  · split
    · exact lasting_of_same rfl rfl rfl rfl rfl
    · exact .refl board

theorem lasting_openHub (hub : String) : Lasting board (board.openHub hub).2 := by
  unfold openHub
  split
  · exact .refl board
  · refine ⟨rfl, ⟨[.start hub board.settings.selection board.settings.queueCapacity
      board.settings.handshakeTimeout], ?_, ?_⟩, .of_eq rfl, .of_eq rfl, rfl⟩
    · rw [List.map_append]
      cases board.settings.selection <;> rfl
    · intro registry among
      rw [List.mem_singleton.1 among, Registry.OpenedWith]
      cases board.settings.selection <;> rfl

theorem lasting_tryAddBackend (key : RegistryKey) (identity : String) (events : List String) :
    Lasting board (board.tryAddBackend key identity events).2 := by
  rcases board.tryAddBackend_cases key identity events with
    ⟨registry, found, admits, added⟩ | ⟨-, brokeOff⟩
  · have rows := map_modify_of_same board.registries key (fun registry =>
      { registry with backends := registry.backends ++ [board.backends.length] })
      Registry.asOpened fun _ _ => rfl
    rw [added]
    refine ⟨rfl, .of_eq rows, ⟨_, List.map_append, ?_⟩, .of_eq rfl, ?_⟩
    · intro backend among
      obtain rfl := List.mem_singleton.1 among
      refine ⟨registry.asOpened, ?_, rfl, admits,
        EventQueue.ofCapacity_capacity registry.queueCapacity⟩
      refine (congrArg (·[key]?) rows).trans ?_
      rw [List.getElem?_map, show board.registries[key]? = some registry from found]
      rfl
    · simp only [placeBackend, List.length_append, List.length_singleton]
      omega
  · rw [brokeOff]
    exact .refl board

theorem lasting_addClient (key : RegistryKey) (backendId : String) (context : Context) :
    Lasting board (board.addClient key backendId context).2 := by
  unfold addClient
  cases found : board.registryOf? key with
  | none => exact .refl board
  | some registry =>
    have rows := map_modify_of_same board.registries key (fun registry =>
      { registry with clients := registry.clients ++ [board.clients.length] })
      Registry.asOpened fun _ _ => rfl
    refine ⟨rfl, .of_eq rows, .of_eq rfl, ⟨_, List.map_append, ?_⟩, ?_⟩
    · intro client among
      obtain rfl := List.mem_singleton.1 among
      refine ⟨registry.asOpened, ?_, rfl⟩
      refine (congrArg (·[key]?) rows).trans ?_
      rw [List.getElem?_map, show board.registries[key]? = some registry from found]
      rfl
    · simp only [List.length_append, List.length_singleton]
      omega

theorem lasting_tryRegister (hub identity : String) (events : List String) :
    Lasting board (board.tryRegister hub identity events).2 :=
  (lasting_openHub board hub).trans (lasting_tryAddBackend _ _ identity events)

theorem lasting_closeBackend (key : BackendKey) : Lasting board (board.closeBackend key) := by
  unfold closeBackend
  cases found : board.backend? key with
  | none => exact .refl board
  | some backend =>
    simp only
    split
    · exact .refl board
    · refine Lasting.trans ?_ (lasting_prune _ backend.registry)
      refine lasting_of_same rfl ?_ ?_ rfl rfl
      · exact map_modify_of_same board.registries backend.registry _ _ fun _ _ => rfl
      · refine map_modify_of_same board.backends key _ _ fun entry here => ?_
        obtain rfl : backend = entry := Option.some.inj (found.symm.trans here)
        rfl

theorem lasting_dropBackend (key : BackendKey) : Lasting board (board.dropBackend key) :=
  (lasting_closeBackend board key).trans
    (lasting_of_same rfl rfl (map_modify_of_same _ key _ _ fun _ _ => rfl) rfl rfl)

theorem lasting_dropClient (key : ClientKey) : Lasting board (board.dropClient key) := by
  unfold dropClient
  cases board.client? key with
  | none => exact .refl board
  | some client =>
    refine Lasting.trans ?_ (lasting_prune _ client.registry)
    exact lasting_of_same rfl
      (map_modify_of_same board.registries client.registry _ _ fun _ _ => rfl) rfl
      (map_modify_of_same board.clients key _ _ fun _ _ => rfl) rfl

theorem lasting_route (hub : String) (context : Context) (event : String) :
    Lasting board (board.route hub context event).2 := by
  rcases board.route_cases hub context event with
    ⟨error, later, answered, traffic⟩ | ⟨key, backend, picked, -, selected, answered⟩
  · rw [answered]
    exact lasting_of_traffic traffic
  · rw [answered]
    have picks : Traffic none board (board.selectBackend key event).2 :=
      traffic_selectBackend board key event
    rw [selected] at picks
    exact (lasting_of_traffic picks).trans (lasting_addClient picked key _ context)

theorem lasting_perform (request : Request) : Lasting board (board.perform request) := by
  cases stays : request.changesBooks with
  | false =>
    exact lasting_of_books (sameBooks_perform board stays) (onward_perform board request).settings
  | true =>
    cases request with
    | register hub identity events => exact lasting_tryRegister board hub identity events
    | close backend => exact lasting_closeBackend board backend
    | drop backend => exact lasting_dropBackend board backend
    | route hub context event => exact lasting_route board hub context event
    | _ => contradiction

end Switchboard

namespace Exchange

open Switchboard

theorem lasting_perform (exchange : Exchange) (action : Action) :
    Lasting exchange.board (exchange.perform action).board := by
  cases action with
  | request request => exact Switchboard.lasting_perform exchange.board request
  | release client =>
    show Lasting _ (exchange.release client).board
    unfold Exchange.release
    split
    · exact .refl _
    · exact lasting_dropClient _ client
  | openRelay hub context =>
    have routes := lasting_route exchange.board hub context connectEvent
    rcases exchange.openRelay_cases hub context with
      ⟨error, later, refused, opened⟩ | ⟨backend, client, routed, routing, answer⟩
    · rw [refused] at routes
      rw [opened]
      exact routes
    · rw [routing] at routes
      rcases answer with ⟨error, -, opened⟩ | ⟨-, opened⟩
      · rw [opened]
        exact routes.trans (lasting_dropClient routed client)
      · rw [opened]
        have asks : Traffic none routed (routed.enqueue backend
            (.connect hub (routedId routed client) context)).2 := traffic_enqueue routed backend _
        exact routes.trans (lasting_of_traffic asks)
  | relay key action =>
    cases found : exchange.relay? key with
    | none =>
      rw [perform, performRelay_of_missing found]
      exact .refl _
    | some relay =>
      rw [perform, performRelay_eq found]
      show Lasting _ (relay.act exchange.board action).1
      rcases relay.act_cases exchange.board action with
        ⟨traffic, -⟩ | ⟨later, traffic, dropped, -, -⟩
      · exact lasting_of_traffic traffic
      · rw [dropped]
        exact (lasting_of_traffic traffic).trans (lasting_dropClient later _)

end Exchange

namespace Course

open Switchboard

variable (settings : Settings) (actions : List Action)

/-- The settings are those of the start. -/
theorem settings_of : (of settings actions).exchange.board.settings = settings := by
  refine induction (motive := fun course => course.exchange.board.settings = settings) settings rfl
    (fun earlier action same => ?_) actions
  exact ((of settings earlier).exchange.lasting_perform action).settings.trans same

theorem openedWith_rows :
    ∀ row ∈ (of settings actions).exchange.board.registries.map Registry.asOpened,
      row.OpenedWith settings := by
  refine induction (motive := fun course =>
    ∀ row ∈ course.exchange.board.registries.map Registry.asOpened, row.OpenedWith settings)
    settings (fun _ none => nomatch none) (fun earlier action known row among => ?_) actions
  refine (((of settings earlier).exchange.lasting_perform action).registries.mem among).elim
    (known row) fun opened => ?_
  rwa [settings_of] at opened

/-- Every registry was opened with the settings. -/
theorem openedWith_of {key : RegistryKey} {registry : Registry}
    (found : (of settings actions).exchange.board.registryOf? key = some registry) :
    registry.OpenedWith settings := by
  have row := openedWith_rows settings actions _ (List.mem_map_of_mem (List.mem_of_getElem? found))
  have twice : registry.asOpened.asOpened = registry.asOpened := by
    cases registry with
    | mk hub selection => cases selection <;> rfl
  exact twice.symm.trans row

theorem homed_of : Homed (of settings actions).exchange.board :=
  induction (motive := fun course => Homed course.exchange.board) settings (homed_start settings)
    (fun earlier action homed =>
      homed.of_lasting ((of settings earlier).exchange.lasting_perform action)) actions

/-- Every queue holds as many events as the settings say, and at least one. -/
theorem capacity_of {key : BackendKey} {backend : Backend}
    (found : (of settings actions).exchange.board.backend? key = some backend) :
    backend.queue.capacity = max settings.queueCapacity 1 := by
  obtain ⟨registry, home, -, -, queue⟩ := (homed_of settings actions).backends _
    (List.mem_map_of_mem (List.mem_of_getElem? found))
  have opened := openedWith_rows settings actions registry (List.mem_of_getElem? home)
  have same : max backend.queue.capacity 1 = max registry.queueCapacity 1 :=
    congrArg (·.capacity) queue
  have positive := backend.queue.positive
  rw [opened.capacity_eq] at same
  omega

end Course

end HubRelay
