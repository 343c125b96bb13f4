import HubRelay.Proofs.Exchange.Routing

/-!
Contract: whether anybody can come to an exchange, which its settings decide.

Owns: that registering either comes about along every course of some settings or breaks off along
every such course; which hubs a registration that broke off has left open; and that no one else is
there where it breaks off.

Does not own: what is counted in hubs that somebody is in.

A channel is made for every backend, and all of them hold as many events.  So nothing that happens
before a registration matters to whether it comes about.
-/

namespace HubRelay

open Switchboard

/-! ## Where there is nobody -/

namespace Switchboard

/-- No backend was ever added, and no client. -/
structure Barren (board : Switchboard) : Prop where
  backends : board.backends = []
  clients : board.clients = []

variable {board : Switchboard}

namespace Barren

theorem client? (barren : board.Barren) (key : ClientKey) : board.client? key = none := by
  rw [Switchboard.client?, barren.clients]
  rfl

theorem backend? (barren : board.Barren) (key : BackendKey) : board.backend? key = none := by
  rw [Switchboard.backend?, barren.backends]
  rfl

theorem candidatesIn (barren : board.Barren) (hub event : String) :
    board.candidatesIn hub event = [] := by
  unfold Switchboard.candidatesIn
  split
  · rfl
  · refine List.filter_eq_nil_iff.2 fun key _ candidate => ?_
    rw [isCandidate, barren.backend? key] at candidate
    contradiction

theorem route (barren : board.Barren) (hub event : String) (context : Context) :
    board.route hub context event = (.error (.noRoute hub event), board) :=
  route_of_nil (barren.candidatesIn hub event) context

theorem closeBackend (barren : board.Barren) (key : BackendKey) :
    board.closeBackend key = board := by
  rw [Switchboard.closeBackend, barren.backend? key]

theorem dropBackend (barren : board.Barren) (key : BackendKey) :
    (board.dropBackend key).hubs = board.hubs ∧ (board.dropBackend key).clients = [] := by
  rw [Switchboard.dropBackend, barren.closeBackend key]
  exact ⟨rfl, barren.clients⟩

theorem dropClient (barren : board.Barren) (key : ClientKey) : board.dropClient key = board := by
  rw [Switchboard.dropClient, barren.client? key]

/-- Where there is nobody, nobody comes and nothing is opened unless somebody registers. -/
theorem perform (barren : board.Barren) {request : Request}
    (other : ∀ hub identity events, request ≠ .register hub identity events) :
    (board.perform request).clients = [] ∧ (board.perform request).hubs = board.hubs := by
  cases stays : request.changesBooks with
  | false =>
    have books := sameBooks_perform board stays
    have clients := books.clients
    rw [barren.clients, List.map_nil, List.map_eq_nil_iff] at clients
    exact ⟨clients, books.hubs⟩
  | true =>
    cases request with
    | register hub identity events => exact absurd rfl (other hub identity events)
    | close key =>
      rw [Switchboard.perform, barren.closeBackend key]
      exact ⟨barren.clients, rfl⟩
    | drop key => exact ⟨(barren.dropBackend key).2, (barren.dropBackend key).1⟩
    | route hub context event =>
      rw [Switchboard.perform, barren.route hub event context]
      exact ⟨barren.clients, rfl⟩
    | _ => contradiction

end Barren

/-- Opening a hub names it, and leaves the names of all others. -/
theorem mem_hubNames_openHub (board : Switchboard) (hub other : String) :
    other ∈ (board.openHub hub).2.hubNames ↔ other ∈ board.hubNames ∨ other = hub := by
  cases found : board.hub? hub with
  | none =>
    rw [openHub_of_missing found, hubNames, hubNames, Dictionary.mem_names_iff,
      Dictionary.mem_names_iff]
    by_cases same : other = hub
    · subst same
      simp [Dictionary.get?_insert_self]
    · simp [Dictionary.get?_insert_of_ne _ _ same, same]
  | some key =>
    have named : hub ∈ board.hubNames := by
      rw [hubNames, Dictionary.mem_names_iff]
      exact ⟨key, found⟩
    rw [Switchboard.openHub, found]
    refine (or_iff_left_of_imp ?_).symm
    rintro rfl
    exact named

end Switchboard

/-! ## Along every course -/

/-- The hub that is left open by a registration that breaks off. -/
def Moment.stranded (moment : Moment) : List String :=
  match moment.action with
  | .request (.register hub identity events) =>
    if (moment.before.board.tryRegister hub identity events).1.isSome then [] else [hub]
  | _ => []

namespace Course

/-- The hubs that were left open by registrations that broke off. -/
def stranded (course : Course) : List String :=
  course.past.flatMap Moment.stranded

theorem stranded_take (course : Course) (action : Action) :
    (course.take action).stranded =
      course.stranded ++ Moment.stranded ⟨course.exchange, action⟩ := by
  rw [stranded, take, List.flatMap_append, List.flatMap_singleton]
  rfl

variable (settings : Settings) (actions : List Action)

/-- Every registry admits backends if the settings do. -/
theorem admits_registry_iff {key : RegistryKey} {registry : Registry}
    (found : (of settings actions).exchange.board.registryOf? key = some registry) :
    registry.Admits ↔ settings.Admits := by
  rw [Registry.Admits, (openedWith_of settings actions found).capacity_eq]
  rfl

/-- Whoever registers finds a registry that makes queues as large as the settings want. -/
theorem registryOf?_openHub (hub : String) : ∃ registry,
    ((of settings actions).exchange.board.openHub hub).2.registryOf?
        ((of settings actions).exchange.board.openHub hub).1 = some registry ∧
      registry.queueCapacity = settings.queueCapacity := by
  cases found : (of settings actions).exchange.board.hub? hub with
  | none =>
    refine ⟨_, registryOf?_openHub_of_missing found, ?_⟩
    exact congrArg (·.queueCapacity) (settings_of settings actions)
  | some key =>
    obtain ⟨registry, here, -⟩ := (orderly_of settings actions).sound.mapped found
    refine ⟨registry, ?_, (openedWith_of settings actions here).capacity_eq⟩
    rw [Switchboard.openHub, found]
    exact here

/-- Registering comes about exactly if the settings allow for backends, whatever happened before. -/
theorem isSome_tryRegister_iff (hub identity : String) (events : List String) :
    ((of settings actions).exchange.board.tryRegister hub identity events).1.isSome = true ↔
      settings.Admits := by
  obtain ⟨registry, here, capacity⟩ := registryOf?_openHub settings actions hub
  have admits : registry.Admits ↔ settings.Admits := by
    rw [Registry.Admits, capacity]
    rfl
  rw [tryRegister_eq]
  by_cases possible : registry.Admits
  · rw [tryAddBackend_of_admits identity events here possible]
    exact iff_of_true rfl (admits.1 possible)
  · rw [tryAddBackend_of_not_admits identity events here possible]
    exact iff_of_false Bool.false_ne_true fun admitted => possible (admits.2 admitted)

variable {settings}

/-- No hub is left open by a registration that broke off if the settings allow for backends. -/
theorem stranded_of_admits (admits : settings.Admits) : (of settings actions).stranded = [] := by
  refine induction (motive := fun course => course.stranded = []) settings rfl
    (fun earlier action none => ?_) actions
  rw [stranded_take, none, List.nil_append, Moment.stranded]
  split
  · next hub identity events acted =>
    exact if_pos ((isSome_tryRegister_iff settings earlier hub identity events).2 admits)
  · rfl

/-- No backend is ever there if the settings do not allow for any. -/
theorem backends_of_not_admits (refuses : ¬ settings.Admits) :
    (of settings actions).exchange.board.backends = [] := by
  refine List.eq_nil_iff_forall_not_mem.2 fun backend among => refuses ?_
  obtain ⟨registry, home, -, admits, -⟩ := (homed_of settings actions).backends _
    (List.mem_map_of_mem among)
  have opened := openedWith_rows settings actions registry (List.mem_of_getElem? home)
  rw [Registry.Admits, opened.capacity_eq] at admits
  exact admits

/-- What is known after a course of settings that do not allow for backends. -/
structure Deserted (course : Course) : Prop where
  barren : course.exchange.board.Barren
  relays : course.exchange.relays = []
  named : ∀ hub, hub ∈ course.exchange.board.hubNames ↔ hub ∈ course.stranded

variable {course : Course}

/-- Where there is nobody, nobody comes and nothing is opened unless somebody registers. -/
theorem Deserted.perform (deserted : course.Deserted) {action : Action}
    (other : ∀ hub identity events, action ≠ .request (.register hub identity events)) :
    (course.exchange.perform action).board.clients = [] ∧
      (course.exchange.perform action).relays = [] ∧
      (course.exchange.perform action).board.hubs = course.exchange.board.hubs := by
  have unchanged (same : course.exchange.perform action = course.exchange) :
      (course.exchange.perform action).board.clients = [] ∧
        (course.exchange.perform action).relays = [] ∧
        (course.exchange.perform action).board.hubs = course.exchange.board.hubs := by
    rw [same]
    exact ⟨deserted.barren.clients, deserted.relays, rfl⟩
  cases action with
  | request request =>
    obtain ⟨clients, hubs⟩ := deserted.barren.perform fun hub identity events same =>
      other hub identity events (congrArg Action.request same)
    exact ⟨clients, deserted.relays, hubs⟩
  | release client =>
    refine unchanged ?_
    rw [Exchange.perform, Exchange.release, deserted.barren.dropClient client]
    split <;> rfl
  | openRelay hub context =>
    refine unchanged ?_
    have refused := deserted.barren.route hub connectEvent context
    rcases course.exchange.openRelay_cases hub context with
      ⟨error, later, answered, opened⟩ | ⟨backend, client, routed, answered, -⟩
    · obtain ⟨-, rfl⟩ := Prod.mk.inj (refused.symm.trans answered)
      exact opened
    · cases refused.symm.trans answered
  | relay key action =>
    refine unchanged (Exchange.performRelay_of_missing ?_ action)
    rw [Exchange.relay?, deserted.relays]
    rfl

/-- Where settings do not allow for backends, registering opens the hub and brings nobody. -/
theorem tryRegister_of_not_admits (refuses : ¬ settings.Admits) (hub identity : String)
    (events : List String) :
    (of settings actions).exchange.board.tryRegister hub identity events =
      (none, ((of settings actions).exchange.board.openHub hub).2) := by
  have brokeOff := mt (isSome_tryRegister_iff settings actions hub identity events).1 refuses
  rw [tryRegister_eq] at brokeOff ⊢
  rcases Switchboard.tryAddBackend_cases _ _ identity events with
    ⟨registry, -, -, added⟩ | ⟨-, nobody⟩
  · rw [added] at brokeOff
    exact absurd rfl brokeOff
  · exact nobody

/-- Where settings do not allow for backends there is never anybody, and the hubs that are named are
those that registrations opened before they broke off. -/
theorem deserted_of_not_admits (refuses : ¬ settings.Admits) :
    (of settings actions).Deserted := by
  refine induction settings ?_ (fun earlier action deserted => ?_) actions
  · refine ⟨⟨rfl, rfl⟩, rfl, fun hub => ⟨fun named => ?_, fun none => nomatch none⟩⟩
    obtain ⟨key, mapped⟩ := (Dictionary.mem_names_iff _ hub).1 named
    contradiction
  · have backends := of_concat settings earlier action ▸
      backends_of_not_admits (earlier ++ [action]) refuses
    by_cases registers : ∃ hub identity events, action = .request (.register hub identity events)
    · obtain ⟨opened, identity, events, rfl⟩ := registers
      have registered := tryRegister_of_not_admits earlier refuses opened identity events
      have left : Moment.stranded ⟨(of settings earlier).exchange,
          .request (.register opened identity events)⟩ = [opened] := by
        simp only [Moment.stranded, registered]
        rfl
      refine ⟨⟨backends, ?_⟩, deserted.relays, fun hub => ?_⟩
      · exact (clients_tryRegister _ opened identity events).trans deserted.barren.clients
      · rw [stranded_take, left, List.mem_append, ← deserted.named hub, List.mem_singleton,
          ← mem_hubNames_openHub]
        exact iff_of_eq (congrArg (hub ∈ ·.2.hubNames) registered)
    · have other (hub identity : String) (events : List String) :
          action ≠ .request (.register hub identity events) :=
        fun same => registers ⟨hub, identity, events, same⟩
      have left : Moment.stranded ⟨(of settings earlier).exchange, action⟩ = [] := by
        unfold Moment.stranded
        split
        · next hub identity events acted => exact absurd acted (other hub identity events)
        · rfl
      obtain ⟨clients, relays, hubs⟩ := deserted.perform other
      refine ⟨⟨backends, clients⟩, relays, fun hub => ?_⟩
      rw [stranded_take, left, List.append_nil, ← deserted.named hub]
      exact iff_of_eq (congrArg (hub ∈ Dictionary.names ·) hubs)

end Course

end HubRelay
