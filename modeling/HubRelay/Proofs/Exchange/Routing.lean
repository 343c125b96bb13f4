import HubRelay.Proofs.Exchange.Bookkeeping
import HubRelay.Proofs.Exchange.Lasting
import HubRelay.Proofs.Interest
import HubRelay.Proofs.Switchboard.Hubs

/-!
Contract: connections are routed exactly if a backend wants them.

Owns: the roll of registrations as it follows from the actions alone, that routing picks one of
those on the roll that belong to the hub and want the event, which one that is for the policy that
prefers the earliest, and that routing in vain changes nothing.

Does not own: how evenly the policy that rotates picks.

The candidates that a switchboard considers are told from the roll.  So it does not matter in what
order others were closed or dropped before, nor whose turn it is.
-/

namespace HubRelay

/-! ## Picking -/

namespace Selection

variable {α : Type} {candidates : List α}

theorem choose_nil (selection : Selection) :
    selection.choose ([] : List α) = (none, selection) := by
  cases selection <;> rfl

/-- Some candidate is picked if there is one, and the first one by the policy that prefers it. -/
theorem choose_of_ne_nil (selection : Selection) (some : candidates ≠ []) :
    ∃ chosen ∈ candidates, (selection.choose candidates).1 = Option.some chosen ∧
      (selection.policy = .firstMatch → candidates.head? = Option.some chosen) := by
  have positive : 0 < candidates.length := List.length_pos_iff.2 some
  cases selection with
  | firstMatch =>
    obtain ⟨first, rest, rfl⟩ := List.exists_cons_of_ne_nil some
    exact ⟨first, List.mem_cons_self, rfl, fun _ => rfl⟩
  | roundRobin turns =>
    have within : turns.toNat % candidates.length < candidates.length := Nat.mod_lt _ positive
    refine ⟨candidates[turns.toNat % candidates.length], List.getElem_mem within, ?_, ?_⟩
    · simp only [choose, pick, if_neg (Nat.ne_of_gt positive), Option.bind_some,
        List.getElem?_eq_getElem within]
    · intro firstMatch
      contradiction

end Selection

namespace Switchboard

/-! ## Routing among candidates -/

/-- The backends of a hub that an event may go to. -/
def candidatesIn (board : Switchboard) (hub event : String) : List BackendKey :=
  match (board.hub? hub).bind board.registryOf? with
  | none => []
  | some registry => board.candidates registry event

variable {board : Switchboard} {held : ClientKey → Bool} {hub event : String}
  {key : RegistryKey} {registry : Registry}

theorem candidatesIn_of_mapped (mapped : board.hub? hub = some key)
    (found : board.registryOf? key = some registry) :
    board.candidatesIn hub event = board.candidates registry event := by
  rw [candidatesIn, mapped, Option.bind_some, found]

theorem registry_of_candidates (somebody : board.candidatesIn hub event ≠ []) :
    ∃ key registry, board.hub? hub = some key ∧ board.registryOf? key = some registry := by
  unfold candidatesIn at somebody
  split at somebody
  · contradiction
  · next registry found =>
    obtain ⟨key, mapped, here⟩ := Option.bind_eq_some_iff.1 found
    exact ⟨key, registry, mapped, here⟩

/-- If there is nobody to pick, no turn is taken. -/
theorem selectBackend_of_nil (nobody : ∀ registry, board.registryOf? key = some registry →
    board.candidates registry event = []) : board.selectBackend key event = (none, board) := by
  unfold selectBackend
  cases found : board.registryOf? key with
  | none => rfl
  | some registry =>
    have same : board.registries.modify key (fun entry =>
        { entry with selection := registry.selection }) = board.registries := by
      have rows := map_modify_of_same board.registries key
        (fun entry => { entry with selection := registry.selection }) id fun entry here => by
          obtain rfl : registry = entry := Option.some.inj (found.symm.trans here)
          rfl
      simpa using rows
    simp only [nobody registry found, Selection.choose_nil, updateRegistry, same]

/-- Without candidates nothing changes. -/
theorem route_of_nil (nobody : board.candidatesIn hub event = []) (context : Context) :
    board.route hub context event = (.error (.noRoute hub event), board) := by
  unfold route
  cases mapped : board.hub? hub with
  | none => rfl
  | some key =>
    have picked : board.selectBackend key event = (none, board) :=
      selectBackend_of_nil fun registry found =>
        (candidatesIn_of_mapped mapped found).symm.trans nobody
    simp only [picked]

theorem addClient_eq (found : board.registryOf? key = some registry) (backendId : String)
    (context : Context) :
    (board.addClient key backendId context).1 = board.clients.length ∧
      (board.addClient key backendId context).2.clients = board.clients ++ [⟨board.nextId,
        registry.hub, key, backendId, context, .start board.now registry.handshakeTimeout, none,
        0⟩] := by
  unfold addClient
  rw [found]
  exact ⟨rfl, rfl⟩

/-- With candidates a client is added and routed to one of them. -/
theorem route_of_ne_nil (sound : Sound board held none) (mapped : board.hub? hub = some key)
    (found : board.registryOf? key = some registry)
    (somebody : board.candidatesIn hub event ≠ []) (context : Context) :
    ∃ chosen ∈ board.candidatesIn hub event, ∃ later client,
      board.route hub context event = (.ok (chosen, board.clients.length), later) ∧
      (registry.selection.policy = .firstMatch →
        (board.candidatesIn hub event).head? = some chosen) ∧
      later.clients = board.clients ++ [client] ∧ client.hub = hub ∧
      client.context = context ∧ client.handshake.state = .pending ∧
      client.backendId = ((board.backend? chosen).map (·.id)).getD "" := by
  rw [candidatesIn_of_mapped mapped found] at somebody ⊢
  obtain ⟨chosen, among, picked, first⟩ :=
    registry.selection.choose_of_ne_nil somebody
  have named : registry.hub = hub := by
    obtain ⟨entry, here, named, -⟩ := sound.mapped mapped
    rw [← named, Option.some.inj (found.symm.trans here)]
  -- a turn is taken, and only then is the client added
  let turned := board.updateRegistry key fun entry =>
    { entry with selection := (registry.selection.choose (board.candidates registry event)).2 }
  have selected : board.selectBackend key event = (some chosen, turned) := by
    unfold selectBackend
    simp only [found, picked]
    rfl
  have foundTurned : turned.registryOf? key = some
      { registry with
        selection := (registry.selection.choose (board.candidates registry event)).2 } :=
    getElem?_modify_of_some _ found
  let backendId := ((board.backend? chosen).map (·.id)).getD ""
  obtain ⟨number, added⟩ := addClient_eq foundTurned backendId context
  refine ⟨chosen, among, (turned.addClient key backendId context).2, _, ?_, first, added, named,
    rfl, rfl, rfl⟩
  unfold route
  simp only [mapped, selected]
  exact Prod.ext (congrArg (fun client => Except.ok (chosen, client)) number) rfl

/-- Whoever is registered is found under its key, in its hub and with its events. -/
theorem backend?_tryRegister (sound : Sound board held none) {hub identity : String}
    {events : List String} {key : BackendKey}
    (registered : (board.tryRegister hub identity events).1 = some key) :
    ∃ backend, (board.tryRegister hub identity events).2.backend? key = some backend ∧
      backend.hub = hub ∧ backend.events = Interest.sortNames events := by
  obtain ⟨opened, mapped⟩ := sound.openHub hub
  obtain ⟨own, hers, named, -⟩ := opened.mapped mapped
  rw [tryRegister_eq] at registered ⊢
  rcases (board.openHub hub).2.tryAddBackend_cases (board.openHub hub).1 identity events with
    ⟨registry, here, -, added⟩ | ⟨-, brokeOff⟩
  · obtain rfl : own = registry := Option.some.inj (hers.symm.trans here)
    rw [added] at registered ⊢
    obtain rfl := Option.some.inj registered
    exact ⟨_, List.getElem?_concat_length, named, rfl⟩
  · rw [brokeOff] at registered
    contradiction

end Switchboard

/-! ## The roll of registrations -/

/-- A registration: the key that was given out, and the hub and the events that were asked for. -/
structure Enrollment where
  key : BackendKey
  hub : String
  events : List String

def Enrollment.isFor (hub event : String) (entry : Enrollment) : Bool :=
  entry.hub == hub && entry.events.contains event

/-- The registrations that are neither closed nor dropped, after one thing more has happened. -/
def Moment.roll (entries : List Enrollment) (moment : Moment) : List Enrollment :=
  match moment.action with
  | .request (.register hub identity events) =>
    entries ++ (moment.before.board.tryRegister hub identity events).1.toList.map
      fun key => ⟨key, hub, events⟩
  | .request (.close backend) | .request (.drop backend) => entries.filter (·.key ≠ backend)
  | _ => entries

namespace Course

open Switchboard

/-- The registrations that are neither closed nor dropped, in the order in which they were made. -/
def roll (course : Course) : List Enrollment :=
  course.past.foldl Moment.roll []

variable {course : Course} {hub event : String}

theorem roll_take (course : Course) (action : Action) :
    (course.take action).roll = Moment.roll course.roll ⟨course.exchange, action⟩ := by
  rw [roll, take, List.foldl_append]
  rfl

/-- Everybody on the roll is registered, with the hub and the events that were asked for. -/
structure Enrolled (course : Course) : Prop where
  keys : course.roll.map (·.key) = course.registrations
  backed : ∀ entry ∈ course.roll, ∃ backend,
    course.exchange.board.backend? entry.key = some backend ∧ backend.hub = entry.hub ∧
      backend.events = Interest.sortNames entry.events

theorem keys_roll (keys : course.roll.map (·.key) = course.registrations) (action : Action) :
    (course.take action).roll.map (·.key) = (course.take action).registrations := by
  rw [roll_take, registrations_take]
  cases action with
  | request request =>
    cases request with
    | register hub identity events =>
      have entered (key : Option BackendKey) : (key.toList.map
          fun key => (⟨key, hub, events⟩ : Enrollment)).map (·.key) = key.toList := by
        rw [List.map_map]
        exact List.map_id _
      rw [← keys]
      exact List.map_append.trans (congrArg _ (entered _))
    | close backend | drop backend =>
      show (course.roll.filter (·.key ≠ backend)).map (·.key) =
        course.registrations.filter (· ≠ backend)
      rw [← keys, List.filter_map]
      rfl
    | _ => exact keys
  | _ => exact keys

/-- Whoever is on the roll was there before, or is the one who was registered. -/
theorem mem_roll_take {entry : Enrollment} {action : Action}
    (among : entry ∈ (course.take action).roll) :
    entry ∈ course.roll ∨ ∃ key hub identity events,
      action = .request (.register hub identity events) ∧
        (course.exchange.board.tryRegister hub identity events).1 = some key ∧
        entry = ⟨key, hub, events⟩ := by
  rw [roll_take] at among
  unfold Moment.roll at among
  split at among
  · next hub identity events acted =>
    refine (List.mem_append.1 among).imp id fun new => ?_
    obtain ⟨key, registered, rfl⟩ := List.mem_map.1 new
    exact ⟨key, hub, identity, events, acted, Option.mem_toList.1 registered, rfl⟩
  · exact Or.inl (List.mem_filter.1 among).1
  · exact Or.inl (List.mem_filter.1 among).1
  · exact Or.inl among

theorem enrolled_of (settings : Settings) (actions : List Action) :
    (of settings actions).Enrolled := by
  refine induction settings ⟨rfl, fun _ none => nomatch none⟩
    (fun earlier action enrolled => ?_) actions
  constructor
  case keys => exact keys_roll enrolled.keys action
  case backed =>
    intro entry among
    rcases mem_roll_take among with before | ⟨key, hub, identity, events, rfl, registered, rfl⟩
    · obtain ⟨backend, found, named, wanted⟩ := enrolled.backed entry before
      obtain ⟨later, here, same⟩ :=
        ((of settings earlier).exchange.lasting_perform action).backend? found
      exact ⟨later, here, (congrArg (·.hub) same).trans named,
        (congrArg (·.events) same).trans wanted⟩
    · exact backend?_tryRegister (orderly_of settings earlier).sound registered

/-- Whoever is on the roll is open. -/
theorem backend?_of_roll (orderly : course.Orderly) (enrolled : course.Enrolled)
    {entry : Enrollment} (among : entry ∈ course.roll) :
    ∃ backend, course.exchange.board.backend? entry.key = some backend ∧
      backend.hub = entry.hub ∧ backend.queue.closed = false ∧
      ∀ event, backend.wants event = entry.events.contains event := by
  obtain ⟨backend, found, named, events⟩ := enrolled.backed entry among
  have registered : entry.key ∈ course.registrations :=
    enrolled.keys ▸ List.mem_map_of_mem among
  rw [orderly.registered] at registered
  obtain ⟨same, here, opened⟩ := mem_indices.1 registered
  obtain rfl : backend = same := Option.some.inj (found.symm.trans here)
  refine ⟨backend, found, named, by simpa using opened, fun event => ?_⟩
  rw [Backend.wants, events, Bool.eq_iff_iff, List.contains_iff_mem, List.contains_iff_mem]
  exact Interest.mem_sortNames

/-- The candidates for an event are told from the roll. -/
theorem candidates_eq (orderly : course.Orderly) (enrolled : course.Enrolled) :
    course.exchange.board.candidatesIn hub event =
      (course.roll.filter (·.isFor hub event)).map (·.key) := by
  cases mapped : course.exchange.board.hub? hub with
  | none =>
    -- a hub without a registry is the hub of nobody on the roll
    have nobody : course.roll.filter (·.isFor hub event) = [] := by
      refine List.filter_eq_nil_iff.2 fun entry among isFor => ?_
      obtain ⟨backend, found, named, opened, -⟩ := backend?_of_roll orderly enrolled among
      have mappedBackend := orderly.sound.backendMapped found opened
      rw [Enrollment.isFor, Bool.and_eq_true, beq_iff_eq] at isFor
      rw [named, isFor.1, mapped] at mappedBackend
      contradiction
    rw [nobody, candidatesIn, mapped]
    rfl
  | some key =>
    obtain ⟨registry, found, -⟩ := orderly.sound.mapped mapped
    rw [candidatesIn_of_mapped mapped found, candidates,
      orderly.sound.backends_eq mapped found, ← orderly.registered, ← enrolled.keys,
      List.filter_filter, List.filter_map]
    refine congrArg _ (List.filter_congr fun entry among => ?_)
    obtain ⟨backend, here, named, opened, wants⟩ := backend?_of_roll orderly enrolled among
    simp only [Function.comp_apply, isCandidate, backendIn, here, opened, wants, named,
      Enrollment.isFor, Option.any_some, Bool.not_false, Bool.true_and]
    exact Bool.and_comm _ _

/-- How connections are routed after a course, from the roll. -/
structure RoutesExactly (course : Course) (policy : SelectionPolicy) (hub event : String)
    (context : Context) : Prop where
  /-- Somebody is found exactly if a registration of the hub wants the event. -/
  succeeds_iff : (∃ route, (course.exchange.board.route hub context event).1 = .ok route) ↔
    ∃ entry ∈ course.roll, entry.hub = hub ∧ event ∈ entry.events
  /-- Then it is such a registration, and the first of them where the earliest is preferred; and a
  client is added that is told its id. -/
  found : ∀ route later, course.exchange.board.route hub context event = (.ok route, later) →
    ∃ entry ∈ course.roll, ∃ backend client, entry.hub = hub ∧ event ∈ entry.events ∧
      route = (entry.key, course.exchange.board.clients.length) ∧
      (policy = .firstMatch → course.roll.find? (·.isFor hub event) = some entry) ∧
      course.exchange.board.backend? entry.key = some backend ∧ backend.hub = hub ∧
      backend.queue.closed = false ∧ backend.wants event = true ∧
      later.clients = course.exchange.board.clients ++ [client] ∧ client.hub = hub ∧
      client.backendId = backend.id ∧ client.context = context ∧
      client.handshake.state = .pending
  /-- Otherwise the hub and the event are named, and nothing has changed. -/
  refused : ∀ error later, course.exchange.board.route hub context event = (.error error, later) →
    error = .noRoute hub event ∧ later = course.exchange.board

theorem isFor_iff {entry : Enrollment} :
    entry.isFor hub event = true ↔ entry.hub = hub ∧ event ∈ entry.events := by
  rw [Enrollment.isFor, Bool.and_eq_true, beq_iff_eq, List.contains_iff_mem]

/-- Along every course connections are routed exactly if an open registration of the hub wants the
event. -/
theorem routing_exact (settings : Settings) (actions : List Action) (hub event : String)
    (context : Context) :
    (of settings actions).RoutesExactly settings.selection hub event context := by
  have orderly := orderly_of settings actions
  have enrolled := enrolled_of settings actions
  have candidates := @candidates_eq _ hub event orderly enrolled
  by_cases nobody : (of settings actions).exchange.board.candidatesIn hub event = []
  · have refused := route_of_nil nobody context
    constructor
    case succeeds_iff =>
      rw [refused]
      refine iff_of_false (fun ⟨_, accepted⟩ => nomatch accepted) ?_
      rintro ⟨entry, among, wants⟩
      rw [candidates, List.map_eq_nil_iff, List.filter_eq_nil_iff] at nobody
      exact nobody entry among (isFor_iff.2 wants)
    case found =>
      intro route later routed
      cases refused.symm.trans routed
    case refused =>
      intro error later routed
      obtain ⟨same, rfl⟩ := Prod.mk.inj (refused.symm.trans routed)
      exact ⟨(Except.error.inj same).symm, rfl⟩
  · obtain ⟨key, registry, mapped, found⟩ := registry_of_candidates nobody
    obtain ⟨chosen, among, later, client, routed, first, added, named, context, pending, told⟩ :=
      route_of_ne_nil orderly.sound mapped found nobody context
    have policy := (openedWith_of settings actions found).policy_eq
    rw [candidates] at among first
    obtain ⟨entry, onRoll, isFor, rfl, firstEntry⟩ : ∃ entry ∈ (of settings actions).roll,
        entry.isFor hub event = true ∧ entry.key = chosen ∧
        (settings.selection = .firstMatch →
          (of settings actions).roll.find? (·.isFor hub event) = some entry) := by
      by_cases earliest : settings.selection = .firstMatch
      · have head := first (policy.trans earliest)
        rw [List.head?_map, List.head?_filter] at head
        obtain ⟨entry, found, same⟩ := Option.map_eq_some_iff.1 head
        exact ⟨entry, List.mem_of_find?_eq_some found, List.find?_some found, same, fun _ => found⟩
      · obtain ⟨entry, member, same⟩ := List.mem_map.1 among
        obtain ⟨onRoll, isFor⟩ := List.mem_filter.1 member
        exact ⟨entry, onRoll, isFor, same, fun other => absurd other earliest⟩
    obtain ⟨backend, here, sameHub, opened, wants⟩ := backend?_of_roll orderly enrolled onRoll
    obtain ⟨ofHub, listed⟩ := isFor_iff.1 isFor
    constructor
    case succeeds_iff =>
      rw [routed]
      exact iff_of_true ⟨_, rfl⟩ ⟨entry, onRoll, ofHub, listed⟩
    case found =>
      intro route last answered
      obtain ⟨same, rfl⟩ := Prod.mk.inj (routed.symm.trans answered)
      refine ⟨entry, onRoll, backend, client, ofHub, listed, (Except.ok.inj same).symm, firstEntry,
        here, sameHub.trans ofHub, opened, ?_, added, named, ?_, context, pending⟩
      · rw [wants]
        exact List.contains_iff_mem.2 listed
      · rw [told, here]
        rfl
    case refused =>
      intro error last answered
      cases routed.symm.trans answered

end Course

end HubRelay
