import HubRelay.Proofs.Exchange.Elementary
import HubRelay.Proofs.Exchange.Opening
import Mathlib.Data.List.Infix
import Mathlib.Data.List.Nodup
import Mathlib.Data.List.Perm.Subperm
import Mathlib.Data.Nat.ModEq

/-!
Contract: how the policy that rotates spreads the connections of a hub.

Owns: that a selection moves on with every connection that is routed and with nothing else, that
while its registrations stay the same a hub takes the turns of all events from one count, and when
this reaches everybody who wants an event.

Does not own: who wants an event.

The count is kept by induction on the actions during which the registrations stay the same: whoever
is on the roll all the time fixes the registry that the hub has.  Picking takes the count modulo the
number of those who want the event, so a routing on another event shifts everybody's turn.
-/

namespace HubRelay

/-! ## What moves a selection on -/

namespace Selection

theorem turned_eq_roundRobin {selection : Selection} {turns : UInt64}
    (rotates : selection.turned = .roundRobin turns) :
    ∃ before, selection = .roundRobin before ∧ turns = before + 1 := by
  cases selection with
  | firstMatch => cases rotates
  | roundRobin before => exact ⟨before, rfl, (Selection.roundRobin.inj rotates).symm⟩

theorem choose_roundRobin {α : Type} {candidates : List α} {turns : UInt64} {chosen : α}
    (chose : ((Selection.roundRobin turns).choose candidates).1 = some chosen) :
    candidates[turns.toNat % candidates.length]? = some chosen := by
  have somebody : candidates.length ≠ 0 := by
    intro nobody
    rw [List.eq_nil_of_length_eq_zero nobody, choose_nil] at chose
    cases chose
  simpa only [choose, pick, if_neg somebody, Option.bind_some] using chose

end Selection

/-- The hub of a registry and whose turn it is. -/
def Registry.rota (registry : Registry) : String × Selection :=
  (registry.hub, registry.selection)

namespace Switchboard

/-- Whose turn it is in each registry. -/
def rotas (board : Switchboard) : List (String × Selection) :=
  board.registries.map Registry.rota

/-- No selection has moved on, and those of new registries are at their start. -/
def Unturned (before after : Switchboard) : Prop :=
  Extends (fun row : String × Selection => ∃ policy, row.2 = .start policy) before.rotas after.rotas

theorem rotas_modify (rows : List Registry) (key : RegistryKey) (change : Registry → Registry)
    (same : ∀ registry, (change registry).rota = registry.rota) :
    (rows.modify key change).map Registry.rota = rows.map Registry.rota :=
  map_modify_of_same rows key change _ fun registry _ => same registry

/-- No elementary change moves a selection on. -/
theorem elementary_unturned : Elementary Unturned where
  refl _ := .of_eq rfl
  trans one two := Extends.trans one two fun _ => id
  client _ _ _ := .of_eq rfl
  backend _ _ _ := .of_eq rfl
  forgetHub _ _ := .of_eq rfl
  pass _ _ := .of_eq rfl
  stop _ := .of_eq rfl
  removeBackend board key _ := .of_eq (rotas_modify board.registries key _ fun _ => rfl)
  removeClient board key _ := .of_eq (rotas_modify board.registries key _ fun _ => rfl)
  openHub board hub := by
    unfold openHub
    split
    · exact .of_eq rfl
    · refine ⟨[(hub, .start board.settings.selection)], List.map_append, fun row among => ?_⟩
      exact ⟨board.settings.selection, by rw [List.mem_singleton.1 among]⟩
  addBackend board key identity events := by
    rcases board.tryAddBackend_cases key identity events with ⟨_, -, -, added⟩ | ⟨-, brokeOff⟩
    · rw [added]
      exact .of_eq (rotas_modify board.registries key _ fun _ => rfl)
    · rw [brokeOff]
      exact .of_eq rfl

theorem rotas_addClient (board : Switchboard) (key : RegistryKey) (backendId : String)
    (context : Context) : (board.addClient key backendId context).2.rotas = board.rotas := by
  unfold addClient
  split
  · rfl
  · exact rotas_modify board.registries key _ fun _ => rfl

variable {board later : Switchboard} {held : ClientKey → Bool} {hub event : String}
  {chosen : BackendKey}

/-- A connection of a hub was routed to whom its selection chose, which has moved on. -/
structure Turned (board later : Switchboard) (hub event : String) (chosen : BackendKey)
    (key : RegistryKey) (registry : Registry) : Prop where
  mapped : board.hub? hub = some key
  registered : board.registryOf? key = some registry
  named : registry.hub = hub
  chose : (registry.selection.choose (board.candidatesIn hub event)).1 = some chosen
  rotas : later.rotas = board.rotas.modify key fun row => (row.1, row.2.turned)

theorem Turned.rota {key : RegistryKey} {registry : Registry}
    (turned : Turned board later hub event chosen key registry) :
    board.rotas[key]? = some registry.rota := by
  rw [Switchboard.rotas, List.getElem?_map,
    show board.registries[key]? = some registry from turned.registered]
  rfl

theorem Sound.turned_route (sound : Sound board held none) {context : Context} {client : ClientKey}
    (routed : board.route hub context event = (.ok (chosen, client), later)) :
    ∃ key registry, Turned board later hub event chosen key registry := by
  rcases board.route_cases hub context event with
    ⟨error, rest, refused, -⟩ | ⟨key, choice, picked, mapped, selected, answered⟩
  · rw [refused] at routed
    cases routed
  · obtain ⟨registry, registered, named, -⟩ := sound.mapped mapped
    obtain ⟨answer, rfl⟩ := Prod.mk.inj (answered.symm.trans routed)
    obtain ⟨rfl, -⟩ := Prod.mk.inj (Except.ok.inj answer)
    unfold selectBackend at selected
    simp only [registered] at selected
    obtain ⟨chose, rfl⟩ := Prod.mk.inj selected
    have somebody : board.candidates registry event ≠ [] := by
      intro nobody
      rw [nobody, Selection.choose_nil] at chose
      cases chose
    refine ⟨key, registry, mapped, registered, named, ?_, ?_⟩
    · rw [candidatesIn_of_mapped mapped registered]
      exact chose
    · rw [rotas_addClient]
      refine map_modify_of_entry fun entry found => ?_
      obtain rfl : registry = entry := Option.some.inj (registered.symm.trans found)
      exact congrArg (registry.hub, ·) (registry.selection.choose_snd somebody)

theorem Sound.route_error (sound : Sound board held none) {context : Context} {error : RouteError}
    (refused : board.route hub context event = (.error error, later)) : later = board := by
  by_cases nobody : board.candidatesIn hub event = []
  · exact (congrArg Prod.snd ((route_of_nil nobody context).symm.trans refused)).symm
  · obtain ⟨key, registry, chosen, backend, -, routed⟩ := sound.route_picks nobody context
    cases routed.symm.trans refused

end Switchboard

/-! ## What an action does to the selections -/

/-- A connection that was routed: the event on which, and the backend to which. -/
structure Routing where
  event : String
  backend : BackendKey
deriving DecidableEq

/-- The hub, the context and the event with which an action routes a client. -/
def Action.route? : Action → Option (String × Context × String)
  | .request (.route hub context event) => some (hub, context, event)
  | .openRelay hub context => some (hub, context, connectEvent)
  | _ => none

/-- The connection of a hub that is routed at a moment. -/
def Moment.routing? (hub : String) (moment : Moment) : Option Routing :=
  moment.action.route?.bind fun (other, context, event) =>
    if other = hub then
      match (moment.before.board.route hub context event).1 with
      | .ok (backend, _) => some ⟨event, backend⟩
      | .error _ => none
    else none

namespace Exchange

open Switchboard

variable {exchange : Exchange} {held : ClientKey → Bool}

/-- What an action does to the selections: nothing, or one of them has chosen and moves on. -/
inductive Turns (exchange : Exchange) (action : Action) : Prop where
  | still (unrouted : ∀ hub, Moment.routing? hub ⟨exchange, action⟩ = none)
      (unturned : Unturned exchange.board (exchange.perform action).board)
  | turned {hub event : String} {chosen : BackendKey} {key : RegistryKey} {registry : Registry}
      (routing : ∀ other, Moment.routing? other ⟨exchange, action⟩ =
        if hub = other then some ⟨event, chosen⟩ else none)
      (routed : Switchboard) (turned : Turned exchange.board routed hub event chosen key registry)
      (unturned : Unturned routed (exchange.perform action).board)

/-- A routing that finds nobody changes nothing. -/
theorem turns_of_refused {action : Action} {hub event : String} {context : Context}
    (wish : action.route? = some (hub, context, event)) {error : RouteError}
    (refused : (exchange.board.route hub context event).1 = .error error)
    (unturned : Unturned exchange.board (exchange.perform action).board) :
    exchange.Turns action := by
  refine .still (fun other => ?_) unturned
  rw [Moment.routing?, wish, Option.bind_some]
  simp only
  split
  · next same => rw [← same, refused]
  · rfl

theorem turns_of_routed (sound : Sound exchange.board held none) {action : Action}
    {hub event : String} {context : Context} (wish : action.route? = some (hub, context, event))
    {chosen : BackendKey} {client : ClientKey} {routed : Switchboard}
    (found : exchange.board.route hub context event = (.ok (chosen, client), routed))
    (unturned : Unturned routed (exchange.perform action).board) : exchange.Turns action := by
  obtain ⟨key, registry, turned⟩ := sound.turned_route found
  refine .turned (fun other => ?_) routed turned unturned
  rw [Moment.routing?, wish, Option.bind_some]
  simp only
  split
  · next same => rw [← same, found]
  · rfl

theorem turns_perform (sound : Sound exchange.board held none) (action : Action) :
    exchange.Turns action := by
  cases action with
  | request request =>
    cases routes : request.isRoute with
    | false =>
      refine .still (fun hub => ?_) (elementary_unturned.perform exchange.board routes)
      cases request with
      | route _ _ _ => contradiction
      | _ => rfl
    | true =>
      cases request with
      | route hub context event =>
        cases routing : exchange.board.route hub context event with
        | mk answer later =>
          have acted : (exchange.perform (.request (.route hub context event))).board = later :=
            congrArg Prod.snd routing
          cases answer with
          | error error =>
            refine turns_of_refused rfl (congrArg Prod.fst routing) ?_
            rw [acted, sound.route_error routing]
            exact elementary_unturned.refl _
          | ok route =>
            refine turns_of_routed sound rfl routing ?_
            rw [acted]
            exact elementary_unturned.refl _
      | _ => contradiction
  | release client =>
    exact .still (fun _ => rfl) (elementary_unturned.release exchange client)
  | relay key action =>
    exact .still (fun _ => rfl) (elementary_unturned.performRelay exchange key action)
  | openRelay hub context =>
    rcases exchange.openRelay_cases hub context with
      ⟨error, later, refused, opened⟩ | ⟨backend, client, routed, routing, answer⟩
    · refine turns_of_refused rfl (congrArg Prod.fst refused) ?_
      rw [opened, sound.route_error refused]
      exact elementary_unturned.refl _
    · refine turns_of_routed sound rfl routing ?_
      rcases answer with ⟨error, -, opened⟩ | ⟨-, opened⟩
      · rw [opened]
        exact elementary_unturned.dropClient routed client
      · rw [opened]
        exact elementary_unturned.enqueue routed backend _

end Exchange

/-! ## The turns of a hub -/

namespace Course

open Switchboard

/-- The connections of a hub that were routed, in order. -/
def routings (course : Course) (hub : String) : List Routing :=
  course.past.filterMap (Moment.routing? hub)

/-- The registrations of a hub that are neither closed nor dropped. -/
def rollOf (course : Course) (hub : String) : List Enrollment :=
  course.roll.filter (·.hub == hub)

/-- The registrations of a hub that want an event, in the order in which they were made. -/
def interested (course : Course) (hub event : String) : List BackendKey :=
  ((course.rollOf hub).filter (·.events.contains event)).map (·.key)

variable {course : Course} {hub event : String} {settings : Settings}

theorem routings_take (course : Course) (action : Action) (hub : String) :
    (course.take action).routings hub =
      course.routings hub ++ (Moment.routing? hub ⟨course.exchange, action⟩).toList := by
  rw [routings, take, List.filterMap_append]
  cases found : Moment.routing? hub ⟨course.exchange, action⟩ with
  | none => rw [List.filterMap_cons_none found]; rfl
  | some routing => rw [List.filterMap_cons_some found]; rfl

theorem candidatesIn_eq (orderly : course.Orderly) (enrolled : course.Enrolled) :
    course.exchange.board.candidatesIn hub event = course.interested hub event := by
  rw [candidates_eq orderly enrolled, interested, rollOf, List.filter_filter]
  exact congrArg _ (List.filter_congr fun entry _ => Bool.and_comm _ _)

theorem nodup_interested (orderly : course.Orderly) (enrolled : course.Enrolled) :
    (course.interested hub event).Nodup := by
  have keys : (course.roll.map (·.key)).Nodup := by
    rw [enrolled.keys, orderly.registered]
    exact nodup_indices _ _
  exact ((List.filter_sublist.trans List.filter_sublist).map Enrollment.key).nodup keys

/-- Selections that rotate have taken no more turns than connections of their hub were routed. -/
def Counted (course : Course) : Prop :=
  ∀ row ∈ course.exchange.board.rotas, ∀ turns, row.2 = .roundRobin turns →
    turns.toNat ≤ (course.routings row.1).length

theorem counted_of (settings : Settings) (actions : List Action) :
    (of settings actions).Counted := by
  refine induction settings (fun row among => nomatch among)
    (fun earlier action counted => ?_) actions
  have orderly := orderly_of settings earlier
  have grows (hub : String) : ((of settings earlier).routings hub).length ≤
      (((of settings earlier).take action).routings hub).length := by
    rw [routings_take, List.length_append]
    exact Nat.le_add_right _ _
  -- a new registry has taken no turn
  have fresh {row : String × Selection} {turns : UInt64} (started : ∃ policy, row.2 = .start policy)
      (rotates : row.2 = .roundRobin turns) : turns.toNat = 0 := by
    obtain ⟨policy, start⟩ := started
    rw [rotates] at start
    cases policy with
    | firstMatch => cases start
    | roundRobin => cases start; rfl
  intro row among turns rotates
  rcases Exchange.turns_perform orderly.sound action with
    ⟨unrouted, unturned⟩ | ⟨routing, routed, turned, unturned⟩
  · rcases unturned.mem among with before | started
    · exact (counted row before turns rotates).trans (grows row.1)
    · exact (fresh started rotates).trans_le (Nat.zero_le _)
  · next hub event chosen key registry =>
    rcases unturned.mem among with before | started
    · rw [turned.rotas] at before
      obtain ⟨position, there⟩ := List.mem_iff_getElem?.1 before
      rcases entry_of_modify there with ⟨rfl, old, found, rfl⟩ | ⟨-, found⟩
      · have count := counted old (List.mem_of_getElem? found)
        obtain rfl : old = registry.rota := Option.some.inj (found.symm.trans turned.rota)
        -- the one that has moved on has routed one more
        have one := routings_take (of settings earlier) action registry.hub
        rw [routing, if_pos turned.named.symm] at one
        obtain ⟨past, rotated, rfl⟩ := Selection.turned_eq_roundRobin rotates
        have bound := count past rotated
        show (past + 1).toNat ≤ (((of settings earlier).take action).routings registry.hub).length
        rw [one, List.length_append, UInt64.toNat_add]
        exact (Nat.mod_le _ _).trans (Nat.add_le_add_right bound 1)
      · exact (counted row (List.mem_of_getElem? found) turns rotates).trans (grows row.1)
    · exact (fresh started rotates).trans_le (Nat.zero_le _)

/-- It is a turn of the selection of a hub that rotates, after so many turns. -/
def OnTurn (course : Course) (hub : String) (count : Nat) : Prop :=
  ∃ key turns, course.exchange.board.hub? hub = some key ∧
    course.exchange.board.rotas[key]? = some (hub, .roundRobin turns) ∧
    turns.toNat = count % 2 ^ 64

/-- Whoever is on the roll fixes the registry of the hub. -/
theorem hub?_of_roll (orderly : course.Orderly) (enrolled : course.Enrolled) {entry : Enrollment}
    (among : entry ∈ course.rollOf hub) :
    ∃ backend, course.exchange.board.backend? entry.key = some backend ∧
      course.exchange.board.hub? hub = some backend.registry := by
  obtain ⟨onRoll, ofHub⟩ := List.mem_filter.1 among
  obtain ⟨backend, found, named, opened, -⟩ := backend?_of_roll orderly enrolled onRoll
  have mapped := orderly.sound.backendMapped found opened
  rw [named, beq_iff_eq.1 ofHub] at mapped
  exact ⟨backend, found, mapped⟩

theorem hub?_take (orderly : course.Orderly) (enrolled : course.Enrolled) {action : Action}
    (orderlyLater : (course.take action).Orderly) (enrolledLater : (course.take action).Enrolled)
    {entry : Enrollment} (before : entry ∈ course.rollOf hub)
    (after : entry ∈ (course.take action).rollOf hub) :
    (course.take action).exchange.board.hub? hub = course.exchange.board.hub? hub := by
  obtain ⟨backend, found, mapped⟩ := hub?_of_roll orderly enrolled before
  obtain ⟨later, foundLater, mappedLater⟩ := hub?_of_roll orderlyLater enrolledLater after
  obtain ⟨same, here, asBefore⟩ := (course.exchange.lasting_perform action).backend? found
  obtain rfl : later = same := Option.some.inj (foundLater.symm.trans here)
  rw [mapped, mappedLater]
  exact congrArg (some ·.registry) asBefore

/-- While it rotates, a selection picks the one whose turn it is. -/
theorem OnTurn.picks {count : Nat} (onTurn : course.OnTurn hub count) (orderly : course.Orderly)
    (enrolled : course.Enrolled) {action : Action} {routing : Routing}
    (found : Moment.routing? hub ⟨course.exchange, action⟩ = some routing) :
    (course.interested hub routing.event)[
      count % 2 ^ 64 % (course.interested hub routing.event).length]? = some routing.backend := by
  obtain ⟨key, turns, mapped, row, counted⟩ := onTurn
  rcases Exchange.turns_perform orderly.sound action with
    ⟨unrouted, -⟩ | ⟨routed, later, turned, -⟩
  · rw [unrouted] at found
    cases found
  · next other event chosen routedKey registry =>
    rw [routed] at found
    split at found
    · next same =>
      subst same
      obtain rfl := Option.some.inj found
      have here := turned.rota
      rw [Option.some.inj (turned.mapped.symm.trans mapped), row] at here
      have rotates : registry.selection = .roundRobin turns :=
        (congrArg Prod.snd (Option.some.inj here)).symm
      have chose := turned.chose
      rw [rotates, candidatesIn_eq orderly enrolled] at chose
      rw [← counted]
      exact Selection.choose_roundRobin chose
    · cases found

/-- One more routing is one more turn. -/
theorem OnTurn.take {count : Nat} (onTurn : course.OnTurn hub count) (orderly : course.Orderly)
    {action : Action}
    (mapped : (course.take action).exchange.board.hub? hub = course.exchange.board.hub? hub) :
    (course.take action).OnTurn hub
      (count + (Moment.routing? hub ⟨course.exchange, action⟩).toList.length) := by
  obtain ⟨key, turns, mappedBefore, row, counted⟩ := onTurn
  rw [mappedBefore] at mapped
  rcases Exchange.turns_perform orderly.sound action with
    ⟨unrouted, unturned⟩ | ⟨routed, later, turned, unturned⟩
  · rw [unrouted]
    exact ⟨key, turns, mapped, unturned.getElem? row, counted⟩
  · next other event chosen routedKey registry =>
    rw [routed]
    by_cases same : other = hub
    · subst same
      rw [if_pos rfl]
      obtain rfl := Option.some.inj (turned.mapped.symm.trans mappedBefore)
      refine ⟨routedKey, turns + 1, mapped, unturned.getElem? ?_, ?_⟩
      · rw [turned.rotas, getElem?_modify_of_some _ row]
        rfl
      · rw [UInt64.toNat_add, counted]
        exact (Nat.mod_add_mod _ _ _)
    · rw [if_neg same]
      refine ⟨key, turns, mapped, unturned.getElem? ?_, counted⟩
      have apart : routedKey ≠ key := by
        rintro rfl
        have here := turned.rota
        rw [row] at here
        exact same (turned.named.symm.trans (congrArg Prod.fst (Option.some.inj here)).symm)
      rw [turned.rotas, List.getElem?_modify_ne _ _ apart]
      exact row

/-! ## A stretch without registrations -/

/-- The registrations of a hub stay the same during some actions. -/
def Unchanged (settings : Settings) (earlier later : List Action) (hub : String) : Prop :=
  ∀ part ∈ later.inits,
    (of settings (earlier ++ part)).rollOf hub = (of settings earlier).rollOf hub

theorem Unchanged.of_concat {earlier later : List Action} {action : Action}
    (unchanged : Unchanged settings earlier (later ++ [action]) hub) :
    Unchanged settings earlier later hub := fun part among =>
  unchanged part ((List.mem_inits _ _).2
    (((List.mem_inits _ _).1 among).trans (List.prefix_append _ _)))

/-- A selection that rotates starts somewhere, after no more turns than routings. -/
theorem onTurn_of_roll (rotates : settings.selection = .roundRobin) {actions : List Action}
    {entry : Enrollment} (among : entry ∈ (of settings actions).rollOf hub) :
    ∃ base ≤ ((of settings actions).routings hub).length,
      (of settings actions).OnTurn hub base := by
  have orderly := orderly_of settings actions
  obtain ⟨backend, -, mapped⟩ := hub?_of_roll orderly (enrolled_of settings actions) among
  obtain ⟨registry, found, named, -⟩ := orderly.sound.mapped mapped
  have policy := (openedWith_of settings actions found).policy_eq.trans rotates
  have row : (of settings actions).exchange.board.rotas[backend.registry]? =
      some registry.rota := by
    rw [rotas, List.getElem?_map,
      show (of settings actions).exchange.board.registries[backend.registry]? = some registry
        from found]
    rfl
  cases selection : registry.selection with
  | firstMatch =>
    rw [selection] at policy
    cases policy
  | roundRobin turns =>
    rw [Registry.rota, selection, named] at row
    exact ⟨turns.toNat, counted_of settings actions _ (List.mem_of_getElem? row) turns rfl,
      backend.registry, turns, mapped, row, (Nat.mod_eq_of_lt turns.toNat_lt).symm⟩

/-- Whoever is routed is routed to somebody on the roll. -/
theorem roll_of_routing (actions : List Action) {action : Action} {routing : Routing}
    (found : Moment.routing? hub ⟨(of settings actions).exchange, action⟩ = some routing) :
    ∃ entry, entry ∈ (of settings actions).rollOf hub := by
  have orderly := orderly_of settings actions
  rcases Exchange.turns_perform orderly.sound action with
    ⟨unrouted, -⟩ | ⟨routed, later, turned, -⟩
  · rw [unrouted] at found
    cases found
  · rw [routed] at found
    split at found
    · next same =>
      subst same
      by_contra nobody
      have chose := turned.chose
      rw [candidatesIn_eq orderly (enrolled_of settings actions), interested,
        List.eq_nil_iff_forall_not_mem.2 fun entry among => nobody ⟨entry, among⟩] at chose
      rw [List.filter_nil, List.map_nil, Selection.choose_nil] at chose
      cases chose
    · cases found

/-- The connections that are routed during a stretch take one turn after the other. -/
theorem turns_of_unchanged {earlier : List Action} {base : Nat}
    (start : (∃ entry, entry ∈ (of settings earlier).rollOf hub) →
      (of settings earlier).OnTurn hub base)
    (later : List Action) (unchanged : Unchanged settings earlier later hub) :
    ∃ added, (of settings (earlier ++ later)).routings hub =
        (of settings earlier).routings hub ++ added ∧
      ((∃ entry, entry ∈ (of settings earlier).rollOf hub) →
        (of settings (earlier ++ later)).OnTurn hub (base + added.length)) ∧
      ∀ place routing, added[place]? = some routing →
        ((of settings earlier).interested hub routing.event)[(base + place) % 2 ^ 64 %
          ((of settings earlier).interested hub routing.event).length]? = some routing.backend := by
  induction later using List.reverseRecOn with
  | nil =>
    rw [List.append_nil]
    exact ⟨[], (List.append_nil _).symm, start, fun place routing found => by cases found⟩
  | append_singleton later action inductionHypothesis =>
    obtain ⟨added, past, onTurn, picks⟩ := inductionHypothesis unchanged.of_concat
    have orderly := orderly_of settings (earlier ++ later)
    have enrolled := enrolled_of settings (earlier ++ later)
    have same := unchanged.of_concat later ((List.mem_inits _ _).2 (List.prefix_refl later))
    have sameLater := unchanged (later ++ [action]) ((List.mem_inits _ _).2 (List.prefix_refl _))
    rw [← List.append_assoc, of_concat] at sameLater ⊢
    refine ⟨added ++ (Moment.routing? hub ⟨(of settings (earlier ++ later)).exchange,
      action⟩).toList, ?_, ?_, ?_⟩
    · rw [routings_take, past, List.append_assoc]
    · rintro ⟨entry, among⟩
      rw [List.length_append, ← Nat.add_assoc]
      refine (onTurn ⟨entry, among⟩).take orderly ?_
      have orderlyLater := orderly_of settings (earlier ++ later ++ [action])
      have enrolledLater := enrolled_of settings (earlier ++ later ++ [action])
      rw [of_concat] at orderlyLater enrolledLater
      have before : entry ∈ (of settings (earlier ++ later)).rollOf hub := same ▸ among
      exact hub?_take orderly enrolled orderlyLater enrolledLater before (sameLater ▸ among)
    · intro place routing found
      cases routed : Moment.routing? hub ⟨(of settings (earlier ++ later)).exchange, action⟩ with
      | none =>
        rw [routed, Option.toList_none, List.append_nil] at found
        exact picks place routing found
      | some last =>
        rw [routed] at found
        rcases entry_of_concat found with before | ⟨rfl, rfl⟩
        · exact picks place routing before
        · have somebody := roll_of_routing (earlier ++ later) routed
          rw [same] at somebody
          have picked := (onTurn somebody).picks orderly enrolled routed
          rwa [interested, same] at picked

/-! ## Whom a stretch reaches -/

/-- Places are reached by everybody's turn exactly if no two turns are the same for as many as there
are. -/
theorem perm_iff_nodup_turns {α : Type} {members reached : List α} (distinct : members.Nodup)
    {turns : List Nat} (long : turns.length = members.length)
    (reaches : reached.map some = turns.map fun turn => members[turn % members.length]?) :
    reached.Perm members ↔ (turns.map (· % members.length)).Nodup := by
  have rows : reached.map some = (turns.map (· % members.length)).map (members[·]?) := by
    rw [reaches, List.map_map]
    rfl
  constructor
  · intro all
    have once : (reached.map some).Nodup :=
      (all.nodup_iff.2 distinct).map (Option.some_injective α)
    rw [rows] at once
    exact once.of_map _
  · intro once
    have within : turns.map (· % members.length) ⊆ List.range members.length := by
      intro turn among
      obtain ⟨count, here, rfl⟩ := List.mem_map.1 among
      have positive : 0 < members.length := long ▸ List.length_pos_of_mem here
      exact List.mem_range.2 (Nat.mod_lt count positive)
    have each : (turns.map (· % members.length)).Perm (List.range members.length) := by
      refine (List.subperm_of_subset once within).perm_of_length_le ?_
      rw [List.length_range, List.length_map, long]
    have everybody : (List.range members.length).map (members[·]?) = members.map some := by
      refine List.ext_getElem (by simp) fun position _ within => ?_
      rw [List.length_map] at within
      simp [within]
    have some : (reached.map Option.some).Perm (members.map Option.some) := by
      rw [rows, ← everybody]
      exact each.map _
    exact (List.map_perm_map_iff (Option.some_injective α)).1 some

/-- How connections are routed on the events of a hub, after so many turns: by one count for all
events. -/
structure TakesTurns (interested : String → List BackendKey) (base : Nat) (added : List Routing) :
    Prop where
  /-- Whose turn it is depends on the number of all routings before, on whatever events. -/
  picks : ∀ place routing, added[place]? = some routing →
    (interested routing.event)[(base + place) % 2 ^ 64 % (interested routing.event).length]? =
      some routing.backend
  /-- As many consecutive routings on an event as there are interested reach each of those once
  exactly if their turns differ modulo that number. -/
  reaches_iff : ∀ event places,
    places <:+: indices added (fun _ routing => routing.event == event) →
    places.length = (interested event).length →
    (((places.filterMap (added[·]?)).map (·.backend)).Perm (interested event) ↔
      (places.map fun place => (base + place) % 2 ^ 64 % (interested event).length).Nodup)
  /-- So they do if no routing on another event comes between, before the count starts over. -/
  undisturbed : ∀ event window, window <:+: added → (∀ routing ∈ window, routing.event = event) →
    window.length = (interested event).length → base + added.length ≤ 2 ^ 64 →
    (window.map (·.backend)).Perm (interested event)

theorem takesTurns_of_picks {interested : String → List BackendKey} {base : Nat}
    {added : List Routing} (distinct : ∀ event, (interested event).Nodup)
    (picks : ∀ place routing, added[place]? = some routing →
      (interested routing.event)[(base + place) % 2 ^ 64 % (interested routing.event).length]? =
        some routing.backend) : TakesTurns interested base added where
  picks := picks
  reaches_iff := by
    intro event places consecutive long
    have each : ∀ place ∈ places, ∃ routing, added[place]? = some routing ∧
        routing.event = event := by
      intro place among
      obtain ⟨routing, found, onEvent⟩ := mem_indices.1 (consecutive.subset among)
      exact ⟨routing, found, beq_iff_eq.1 onEvent⟩
    have reaches : ((places.filterMap (added[·]?)).map (·.backend)).map some =
        (places.map fun place => (base + place) % 2 ^ 64).map fun turn =>
          (interested event)[turn % (interested event).length]? := by
      clear consecutive long
      induction places with
      | nil => rfl
      | cons place places inductionHypothesis =>
        obtain ⟨routing, found, rfl⟩ := each place List.mem_cons_self
        rw [List.filterMap_cons_some found, List.map_cons, List.map_cons, List.map_cons,
          List.map_cons, picks place routing found,
          inductionHypothesis fun other among => each other (List.mem_cons_of_mem place among)]
    have turns := perm_iff_nodup_turns (distinct event) (by rw [List.length_map, long]) reaches
    rwa [List.map_map] at turns
  undisturbed := by
    rintro event window ⟨front, back, rfl⟩ onEvent long bounded
    have here (index : Nat) (within : index < window.length) :
        (front ++ window ++ back)[front.length + index]? = some window[index] := by
      rw [List.append_assoc, List.getElem?_append_right (Nat.le_add_right _ _),
        Nat.add_sub_cancel_left, List.getElem?_append_left within, List.getElem?_eq_getElem within]
    have reaches : (window.map (·.backend)).map some =
        ((List.range window.length).map fun index => (base + (front.length + index)) % 2 ^ 64).map
          fun turn => (interested event)[turn % (interested event).length]? := by
      refine List.ext_getElem (by simp) fun index within _ => ?_
      rw [List.length_map, List.length_map] at within
      have picked := picks _ _ (here index within)
      rw [onEvent _ (List.getElem_mem within)] at picked
      simpa using picked.symm
    refine (perm_iff_nodup_turns (distinct event) (by simpa using long) reaches).2 ?_
    rw [List.map_map]
    refine List.Nodup.map_on (fun one among other amongToo same => ?_) List.nodup_range
    rw [List.mem_range] at among amongToo
    simp only [List.length_append] at bounded
    -- before the count starts over, neighbours differ by less than the number of the interested
    simp only [Function.comp_apply] at same
    rw [Nat.mod_eq_of_lt (by omega : base + (front.length + one) < 2 ^ 64),
      Nat.mod_eq_of_lt (by omega : base + (front.length + other) < 2 ^ 64), ← Nat.add_assoc,
      ← Nat.add_assoc] at same
    have close := Nat.ModEq.add_left_cancel' (base + front.length) same
    rw [long] at among amongToo
    rwa [Nat.ModEq, Nat.mod_eq_of_lt among, Nat.mod_eq_of_lt amongToo] at close

/-- Along every course, while its registrations stay the same, a hub takes the turns of all events
from one count. -/
theorem turns_exact (settings : Settings) (rotates : settings.selection = .roundRobin)
    (earlier later : List Action) (hub : String)
    (unchanged : Unchanged settings earlier later hub) :
    ∃ base ≤ ((of settings earlier).routings hub).length, ∃ added,
      (of settings (earlier ++ later)).routings hub =
        (of settings earlier).routings hub ++ added ∧
      TakesTurns ((of settings earlier).interested hub) base added := by
  obtain ⟨base, few, start⟩ : ∃ base ≤ ((of settings earlier).routings hub).length,
      (∃ entry, entry ∈ (of settings earlier).rollOf hub) →
        (of settings earlier).OnTurn hub base := by
    by_cases somebody : ∃ entry, entry ∈ (of settings earlier).rollOf hub
    · obtain ⟨entry, among⟩ := somebody
      obtain ⟨base, few, onTurn⟩ := onTurn_of_roll rotates among
      exact ⟨base, few, fun _ => onTurn⟩
    · exact ⟨0, Nat.zero_le _, fun among => absurd among somebody⟩
  obtain ⟨added, past, -, picks⟩ := turns_of_unchanged start later unchanged
  exact ⟨base, few, added, past, takesTurns_of_picks
    (fun event => nodup_interested (orderly_of settings earlier) (enrolled_of settings earlier))
    picks⟩

/-- Two backends of a hub want the same two events. -/
def pair : List Action :=
  [.request (.register "chat" "one" ["connect", "user"]),
    .request (.register "chat" "two" ["connect", "user"])]

/-- Connections are routed on both events in turn. -/
def alternating : List Action :=
  [.request (.route "chat" .empty "connect"), .request (.route "chat" .empty "user"),
    .request (.route "chat" .empty "connect")]

/-- Settings with the policy that rotates. -/
def rotating : Settings :=
  { Settings.standard with selection := .roundRobin }

theorem unchanged_alternating : Unchanged rotating pair alternating "chat" := by
  intro part among
  rw [alternating] at among
  simp only [List.inits, List.mem_cons, List.not_mem_nil, or_false, List.map_cons, List.map_nil]
    at among
  rcases among with rfl | rfl | rfl | rfl <;> rfl

/-- The turns of two events that are asked for by turns. -/
theorem turns_alternating : rotating.selection = .roundRobin ∧
    Unchanged rotating pair alternating "chat" ∧
    ∃ base ≤ ((of rotating pair).routings "chat").length, ∃ added,
      (of rotating (pair ++ alternating)).routings "chat" =
        (of rotating pair).routings "chat" ++ added ∧
      TakesTurns ((of rotating pair).interested "chat") base added :=
  ⟨rfl, unchanged_alternating, turns_exact rotating rfl pair alternating "chat"
    unchanged_alternating⟩

/-- Whoever is interested in an event need not have a turn for as many routings on it as there are
interested, though the registrations stay the same: another event may take the turns. -/
theorem turn_taken_elsewhere :
    rotating.selection = .roundRobin ∧ Unchanged rotating pair alternating "chat" ∧
      (of rotating pair).interested "chat" "connect" = [0, 1] ∧
      (of rotating (pair ++ alternating)).routings "chat" =
        [⟨"connect", 0⟩, ⟨"user", 1⟩, ⟨"connect", 0⟩] :=
  ⟨rfl, unchanged_alternating, rfl, rfl⟩

end Course

end HubRelay
