import HubRelay.Proofs.Isolation.Relays

/-!
Contract: whatever happens in one hub comes to the same where there is nothing else.

Owns: an exchange cut down to a hub, which actions are for the hub, what is answered to them, and
that these commute with cutting down while the others do not show.

Does not own: courses of actions.
-/

namespace HubRelay

open Switchboard

namespace Exchange

/-- Whether the client of a relay belongs to a hub. -/
def hasRelay (exchange : Exchange) (hub : String) (relay : Relay) : Bool :=
  exchange.board.clientHub? relay.connection.client == some hub

/-- An exchange cut down to a hub. -/
def within (exchange : Exchange) (hub : String) (numbers : Renumbering) : Exchange where
  board := exchange.board.within hub numbers
  relays := cut exchange.relays (exchange.hasRelay hub) (·.renumbered numbers)

/-- The numbers fit an exchange. -/
structure Placed (exchange : Exchange) (hub : String) (numbers : Renumbering) : Prop where
  board : exchange.board.Placed hub numbers
  relays : Fits numbers.relay exchange.relays (exchange.hasRelay hub)

/-- The switchboard is tidy, and every relay stays within a hub. -/
structure Tidy (exchange : Exchange) : Prop where
  board : exchange.board.Tidy
  relays : ∀ relay ∈ exchange.relays, ∃ hub, relay.connection.Belongs exchange.board hub

/-- What is answered to whoever has something happen. -/
def reply (exchange : Exchange) : Action → Reply
  | .request request => exchange.board.reply request
  | .release _ => .done
  | .openRelay hub context => .opened (exchange.openRelay hub context).1
  | .relay key action => .reached ((exchange.performRelay key action).phase? key)

end Exchange

namespace Action

def renumbered (numbers : Renumbering) : Action → Action
  | .request asked => .request (asked.renumbered numbers)
  | .release client => .release (numbers.client client)
  | .openRelay hub context => .openRelay hub context
  | .relay key action => .relay (numbers.relay key) action

/-- Whether an action is left when all that is about other hubs is taken out: it is common to all
hubs, it names the hub, or it is done to something of the hub. -/
def isFor (exchange : Exchange) (hub : String) : Action → Bool
  | .request asked => asked.isFor exchange.board hub
  | .release client => exchange.board.clientHub? client == some hub
  | .openRelay name _ => name == hub
  | .relay key _ => (exchange.relay? key).any (exchange.hasRelay hub)

end Action

namespace Exchange

variable {exchange : Exchange} {hub : String} {numbers : Renumbering} {action : Action}

/-! ## Relays stay where they are -/

/-- A client is routed within a hub. -/
theorem belongs_route {board routed : Switchboard} (tidy : board.Tidy) {context : Context}
    {event : String} {backend : BackendKey} {client : ClientKey}
    (routing : board.route hub context event = (.ok (backend, client), routed)) :
    Connection.Belongs routed hub ⟨client, backend⟩ := by
  obtain ⟨held, sound⟩ := tidy.sound
  obtain ⟨rfl, -, ⟨entry, clients, named, -⟩, -⟩ := sound.route_ok routing
  have lasting := lasting_route board hub context event
  rw [routing] at lasting
  constructor
  case client =>
    rw [clientHub?, client?, clients, List.getElem?_concat_length, Option.map_some, named]
  case backend =>
    refine lasting.backendHub? ?_
    rcases board.route_cases hub context event with
      ⟨error, later, refused, -⟩ | ⟨key, choice, picked, mapped, selected, answered⟩
    · rw [routing] at refused
      cases refused
    · rw [routing] at answered
      cases answered
      exact tidy.zoned.selectBackend (tidy.zoned.mapped mapped) selected

theorem connections_setPhase (exchange : Exchange) (key : RelayKey) (phase : RelayPhase) :
    (exchange.setPhase key phase).relays.map (·.connection) =
      exchange.relays.map (·.connection) :=
  map_modify_of_same _ key _ _ fun _ _ => rfl

/-- Relays are only added, each between a client and a backend of one hub. -/
theorem connections_perform (tidy : exchange.board.Tidy) (action : Action) :
    Extends (fun connection => ∃ hub, connection.Belongs (exchange.perform action).board hub)
      (exchange.relays.map (·.connection))
      ((exchange.perform action).relays.map (·.connection)) := by
  cases action with
  | request request => exact .of_eq rfl
  | release client =>
    refine .of_eq ?_
    show (exchange.release client).relays.map _ = _
    unfold Exchange.release
    split <;> rfl
  | openRelay name context =>
    rcases exchange.openRelay_cases name context with
      ⟨error, later, -, opened⟩ |
      ⟨backend, client, routed, routing, ⟨error, -, opened⟩ | ⟨-, opened⟩⟩
    · rw [opened]
      exact .of_eq rfl
    · rw [opened]
      exact .of_eq rfl
    · rw [opened]
      refine ⟨[⟨client, backend⟩], List.map_append, fun connection among => ⟨name, ?_⟩⟩
      rw [List.mem_singleton.1 among]
      exact (belongs_route tidy routing).of_lasting (lasting_enqueue routed backend _)
  | relay key action =>
    refine .of_eq ?_
    cases found : exchange.relay? key with
    | none => rw [perform, performRelay_of_missing found]
    | some relay =>
      rw [perform, performRelay_eq found, connections_setPhase]

theorem Tidy.perform (tidy : exchange.Tidy) (tidyThen : (exchange.perform action).board.Tidy) :
    (exchange.perform action).Tidy where
  board := tidyThen
  relays := by
    intro relay among
    have lasting := exchange.lasting_perform action
    refine ((connections_perform tidy.board action).mem (List.mem_map_of_mem among)).elim
      (fun before => ?_) id
    obtain ⟨same, amongBefore, connection⟩ := List.mem_map.1 before
    obtain ⟨hub, belongs⟩ := tidy.relays same amongBefore
    exact ⟨hub, connection ▸ belongs.of_lasting lasting⟩

/-- A relay that is there stays a relay of its hub. -/
theorem hasRelay_of_lasting (tidy : exchange.Tidy) (later : Exchange)
    (lasting : Lasting exchange.board later.board) {relay : Relay}
    (among : relay ∈ exchange.relays) :
    later.hasRelay hub relay = exchange.hasRelay hub relay := by
  obtain ⟨named, belongs⟩ := tidy.relays relay among
  rw [hasRelay, hasRelay, belongs.client, lasting.clientHub? belongs.client]

/-- Numbers that fit after an action fit before. -/
theorem Placed.of_perform (tidy : exchange.Tidy)
    (placed : (exchange.perform action).Placed hub numbers) : exchange.Placed hub numbers where
  board := placed.board.of_lasting (exchange.lasting_perform action)
  relays := by
    refine placed.relays.of_prefix ?_
    have lasting := exchange.lasting_perform action
    have grown := (connections_perform tidy.board action).isPrefix.map fun connection =>
      (exchange.perform action).board.clientHub? connection.client == some hub
    rw [List.map_map, List.map_map] at grown
    refine Eq.mp (congrArg (· <+: _) ?_) grown
    exact List.map_congr_left fun relay among => hasRelay_of_lasting tidy _ lasting among

/-! ## Changing the switchboard or one relay -/

/-- The relays that show are the same after the switchboard was changed. -/
theorem within_withBoard (tidy : exchange.Tidy) {later : Switchboard}
    (lasting : Lasting exchange.board later) :
    Exchange.within ⟨later, exchange.relays⟩ hub numbers =
      ⟨later.within hub numbers, (exchange.within hub numbers).relays⟩ := by
  refine congrArg (Exchange.mk (later.within hub numbers) ∘ List.map _) ?_
  exact List.filter_congr fun relay among =>
    hasRelay_of_lasting tidy ⟨later, exchange.relays⟩ lasting among

theorem within_of_board (tidy : exchange.Tidy) {later : Switchboard}
    (lasting : Lasting exchange.board later)
    (same : later.within hub numbers = exchange.board.within hub numbers) :
    Exchange.within ⟨later, exchange.relays⟩ hub numbers = exchange.within hub numbers := by
  rw [within_withBoard tidy lasting, same]
  rfl

theorem within_setPhase_of_other {key : RelayKey} {relay : Relay}
    (found : exchange.relay? key = some relay) (other : exchange.hasRelay hub relay = false)
    (phase : RelayPhase) :
    (exchange.setPhase key phase).within hub numbers = exchange.within hub numbers := by
  refine congrArg (Exchange.mk (exchange.board.within hub numbers)) ?_
  refine cut_modify_other fun same here => ?_
  obtain rfl : relay = same := Option.some.inj (found.symm.trans here)
  exact ⟨other, other⟩

theorem within_setPhase {key : RelayKey} {relay : Relay}
    (fits : Fits numbers.relay exchange.relays (exchange.hasRelay hub))
    (found : exchange.relay? key = some relay) (own : exchange.hasRelay hub relay = true)
    (phase : RelayPhase) :
    (exchange.setPhase key phase).within hub numbers =
      (exchange.within hub numbers).setPhase (numbers.relay key) phase :=
  congrArg (Exchange.mk (exchange.board.within hub numbers)) (fits.cut_modify found own own rfl)

/-! ## Actions that are for others -/

theorem within_dropClient_of_other {board : Switchboard} (zoned : board.Zoned) {key : ClientKey}
    (other : board.clientHub? key ≠ some hub) :
    (board.dropClient key).within hub numbers = board.within hub numbers := by
  cases about : board.clientHub? key with
  | none =>
    have missing : board.client? key = none := Option.map_eq_none_iff.1 about
    rw [dropClient, missing]
  | some named =>
    refine within_of_confined _ (confined_dropClient zoned about) ?_
    rintro rfl
    exact other about

/-- A relay that is opened for another hub does not show. -/
theorem within_openRelay_of_other (tidy : exchange.Tidy) {name : String} (apart : hub ≠ name)
    (context : Context) :
    (exchange.perform (.openRelay name context)).within hub numbers =
      exchange.within hub numbers := by
  have lasting := exchange.lasting_perform (.openRelay name context)
  have routes := within_of_confined numbers
    (confined_route tidy.board.zoned name context connectEvent) apart
  rcases exchange.openRelay_cases name context with
    ⟨error, routed, refused, opened⟩ | ⟨backend, client, routed, routing, answer⟩
  · rw [refused] at routes
    rw [opened] at lasting ⊢
    exact within_of_board tidy lasting routes
  · have belongs := belongs_route tidy.board routing
    rw [routing] at routes
    rcases answer with ⟨error, -, opened⟩ | ⟨-, opened⟩
    · rw [opened] at lasting ⊢
      refine within_of_board tidy lasting (Eq.trans ?_ routes)
      exact within_of_confined _
        (confined_dropClient (tidy.board.of_route routing).zoned belongs.client) apart
    · rw [opened] at lasting ⊢
      have asked := within_of_confined numbers (confined_enqueue belongs.backend
        (.connect name (routedId routed client) context)) apart
      have belongsLater := belongs.of_lasting (lasting_enqueue routed backend
        (.connect name (routedId routed client) context))
      have other : hasRelay ⟨(routed.enqueue backend
          (.connect name (routedId routed client) context)).2, exchange.relays⟩ hub
            ⟨⟨client, backend⟩, .pending⟩ = false := by
        rw [hasRelay, belongsLater.client]
        exact beq_eq_false_iff_ne.2 fun same => apart (Option.some.inj same).symm
      refine Eq.trans ?_ (within_of_board tidy lasting (asked.trans routes))
      refine congrArg (Exchange.mk _) ?_
      exact cut_concat_other exchange.relays (hasRelay _ hub) _ other

/-- An action for others does not show. -/
theorem within_perform_of_other (tidy : exchange.Tidy)
    (other : action.isFor exchange hub = false) :
    (exchange.perform action).within hub numbers = exchange.within hub numbers := by
  have lasting := exchange.lasting_perform action
  cases action with
  | request request =>
    exact within_of_board tidy lasting
      (Switchboard.within_perform_of_other tidy.board.zoned other)
  | release client =>
    show (exchange.release client).within hub numbers = _
    unfold Exchange.release
    split
    · rfl
    · exact within_of_board tidy (lasting_dropClient _ client)
        (within_dropClient_of_other tidy.board.zoned (beq_eq_false_iff_ne.1 other))
  | openRelay name context =>
    exact within_openRelay_of_other tidy (beq_eq_false_iff_ne.1 other).symm context
  | relay key action =>
    cases found : exchange.relay? key with
    | none => rw [perform, performRelay_of_missing found]
    | some relay =>
      rw [Action.isFor, found, Option.any_some] at other
      obtain ⟨named, belongs⟩ := tidy.relays relay (List.mem_of_getElem? found)
      have apart : hub ≠ named := by
        rintro rfl
        rw [hasRelay, belongs.client, beq_self_eq_true] at other
        contradiction
      rw [perform, performRelay_eq found] at lasting ⊢
      have acted := within_of_confined numbers
        (relay.confined_act tidy.board belongs action) apart
      let acts : Exchange := ⟨(relay.act exchange.board action).1, exchange.relays⟩
      have foundThen : acts.relay? key = some relay := found
      have otherThen : acts.hasRelay hub relay = false :=
        (hasRelay_of_lasting tidy acts lasting (List.mem_of_getElem? found)).trans other
      exact (within_setPhase_of_other foundThen otherThen _).trans
        (within_of_board tidy lasting acted)

/-! ## Actions that are for the hub -/

/-- Whether a client is with a relay is the same there. -/
theorem isRelayed_within {client : ClientKey} (own : exchange.board.clientHub? client = some hub) :
    (exchange.within hub numbers).isRelayed (numbers.client client) =
      exchange.isRelayed client := by
  have known {relay : Relay} (with_ : relay.connection.client = client) :
      exchange.hasRelay hub relay = true := by
    rw [hasRelay, with_, own, beq_self_eq_true]
  rw [isRelayed, isRelayed, Bool.eq_iff_iff, List.any_eq_true, List.any_eq_true]
  constructor
  · rintro ⟨relay, among, same⟩
    obtain ⟨before, amongBefore, rfl⟩ := List.mem_map.1 among
    exact ⟨before, (List.mem_filter.1 amongBefore).1,
      beq_iff_eq.2 (numbers.client.injective (beq_iff_eq.1 same))⟩
  · rintro ⟨relay, among, same⟩
    have with_ := beq_iff_eq.1 same
    exact ⟨relay.renumbered numbers,
      List.mem_map_of_mem (List.mem_filter.2 ⟨among, known with_⟩),
      beq_iff_eq.2 (congrArg numbers.client with_)⟩

theorem openRelay_of_refused {context : Context} {error : RouteError} {later : Switchboard}
    (refused : exchange.board.route hub context connectEvent = (.error error, later)) :
    exchange.openRelay hub context = (.error (.route error), ⟨later, exchange.relays⟩) := by
  rw [openRelay, refused]

theorem openRelay_of_routed {context : Context} {backend : BackendKey} {client : ClientKey}
    {routed : Switchboard} {entry : Client}
    (routing : exchange.board.route hub context connectEvent = (.ok (backend, client), routed))
    (found : routed.client? client = some entry) :
    exchange.openRelay hub context =
      match routed.enqueue backend (.connect hub entry.id context) with
      | (.error error, later) =>
        (.error (.route error), ⟨later.dropClient client, exchange.relays⟩)
      | (.ok (), later) =>
        (.ok exchange.relays.length,
          ⟨later, exchange.relays ++ [⟨⟨client, backend⟩, .pending⟩]⟩) := by
  have id : ((routed.client? client).map (·.id)).getD "" = entry.id := by rw [found]; rfl
  cases asked : routed.enqueue backend (.connect hub entry.id context) with
  | mk answer later => cases answer <;> simp only [openRelay, routing, id, asked]

theorem issuedIn_dropClient (board : Switchboard) (key : ClientKey) :
    (board.dropClient key).issuedIn hub = board.issuedIn hub := by
  refine issuedIn_congr hub (congrArg _ (backends_dropClient board key)) ?_
  unfold Switchboard.dropClient
  split
  · rfl
  · refine (congrArg _ (clients_prune _ _)).trans ?_
    exact map_modify_of_same board.clients key _ _ fun _ _ => rfl

/-- Once the client has been routed there, the backend is asked there. -/
theorem openRelay_within {context : Context} {backend : BackendKey} {client : ClientKey}
    {routed : Switchboard} {entry : Client} (placed : routed.Placed hub numbers)
    (belongs : Connection.Belongs routed hub ⟨client, backend⟩)
    (found : routed.client? client = some entry)
    (routing : (exchange.within hub numbers).board.route hub context connectEvent =
      (.ok (numbers.backend backend, numbers.client client), routed.within hub numbers)) :
    (exchange.within hub numbers).openRelay hub context =
      match routed.enqueue backend (.connect hub entry.id context) with
      | (.error error, later) =>
        (.error (.route error), ⟨(later.within hub numbers).dropClient (numbers.client client),
          (exchange.within hub numbers).relays⟩)
      | (.ok (), later) =>
        (.ok (exchange.within hub numbers).relays.length, ⟨later.within hub numbers,
          (exchange.within hub numbers).relays ++
            [⟨⟨numbers.client client, numbers.backend backend⟩, .pending⟩]⟩) := by
  obtain ⟨same, here, -, there⟩ := placed.client? belongs.client
  obtain rfl : entry = same := Option.some.inj (found.symm.trans here)
  have asked : (routed.within hub numbers).enqueue (numbers.backend backend)
      (.connect hub (entry.renumbered numbers).id context) = _ :=
    placed.enqueue belongs.backend (.connect hub entry.id context)
  rw [openRelay_of_routed routing there, asked]
  rcases routed.enqueue backend (.connect hub entry.id context) with ⟨answer, later⟩
  cases answer <;> rfl

theorem Placed.openRelay {context : Context} (tidy : exchange.Tidy)
    (placed : (exchange.openRelay hub context).2.Placed hub numbers)
    (named : Named exchange.board (exchange.openRelay hub context).2.board hub numbers) :
    (exchange.within hub numbers).openRelay hub context =
      ((exchange.openRelay hub context).1.map numbers.relay,
        (exchange.openRelay hub context).2.within hub numbers) := by
  have lasting : Lasting exchange.board (exchange.openRelay hub context).2.board :=
    exchange.lasting_perform (.openRelay hub context)
  have routes (placedRouted :
        (exchange.board.route hub context connectEvent).2.Placed hub numbers)
      (issued : (exchange.board.route hub context connectEvent).2.issuedIn hub =
        (exchange.openRelay hub context).2.board.issuedIn hub) :
      (exchange.within hub numbers).board.route hub context connectEvent = _ :=
    Switchboard.Placed.route placedRouted tidy.board.zoned fun given => named (issued ▸ given)
  cases routing : exchange.board.route hub context connectEvent with
  | mk answer routed =>
    rw [routing] at routes
    cases answer with
    | error error =>
      rw [openRelay_of_refused routing] at placed lasting routes ⊢
      rw [openRelay_of_refused (routes placed.board rfl), within_withBoard tidy lasting]
      rfl
    | ok route =>
      obtain ⟨backend, client⟩ := route
      have belongs := belongs_route tidy.board routing
      obtain ⟨entry, found, -⟩ := Option.map_eq_some_iff.1 belongs.client
      have traffic : Traffic none routed
          (routed.enqueue backend (.connect hub entry.id context)).2 :=
        traffic_enqueue routed backend _
      have tidyLater := (tidy.board.of_route routing).of_traffic traffic
      have belongsLater := belongs.of_lasting (lasting_of_traffic traffic)
      have asks := fun placedRouted issued =>
        openRelay_within placedRouted belongs found (routes placedRouted issued)
      rw [openRelay_of_routed routing found] at placed lasting asks ⊢
      cases asked : routed.enqueue backend (.connect hub entry.id context) with
      | mk answer later =>
        rw [asked] at placed lasting traffic tidyLater belongsLater asks
        cases answer with
        | error error =>
          have placedLater := placed.board.of_lasting (lasting_dropClient later client)
          have dropped := placedLater.dropClient tidyLater.zoned belongsLater.client
          have there := asks (placedLater.of_lasting (lasting_of_traffic traffic))
            ((issuedIn_of_books hub traffic.books).symm.trans
              (issuedIn_dropClient later client).symm)
          rw [there, within_withBoard tidy lasting]
          exact Prod.ext rfl (congrArg (Exchange.mk · _) dropped)
        | ok _ =>
          let after : Exchange := ⟨later, exchange.relays ++ [⟨⟨client, backend⟩, .pending⟩]⟩
          have own : after.hasRelay hub ⟨⟨client, backend⟩, .pending⟩ = true := by
            rw [hasRelay, belongsLater.client, beq_self_eq_true]
          have relays : cut exchange.relays (after.hasRelay hub) (·.renumbered numbers) =
              (exchange.within hub numbers).relays :=
            congrArg (List.map _) (List.filter_congr fun relay among =>
              hasRelay_of_lasting tidy after lasting among)
          have number := placed.relays.cut_length own (Relay.renumbered numbers)
          have added := cut_concat_chosen exchange.relays (after.hasRelay hub)
            (·.renumbered numbers) own
          have there := asks (placed.board.of_lasting (lasting_of_traffic traffic))
            (issuedIn_of_books hub traffic.books).symm
          rw [there]
          refine Prod.ext (congrArg Except.ok ?_) (congrArg (Exchange.mk _) ?_)
          · exact (congrArg List.length relays).symm.trans number.symm
          · exact (congrArg (· ++ [_]) relays).symm.trans added.symm

/-- What a relay of the hub does comes to the same there. -/
theorem Placed.performRelay (tidy : exchange.Tidy) {key : RelayKey} {act : RelayAction}
    (placed : exchange.Placed hub numbers) {relay : Relay}
    (found : exchange.relay? key = some relay) (own : exchange.hasRelay hub relay = true) :
    ((exchange.within hub numbers).performRelay (numbers.relay key) act).phase?
        (numbers.relay key) = (exchange.performRelay key act).phase? key ∧
      (exchange.within hub numbers).performRelay (numbers.relay key) act =
        (exchange.performRelay key act).within hub numbers := by
  have there : (exchange.within hub numbers).relay? (numbers.relay key) =
      some (relay.renumbered numbers) := placed.relays.getElem?_cut found own _
  obtain ⟨named, belongs⟩ := tidy.relays relay (List.mem_of_getElem? found)
  obtain rfl : named = hub := by
    rw [hasRelay, belongs.client] at own
    exact Option.some.inj (beq_iff_eq.1 own)
  have acted : (relay.renumbered numbers).act (exchange.within named numbers).board act = _ :=
    relay.within_act placed.board tidy.board belongs act
  constructor
  · rw [phase?, phase?, relay?_performRelay_self found, relay?_performRelay_self there, acted]
    rfl
  · have lasting : Lasting exchange.board (exchange.performRelay key act).board :=
      exchange.lasting_perform (.relay key act)
    rw [performRelay_eq found] at lasting ⊢
    rw [performRelay_eq there, acted]
    let acts : Exchange := ⟨(relay.act exchange.board act).1, exchange.relays⟩
    have foundThen : acts.relay? key = some relay := found
    have ownThen : acts.hasRelay named relay = true :=
      (hasRelay_of_lasting tidy acts lasting (List.mem_of_getElem? found)).trans own
    have fits : Fits numbers.relay acts.relays (acts.hasRelay named) :=
      placed.relays.congr fun relay among => hasRelay_of_lasting tidy acts lasting among
    have phased := within_setPhase fits foundThen ownThen (relay.act exchange.board act).2
    have moved : acts.within named numbers = _ := within_withBoard tidy lasting
    rw [moved] at phased
    exact phased.symm

/-- Whatever happens in the hub comes to the same where there is nothing else, and is answered the
same. -/
theorem Placed.perform (tidy : exchange.Tidy)
    (placed : (exchange.perform action).Placed hub numbers)
    (named : Named exchange.board (exchange.perform action).board hub numbers)
    (own : action.isFor exchange hub = true) :
    (exchange.within hub numbers).reply (action.renumbered numbers) =
        (exchange.reply action).renumbered numbers ∧
      (exchange.within hub numbers).perform (action.renumbered numbers) =
        (exchange.perform action).within hub numbers := by
  have lasting := exchange.lasting_perform action
  have placedBefore := placed.of_perform tidy
  cases action with
  | request request =>
    obtain ⟨answered, after⟩ := Switchboard.Placed.perform placed.board tidy.board named own
    refine ⟨answered, ?_⟩
    exact (congrArg (Exchange.mk · _) after).trans (within_withBoard tidy lasting).symm
  | release client =>
    refine ⟨rfl, ?_⟩
    have ownClient : exchange.board.clientHub? client = some hub := beq_iff_eq.1 own
    have relayed : (exchange.within hub numbers).isRelayed (numbers.client client) =
        exchange.isRelayed client := isRelayed_within ownClient
    have dropped := placedBefore.board.dropClient tidy.board.zoned ownClient
    show (exchange.within hub numbers).release (numbers.client client) =
      (exchange.release client).within hub numbers
    simp only [Exchange.release, relayed]
    split
    · rfl
    · rw [within_withBoard tidy (lasting_dropClient _ client), ← dropped]
      rfl
  | openRelay name context =>
    obtain rfl : name = hub := beq_iff_eq.1 own
    obtain ⟨answered, after⟩ := Prod.ext_iff.1 (Placed.openRelay tidy placed named)
    exact ⟨congrArg Reply.opened answered, after⟩
  | relay key act =>
    obtain ⟨relay, found, ownRelay⟩ := (Option.any_eq_true _ _).1 own
    obtain ⟨answered, after⟩ := placedBefore.performRelay tidy found ownRelay
    exact ⟨congrArg Reply.reached answered, after⟩

end Exchange

end HubRelay
