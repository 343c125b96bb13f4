import HubRelay.Proofs.Exchange.Ledger
import HubRelay.Proofs.Switchboard.Hubs

/-!
Contract: what is handed over for clients.

Owns: handing a payload over for some clients and nobody else, that the three requests that send do
just this, and that nothing else hands anything over.

Does not own: for whom anything can be handed over at all.

Sends look for clients among those that a registry lists.  Books that are in order list everybody
who is held, so it is enough that nobody is attached who is not held.
-/

namespace HubRelay

/-- A client for which one payload more was handed over, if anything can be. -/
def Client.handed (client : Client) (payload : Payload) : Client :=
  { client with outbound := client.outbound.map (· ++ [payload]) }

theorem Client.handed_of_detached {client : Client} (detached : client.outbound = none)
    (payload : Payload) : client.handed payload = client := by
  rw [Client.handed, detached, Option.map_none, ← detached]

namespace Switchboard

/-- Whether anything can be handed over for a client. -/
def isAttached (board : Switchboard) (key : ClientKey) : Bool :=
  (board.outbound? key).isSome

/-- A payload is handed over for the clients that are chosen, and nothing else happens. -/
def handTo (board : Switchboard) (chosen : ClientKey → Client → Bool) (payload : Payload) :
    Switchboard :=
  { board with clients := board.clients.mapIdx fun key client =>
      if chosen key client then client.handed payload else client }

variable {board : Switchboard} {held : ClientKey → Bool} {chosen other : ClientKey → Client → Bool}
  {payload : Payload} {key : ClientKey} {client : Client}

theorem isAttached_of_client? (found : board.client? key = some client) :
    board.isAttached key = client.outbound.isSome := by
  rw [isAttached, outbound?_of_client? found]

theorem client?_handTo (board : Switchboard) (chosen : ClientKey → Client → Bool)
    (payload : Payload) (key : ClientKey) :
    (board.handTo chosen payload).client? key = (board.client? key).map fun client =>
      if chosen key client then client.handed payload else client :=
  List.getElem?_mapIdx

/-- It matters only who is chosen of those for whom anything can be handed over. -/
theorem handTo_congr (same : ∀ key client, board.client? key = some client →
      client.outbound.isSome = true → chosen key client = other key client) :
    board.handTo chosen payload = board.handTo other payload := by
  refine congrArg (fun clients => { board with clients := clients })
    (mapIdx_chosen_congr fun key client found => ?_)
  cases outbound : client.outbound with
  | none => exact Or.inl (Client.handed_of_detached outbound payload)
  | some waiting => exact Or.inr (same key client found (by rw [outbound]; rfl))

theorem handTo_of_nobody (nobody : ∀ key client, board.client? key = some client →
      client.outbound.isSome = true → chosen key client = false) :
    board.handTo chosen payload = board := by
  refine congrArg (fun clients => { board with clients := clients })
    (mapIdx_of_nobody fun key client found => ?_)
  cases outbound : client.outbound with
  | none => exact Or.inl (Client.handed_of_detached outbound payload)
  | some waiting => exact Or.inr (nobody key client found (by rw [outbound]; rfl))

theorem outbound?_handTo (found : board.client? key = some client) :
    (board.handTo chosen payload).outbound? key =
      if chosen key client then (board.outbound? key).map (· ++ [payload])
      else board.outbound? key := by
  rw [outbound?, client?_handTo, found, outbound?_of_client? found, Option.map_some,
    Option.bind_some]
  split <;> rfl

theorem isAttached_handTo (board : Switchboard) (chosen : ClientKey → Client → Bool)
    (payload : Payload) (key : ClientKey) :
    (board.handTo chosen payload).isAttached key = board.isAttached key := by
  cases found : board.client? key with
  | none =>
    have missing : (board.handTo chosen payload).client? key = none := by
      rw [client?_handTo, found, Option.map_none]
    rw [isAttached, isAttached, outbound?_of_missing missing, outbound?_of_missing found]
  | some client =>
    rw [isAttached, outbound?_handTo found, isAttached]
    split
    · rw [Option.isSome_map]
    · rfl

/-! ## One client -/

/-- A payload is handed over for one client, if anything can be. -/
theorem send_eq_handTo (board : Switchboard) (key : ClientKey) (payload : Payload) :
    board.send key payload =
      (board.isAttached key, board.handTo (fun other _ => other == key) payload) := by
  have attached : board.isAttached key = ((board.client? key).bind (·.outbound)).isSome := rfl
  unfold send
  cases outbound : (board.client? key).bind (·.outbound) with
  | none =>
    rw [attached, outbound, handTo_of_nobody]
    · rfl
    · intro other client found some
      refine beq_eq_false_iff_ne.2 fun same => ?_
      rw [← same, found, Option.bind_some] at outbound
      rw [outbound] at some
      contradiction
  | some waiting =>
    rw [attached, outbound]
    refine Prod.ext rfl ?_
    refine congrArg (fun clients => { board with clients := clients })
      (modify_eq_mapIdx fun client found => ?_)
    have own : client.outbound = some waiting := by
      rw [show board.client? key = some client from found, Option.bind_some] at outbound
      exact outbound
    rw [Client.handed, own]
    rfl

/-! ## All clients of a list -/

theorem handTo_handTo (apart : ∀ key client, chosen key client = true → other key client = false)
    (blind : ∀ key client, other key (client.handed payload) = other key client) :
    (board.handTo chosen payload).handTo other payload =
      board.handTo (fun key client => chosen key client || other key client) payload :=
  congrArg (fun clients => { board with clients := clients })
    (mapIdx_mapIdx_of_apart apart blind)

/-- A payload is handed over once for each client of a list for whom anything can be. -/
theorem sendAll_eq_handTo (payload : Payload) (keys : List ClientKey) (board : Switchboard)
    (once : keys.Nodup) :
    board.sendAll payload keys =
      (keys.countP board.isAttached, board.handTo (fun key _ => keys.contains key) payload) := by
  induction keys generalizing board with
  | nil =>
    have nobody : board.handTo (fun key _ => [].contains key) payload = board :=
      handTo_of_nobody fun _ _ _ _ => rfl
    rw [nobody]
    rfl
  | cons key keys inductionHypothesis =>
    obtain ⟨new, rest⟩ := List.nodup_cons.1 once
    have attached : (board.handTo (fun other _ => other == key) payload).isAttached =
        board.isAttached := funext fun other => isAttached_handTo _ _ _ _
    have together : (board.handTo (fun other _ => other == key) payload).handTo
          (fun other _ => keys.contains other) payload =
        board.handTo (fun other _ => (key :: keys).contains other) payload := by
      rw [handTo_handTo ?_ fun _ _ => rfl]
      · simp only [List.contains_cons]
      · intro other _ same
        rw [beq_iff_eq.1 same]
        simpa using new
    simp only [sendAll, send_eq_handTo, inductionHypothesis _ rest, attached, together,
      List.countP_cons]
    cases board.isAttached key <;> rfl

/-! ## The clients of a hub -/

/-- Whether nobody is attached who is not held. -/
def Attended (board : Switchboard) (held : ClientKey → Bool) : Prop :=
  ∀ key, board.isAttached key = true → held key = true

theorem Sound.registry_of_attached (sound : Sound board held none) (attended : board.Attended held)
    (found : board.client? key = some client) (attached : client.outbound.isSome = true) :
    ∃ registryKey registry, board.hub? client.hub = some registryKey ∧
      board.registryOf? registryKey = some registry ∧ key ∈ registry.clients := by
  have holds := attended key ((isAttached_of_client? found).trans attached)
  obtain ⟨registry, here, -⟩ := sound.registry_of_client found holds
  refine ⟨client.registry, registry, sound.clientMapped found holds, here, ?_⟩
  rw [sound.clients here]
  exact mem_indices.2 ⟨client, found, by simp [Client.isListed, holds]⟩

/-- A broadcast hands the payload over for every client of the hub for whom anything can be, and
counts these. -/
theorem broadcast_eq_handTo (sound : Sound board held none) (attended : board.Attended held)
    (hub : String) (payload : Payload) :
    board.broadcast hub payload =
      ((indices board.clients fun _ client => client.hub == hub && client.outbound.isSome).length,
        board.handTo (fun _ client => client.hub == hub) payload) := by
  unfold broadcast
  cases mapped : (board.hub? hub).bind board.registryOf? with
  | none =>
    have nobody (key : ClientKey) (client : Client) (found : board.client? key = some client)
        (attached : client.outbound.isSome = true) : (client.hub == hub) = false := by
      refine beq_eq_false_iff_ne.2 fun same => ?_
      obtain ⟨registryKey, registry, mappedThere, here, -⟩ :=
        sound.registry_of_attached attended found attached
      rw [← same, mappedThere, Option.bind_some, here] at mapped
      contradiction
    rw [handTo_of_nobody nobody, indices_eq_nil]
    · rfl
    · intro key client found
      cases attached : client.outbound.isSome with
      | false => exact Bool.and_false _
      | true => rw [nobody key client found attached, Bool.false_and]
  | some registry =>
    obtain ⟨registryKey, mapped, found⟩ := Option.bind_eq_some_iff.1 mapped
    have listed := sound.clients_eq mapped found
    have once : registry.clients.Nodup := by
      rw [listed]
      exact (nodup_indices _ _).filter _
    simp only [sendAll_eq_handTo payload _ board once]
    refine Prod.ext ?_ ?_
    · -- those of the list who are attached are those of the hub who are
      show registry.clients.countP board.isAttached = _
      have agrees (index : ClientKey) (client : Client)
          (here : board.clients[index]? = some client) :
          (board.isAttached index && board.clientIn hub index) =
            (client.hub == hub && client.outbound.isSome) := by
        rw [isAttached_of_client? here, clientIn, show board.client? index = some client from here,
          Option.any_some, Bool.and_comm]
      rw [listed, List.countP_eq_length_filter, List.filter_filter, filter_indices agrees]
      refine congrArg List.length (indices_congr fun index client here => ?_)
      cases attached : client.outbound.isSome with
      | false => simp
      | true => rw [attended index ((isAttached_of_client? here).trans attached), Bool.true_and]
    · refine handTo_congr fun index client here attached => ?_
      have holds := attended index ((isAttached_of_client? here).trans attached)
      rw [Bool.eq_iff_iff, List.contains_iff_mem, listed, List.mem_filter, mem_indices, clientIn,
        here, Option.any_some]
      exact ⟨fun member => member.2, fun same => ⟨⟨client, here, holds⟩, same⟩⟩

/-- A payload for the client of an id in a hub is handed over for this client, if anything can
be. -/
theorem sendToConnection_eq_handTo (sound : Sound board held none)
    (attended : board.Attended held) (hub id : String) (payload : Payload) :
    board.sendToConnection hub id payload =
      (board.clients.any fun client =>
          client.hub == hub && client.id == id && client.outbound.isSome,
        board.handTo (fun _ client => client.hub == hub && client.id == id) payload) := by
  unfold sendToConnection
  cases named : (board.hub? hub).bind (board.findClient · id) with
  | none =>
    have nobody (key : ClientKey) (client : Client) (found : board.client? key = some client)
        (attached : client.outbound.isSome = true) :
        (client.hub == hub && client.id == id) = false := by
      refine Bool.eq_false_iff.2 fun same => ?_
      obtain ⟨inHub, called⟩ := Bool.and_eq_true_iff.1 same
      obtain ⟨registryKey, registry, mapped, here, listed⟩ :=
        sound.registry_of_attached attended found attached
      rw [← beq_iff_eq.1 inHub, mapped, Option.bind_some, findClient, here] at named
      have unnamed := List.find?_eq_none.1 named key listed
      rw [found, Option.map_some, beq_iff_eq.1 called] at unnamed
      exact unnamed (decide_eq_true rfl)
    rw [handTo_of_nobody nobody, List.any_eq_false.2]
    intro client member
    obtain ⟨key, found⟩ := List.mem_iff_getElem?.1 member
    cases attached : client.outbound.isSome with
    | false => simp
    | true => simp [nobody key client found attached]
  | some key =>
    obtain ⟨registryKey, mapped, named⟩ := Option.bind_eq_some_iff.1 named
    rw [findClient] at named
    split at named
    · contradiction
    next registry found =>
    have listed := List.mem_of_find?_eq_some named
    have called : (board.client? key).map (·.id) = some id := by
      simpa using List.find?_some named
    obtain ⟨client, here, rfl⟩ := Option.map_eq_some_iff.1 called
    rw [sound.clients_eq mapped found] at listed
    have inHub : (client.hub == hub) = true := by
      have belongs := (List.mem_filter.1 listed).2
      rwa [clientIn, here, Option.any_some] at belongs
    -- nobody else has this id
    have alone (other : ClientKey) (same : Client) (there : board.client? other = some same) :
        (same.hub == hub && same.id == client.id) = (other == key) := by
      rw [Bool.eq_iff_iff, Bool.and_eq_true_iff, beq_iff_eq, beq_iff_eq, beq_iff_eq]
      constructor
      · exact fun both => sound.client_of_id here there both.2
      · rintro rfl
        obtain rfl : client = same := Option.some.inj (here.symm.trans there)
        exact ⟨beq_iff_eq.1 inHub, rfl⟩
    simp only [send_eq_handTo]
    refine Prod.ext ?_ (handTo_congr fun other same there _ => (alone other same there).symm)
    show board.isAttached key = _
    rw [isAttached_of_client? here, Bool.eq_iff_iff, List.any_eq_true]
    constructor
    · intro attached
      refine ⟨client, List.mem_of_getElem? here, ?_⟩
      rw [inHub, attached, beq_self_eq_true]
      rfl
    · rintro ⟨same, member, attached⟩
      obtain ⟨other, there⟩ := List.mem_iff_getElem?.1 member
      obtain ⟨named, attached⟩ := Bool.and_eq_true_iff.1 attached
      obtain rfl : other = key := beq_iff_eq.1 ((alone other same there).symm.trans named)
      obtain rfl : client = same := Option.some.inj (here.symm.trans there)
      exact attached

/-! ## What hands nothing over -/

/-- Nothing is handed over and nothing written, but perhaps for one client. -/
def Hushed (touched : Option ClientKey) (before after : Switchboard) : Prop :=
  ∀ key, touched ≠ some key → after.outbound? key = before.outbound? key

namespace Hushed

variable {touched : Option ClientKey} {first second third after : Switchboard}

theorem refl (board : Switchboard) : Hushed touched board board :=
  fun _ _ => rfl

theorem trans (one : Hushed touched first second) (two : Hushed touched second third) :
    Hushed touched first third :=
  fun key far => (two key far).trans (one key far)

theorem of_same (clients : after.clients = board.clients) : Hushed touched board after := by
  intro key _
  rw [outbound?, client?, clients]
  rfl

/-- Whoever is added has nothing handed over. -/
theorem of_concat {last : Client} (clients : after.clients = board.clients ++ [last])
    (detached : last.outbound = none) : Hushed touched board after := by
  intro key _
  rw [outbound?, outbound?, client?, client?, clients]
  rcases Nat.lt_trichotomy key board.clients.length with below | rfl | above
  · rw [List.getElem?_append_left below]
  · rw [List.getElem?_concat_length, Option.bind_some, detached,
      List.getElem?_eq_none (Nat.le_refl _)]
    rfl
  · rw [List.getElem?_eq_none (by rw [List.length_append, List.length_singleton]; omega),
      List.getElem?_eq_none (Nat.le_of_lt above)]

theorem updateClient (board : Switchboard) (key : ClientKey) {change : Client → Client}
    (kept : ∀ client, (change client).outbound = client.outbound) :
    Hushed touched board (board.updateClient key change) := by
  intro other _
  by_cases here : key = other
  · subst here
    rw [outbound?, outbound?, client?_updateClient_self]
    cases board.client? key with
    | none => rfl
    | some client => exact kept client
  · rw [outbound?, outbound?, client?_updateClient_ne board change here]

theorem touch (board : Switchboard) (key : ClientKey) (change : Client → Client) :
    Hushed (some key) board (board.updateClient key change) := by
  intro other far
  have different : key ≠ other := fun same => far (congrArg some same)
  rw [outbound?, outbound?, client?_updateClient_ne board change different]

end Hushed

variable (board) {touched : Option ClientKey}

theorem clients_enqueue (key : BackendKey) (event : Event) :
    (board.enqueue key event).2.clients = board.clients := by
  unfold enqueue
  split
  · rfl
  · split <;> rfl

theorem clients_notifyAll (hub : String) (payload : Payload) (keys : List BackendKey) :
    (board.notifyAll hub payload keys).2.clients = board.clients := by
  induction keys generalizing board with
  | nil => rfl
  | cons key keys inductionHypothesis =>
    have asked := clients_enqueue board key
      (.service hub (((board.backend? key).map (·.id)).getD "") payload)
    rw [notifyAll]
    simp only
    split
    · next later accepted =>
      rw [accepted] at asked
      exact (inductionHypothesis later).trans asked
    · next later refused =>
      rw [refused] at asked
      exact (inductionHypothesis later).trans asked

theorem clients_notify (hub : String) (payload : Payload) :
    (board.notify hub payload).2.clients = board.clients := by
  unfold notify
  split
  · rfl
  · exact clients_notifyAll board hub payload _

theorem clients_announceShutdown (hubs : List String) :
    (board.announceShutdown hubs).clients = board.clients := by
  induction hubs generalizing board with
  | nil => rfl
  | cons hub hubs inductionHypothesis =>
    exact (inductionHypothesis _).trans (clients_notify board hub shutdownNotice)

theorem clients_closeBackend (key : BackendKey) :
    (board.closeBackend key).clients = board.clients := by
  unfold closeBackend
  split
  · rfl
  · split
    · rfl
    · exact clients_prune _ _

theorem hushed_decide (key : ClientKey) (decision : Decision) :
    Hushed touched board (board.decide key decision).2 := by
  unfold Switchboard.decide
  split
  · exact .refl board
  · exact .updateClient board key fun _ => rfl

theorem hushed_acknowledge (hub : String) (approval : Approval) :
    Hushed touched board (board.acknowledge hub approval) := by
  unfold acknowledge tryAcknowledge
  split
  · exact .refl board
  · split
    · exact .refl board
    · exact hushed_decide board _ _

theorem hushed_lookAfter (key : ClientKey) : Hushed touched board (board.lookAfter key) := by
  unfold lookAfter
  split
  · exact .refl board
  · split
    · exact .refl board
    · exact .updateClient board key fun _ => rfl

theorem hushed_route (hub : String) (context : Context) (event : String) :
    Hushed touched board (board.route hub context event).2 := by
  have picks (key : RegistryKey) : (board.selectBackend key event).2.clients = board.clients := by
    unfold selectBackend
    split <;> rfl
  unfold route
  split
  · exact .refl board
  · next key _ =>
    have picked := picks key
    split
    · next later selected =>
      rw [selected] at picked
      exact .of_same picked
    · next backend later selected =>
      rw [selected] at picked
      unfold addClient
      simp only
      split
      · exact .of_same picked
      · exact .of_concat (congrArg (· ++ _) picked) rfl

theorem hushed_dropClient (key : ClientKey) :
    Hushed (some key) board (board.dropClient key) := by
  unfold dropClient
  split
  · exact .refl board
  · exact (Hushed.touch board key _).trans (.of_same (clients_prune _ _))

/-- Nothing can be handed over any more for a client that was let go of. -/
theorem outbound?_dropClient (key : ClientKey) : (board.dropClient key).outbound? key = none := by
  cases found : board.client? key with
  | none =>
    have nothing : board.dropClient key = board := by
      rw [dropClient, found]
    rw [nothing, outbound?_of_missing found]
  | some client =>
    exact outbound?_of_client? (@Tells.dropClient board ⟨key, 0⟩ client found).found

/-! ## Requests that send -/

/-- The clients that a request sends to, and what it sends. -/
def Request.parcel? : Request → Option ((ClientKey → Client → Bool) × Payload)
  | .send client payload => some (fun key _ => key == client, payload)
  | .broadcast hub payload => some (fun _ client => client.hub == hub, payload)
  | .sendToConnection hub connectionId payload =>
    some (fun _ client => client.hub == hub && client.id == connectionId, payload)
  | _ => none

/-- A request that sends hands its payload over, and does nothing else. -/
theorem perform_of_parcel {board : Switchboard} {request : Request}
    (sound : Sound board held none) (attended : board.Attended held)
    (sends : request.parcel? = some (chosen, payload)) :
    board.perform request = board.handTo chosen payload := by
  cases request with
  | send client payload =>
    cases sends
    exact congrArg Prod.snd (send_eq_handTo board client payload)
  | broadcast hub payload =>
    cases sends
    exact congrArg Prod.snd (broadcast_eq_handTo sound attended hub payload)
  | sendToConnection hub connectionId payload =>
    cases sends
    exact congrArg Prod.snd (sendToConnection_eq_handTo sound attended hub connectionId payload)
  | _ => contradiction

/-- Every other request hands nothing over. -/
theorem hushed_perform {request : Request} (silent : request.parcel? = none) :
    Hushed touched board (board.perform request) := by
  cases request with
  | register hub identity events => exact .of_same (clients_tryRegister board hub identity events)
  | close key => exact .of_same (clients_closeBackend board key)
  | drop key => exact .of_same (clients_closeBackend board key)
  | enqueue key event => exact .of_same (clients_enqueue board key event)
  | receive key =>
    simp only [perform, receive]
    split <;> exact .of_same rfl
  | flush key outcomes =>
    simp only [perform, flush]
    split <;> exact .of_same rfl
  | drain key outcomes =>
    simp only [perform, drain]
    split <;> exact .of_same rfl
  | notify hub payload => exact .of_same (clients_notify board hub payload)
  | route hub context event => exact hushed_route board hub context event
  | decide key decision => exact hushed_decide board key decision
  | acknowledge hub approval => exact hushed_acknowledge board hub approval
  | send _ _ | broadcast _ _ | sendToConnection _ _ _ => contradiction
  | watch key | unwatch key => exact .updateClient board key fun _ => rfl
  | lookAfter key => exact hushed_lookAfter board key
  | shutdown => exact .of_same (clients_announceShutdown board _)
  | pass milliseconds => exact .of_same rfl

end Switchboard

open Switchboard

/-! ## Relays -/

namespace Loop

variable (board : Switchboard) (connection : Connection) {loop : Loop}

theorem hushed_leave (result : Except RelayError RelayEnd) :
    Hushed (some connection.client) board (leave board connection loop result).1 :=
  .touch board connection.client _

theorem clients_pass (payload : Payload) :
    (pass board connection payload).2.clients = board.clients := by
  unfold pass
  split
  · rfl
  · exact clients_enqueue board connection.backend _

theorem hushed_finish : Hushed (some connection.client) board (finish board connection) := by
  have announced : (announceDeparture board connection).clients = board.clients := by
    unfold announceDeparture
    split
    · rfl
    · split
      · exact clients_enqueue board connection.backend _
      · rfl
  exact (Hushed.of_same announced).trans (hushed_dropClient _ connection.client)

/-- A relay hands nothing over for the clients of others. -/
theorem hushed_step {branch : Branch} {later : Switchboard} {outcome : Outcome}
    (stepped : step board connection loop branch = some (later, outcome)) :
    Hushed (some connection.client) board later := by
  cases branch with
  | stop =>
    simp only [step, stepStop] at stepped
    split at stepped
    · obtain rfl := congrArg Prod.fst (Option.some.inj stepped)
      exact hushed_leave board connection _
    · contradiction
  | outbound =>
    simp only [step, stepOutbound] at stepped
    split at stepped
    · contradiction
    · contradiction
    · next payload waiting _ =>
      have written := Hushed.touch board connection.client fun client =>
        { client with outbound := some waiting }
      split at stepped
      · obtain rfl := congrArg Prod.fst (Option.some.inj stepped)
        exact written
      · obtain rfl := congrArg Prod.fst (Option.some.inj stepped)
        exact written.trans (hushed_leave _ connection _)
  | inbound =>
    simp only [step, stepInbound] at stepped
    split at stepped
    · contradiction
    · split at stepped
      · split at stepped
        · contradiction
        · obtain rfl := congrArg Prod.fst (Option.some.inj stepped)
          exact .refl board
      · obtain rfl := congrArg Prod.fst (Option.some.inj stepped)
        exact .refl board
      · obtain rfl := congrArg Prod.fst (Option.some.inj stepped)
        exact hushed_leave board connection _
      · obtain rfl := congrArg Prod.fst (Option.some.inj stepped)
        exact hushed_leave board connection _
      · next payload _ =>
        have passed := clients_pass board connection payload
        split at stepped
        · next accepted =>
          rw [accepted] at passed
          obtain rfl := congrArg Prod.fst (Option.some.inj stepped)
          exact .of_same passed
        · next refused =>
          rw [refused] at passed
          obtain rfl := congrArg Prod.fst (Option.some.inj stepped)
          exact (Hushed.of_same passed).trans (hushed_leave _ connection _)

end Loop

theorem Relay.hushed_act (board : Switchboard) (relay : Relay) (action : RelayAction) :
    Hushed (some relay.connection.client) board (relay.act board action).1 := by
  obtain ⟨connection, phase⟩ := relay
  have unchanged : Hushed (some connection.client) board board := .refl board
  cases action with
  | await | feed _ | endSource => cases phase <;> exact unchanged
  | settle =>
    cases phase with
    | awaiting =>
      simp only [act, settle]
      split
      · exact unchanged
      · split
        · exact unchanged
        · exact .touch board connection.client _
        · exact (Hushed.touch board connection.client _).trans (hushed_dropClient _ _)
    | _ => exact unchanged
  | run source room failure =>
    cases phase with
    | approved subProtocol => exact .touch board connection.client _
    | _ => exact unchanged
  | step branch =>
    cases phase with
    | running loop =>
      simp only [act]
      split
      · exact unchanged
      · next stepped => exact Loop.hushed_step board connection stepped
    | _ => exact unchanged
  | finish =>
    cases phase with
    | leaving result sink => exact Loop.hushed_finish board connection
    | _ => exact unchanged
  | drop =>
    simp only [act]
    split
    · exact hushed_dropClient board connection.client
    · exact unchanged

end HubRelay
