import HubRelay.Proofs.Switchboard.Hubs

/-!
Contract: whom the id of a connection names in a hub.

Owns: that an id names exactly the client of the hub that has it and that somebody holds, what an
acknowledgement and a single send are answered, and what an acknowledgement does for an id that
names a client and for one that does not.

Does not own: who holds which client.

Decisions and single sends look a client up in two steps, the registry of the hub and then the list
of that registry.  What both steps together find does not depend on the registry any more.
-/

namespace HubRelay

namespace Switchboard

/-- The client that an id names in a hub. -/
def named? (board : Switchboard) (hub id : String) : Option ClientKey :=
  (board.hub? hub).bind (board.findClient · id)

variable {board : Switchboard} {held : ClientKey → Bool} {hub id : String} {key : ClientKey}
  {client : Client} {approval : Approval}

theorem named?_of_absent (absent : board.hub? hub = none) (id : String) :
    board.named? hub id = none := by
  rw [named?, absent, Option.bind_none]

theorem named?_of_mapped {registry : RegistryKey} (mapped : board.hub? hub = some registry)
    (id : String) : board.named? hub id = board.findClient registry id := by
  rw [named?, mapped, Option.bind_some]

/-- An id names the client of the hub that has it, if somebody holds this client. -/
theorem Sound.named?_eq_some_iff (sound : Sound board held none) :
    board.named? hub id = some key ↔
      held key = true ∧ ∃ client, board.client? key = some client ∧ client.hub = hub ∧
        client.id = id := by
  constructor
  · intro named
    obtain ⟨registryKey, mapped, listed⟩ := Option.bind_eq_some_iff.1 named
    rw [findClient] at listed
    split at listed
    · contradiction
    next registry found =>
    have called : (board.client? key).map (·.id) = some id := by
      simpa using List.find?_some listed
    obtain ⟨client, here, rfl⟩ := Option.map_eq_some_iff.1 called
    have member := List.mem_of_find?_eq_some listed
    rw [sound.clients_eq mapped found, List.mem_filter, mem_indices, clientIn, here,
      Option.any_some, beq_iff_eq] at member
    obtain ⟨⟨_, _, holds⟩, inHub⟩ := member
    exact ⟨holds, client, here, inHub, rfl⟩
  · rintro ⟨holds, client, here, rfl, rfl⟩
    obtain ⟨registry, found, -⟩ := sound.registry_of_client here holds
    rw [named?_of_mapped (sound.clientMapped here holds), findClient, found]
    have listed : key ∈ registry.clients := by
      rw [sound.clients found]
      exact mem_indices.2 ⟨client, here, by simp [Client.isListed, holds]⟩
    -- somebody of the list has this id, and nobody else has it
    cases search : registry.clients.find? fun other =>
        (board.client? other).map (·.id) = some client.id with
    | none =>
      have called := List.find?_eq_none.1 search key listed
      rw [here, Option.map_some] at called
      exact absurd (decide_eq_true rfl) called
    | some other =>
      have called : (board.client? other).map (·.id) = some client.id := by
        simpa using List.find?_some search
      obtain ⟨same, there, ids⟩ := Option.map_eq_some_iff.1 called
      rw [sound.client_of_id here there ids] at search
      exact search

theorem Sound.named?_eq_none_iff (sound : Sound board held none) :
    board.named? hub id = none ↔
      ∀ key client, held key = true → board.client? key = some client → client.hub = hub →
        client.id ≠ id := by
  rw [Option.eq_none_iff_forall_ne_some]
  constructor
  · intro unnamed key client holds found inHub called
    exact unnamed key (sound.named?_eq_some_iff.2 ⟨holds, client, found, inHub, called⟩)
  · intro nobody key named
    obtain ⟨holds, client, found, inHub, called⟩ := sound.named?_eq_some_iff.1 named
    exact nobody key client holds found inHub called

/-! ## What is answered -/

/-- What an acknowledgement is answered depends on the hub, on the client that is named, and on the
time. -/
theorem tryAcknowledge_fst (board : Switchboard) (hub : String) (approval : Approval) :
    (board.tryAcknowledge hub approval).1 =
      if board.hub? hub = none then .error .unknownHub
      else match (board.named? hub approval.connectionId).bind board.client? with
        | none => .error .unknownConnection
        | some client => (client.handshake.acknowledge board.now approval.decision).1 := by
  cases mapped : board.hub? hub with
  | none => simp only [tryAcknowledge, mapped, ↓reduceIte]
  | some registry =>
    rw [if_neg (Option.some_ne_none registry), named?_of_mapped mapped]
    cases listed : board.findClient registry approval.connectionId with
    | none => simp only [tryAcknowledge, mapped, listed, Option.bind_none]
    | some key =>
      cases found : board.client? key with
      | none => simp only [tryAcknowledge, mapped, listed, decide, found, Option.bind_some]
      | some client => simp only [tryAcknowledge, mapped, listed, decide, found, Option.bind_some]

theorem sendToConnection_fst (board : Switchboard) (hub id : String) (payload : Payload) :
    (board.sendToConnection hub id payload).1 =
      (((board.named? hub id).bind board.client?).bind (·.outbound)).isSome := by
  unfold sendToConnection
  cases listed : (board.hub? hub).bind (board.findClient · id) with
  | none => simp only [named?, listed, Option.bind_none, Option.isSome_none]
  | some key =>
    simp only [named?, listed, Option.bind_some, send]
    cases (board.client? key).bind (·.outbound) with
    | none => rfl
    | some waiting => rfl

/-! ## Acknowledging -/

theorem setHandshake_self (found : board.client? key = some client) :
    board.setHandshake key client.handshake = board := by
  have rows := map_modify_of_same board.clients key
    (fun entry => { entry with handshake := client.handshake }) id fun entry here => by
      obtain rfl : client = entry := Option.some.inj (found.symm.trans here)
      rfl
  simp only [List.map_id_fun, id_eq] at rows
  rw [setHandshake, updateClient, rows]

/-- What an acknowledgement meets, what it is answered, and what it leaves behind. -/
inductive Acknowledged (board : Switchboard) (hub : String) (approval : Approval) :
    Except AcknowledgeError Unit × Switchboard → Prop where
  | absent (absent : board.hub? hub = none) :
      Acknowledged board hub approval (.error .unknownHub, board)
  | unnamed (known : board.hub? hub ≠ none)
      (unnamed : board.named? hub approval.connectionId = none) :
      Acknowledged board hub approval (.error .unknownConnection, board)
  | resolved {key : ClientKey} {client : Client}
      (named : board.named? hub approval.connectionId = some key)
      (found : board.client? key = some client) (resolved : client.handshake.resolved = true) :
      Acknowledged board hub approval (.error .alreadyResolved, board)
  | late {key : ClientKey} {client : Client} {handshake : Handshake}
      (named : board.named? hub approval.connectionId = some key)
      (found : board.client? key = some client) (pending : client.handshake.state = .pending)
      (late : client.handshake.deadline ≤ board.now)
      (deadline : handshake.deadline = client.handshake.deadline)
      (state : handshake.state = .timedOut) :
      Acknowledged board hub approval
        (.error .deadlineElapsed, board.setHandshake key handshake)
  | inTime {key : ClientKey} {client : Client} {handshake : Handshake}
      (named : board.named? hub approval.connectionId = some key)
      (found : board.client? key = some client) (pending : client.handshake.state = .pending)
      (inTime : board.now < client.handshake.deadline)
      (deadline : handshake.deadline = client.handshake.deadline)
      (state : handshake.state = .ofDecision approval.decision) :
      Acknowledged board hub approval (.ok (), board.setHandshake key handshake)

/-- Whoever decides about a named client decides about the client. -/
theorem tryAcknowledge_eq_decide (named : board.named? hub approval.connectionId = some key) :
    board.tryAcknowledge hub approval = board.decide key approval.decision := by
  obtain ⟨registry, mapped, listed⟩ := Option.bind_eq_some_iff.1 named
  simp only [tryAcknowledge, mapped, listed]

theorem tryAcknowledge_of_unnamed (unnamed : board.named? hub approval.connectionId = none) :
    (board.tryAcknowledge hub approval).2 = board := by
  unfold tryAcknowledge
  split
  · rfl
  · next registry mapped =>
    rw [named?_of_mapped mapped] at unnamed
    rw [unnamed]

/-- What is answered for a client, and what becomes of it, is up to its handshake. -/
theorem tryAcknowledge_of_named (named : board.named? hub approval.connectionId = some key)
    (found : board.client? key = some client) :
    board.tryAcknowledge hub approval =
      ((client.handshake.acknowledge board.now approval.decision).1,
        board.setHandshake key
          (client.handshake.acknowledge board.now approval.decision).2) := by
  rw [tryAcknowledge_eq_decide named, decide, found]

theorem acknowledged_of_named (named : board.named? hub approval.connectionId = some key)
    (found : board.client? key = some client) :
    Acknowledged board hub approval (board.tryAcknowledge hub approval) := by
  rw [tryAcknowledge_of_named named found]
  have deadline := client.handshake.deadline_acknowledge board.now approval.decision
  cases pending : client.handshake.state.isPending with
  | false =>
    rw [Handshake.acknowledge_of_over board.now approval.decision pending]
    simp only [setHandshake_self found]
    exact .resolved named found (Handshake.resolved_of_over pending)
  | true =>
    have waits : client.handshake.state = .pending := HandshakeState.eq_of_isPending pending
    by_cases late : client.handshake.deadline ≤ board.now
    · obtain ⟨answered, state⟩ := Handshake.acknowledge_late approval.decision pending late
      rw [answered]
      exact .late named found waits late deadline state
    · have inTime : board.now < client.handshake.deadline := by omega
      obtain ⟨answered, state⟩ := Handshake.acknowledge_inTime approval.decision pending inTime
      rw [answered]
      exact .inTime named found waits inTime deadline state

/-- Whatever an acknowledgement is answered, it met what goes with that. -/
theorem acknowledged_tryAcknowledge (board : Switchboard) (hub : String) (approval : Approval) :
    Acknowledged board hub approval (board.tryAcknowledge hub approval) := by
  cases mapped : board.hub? hub with
  | none =>
    have answered : board.tryAcknowledge hub approval = (.error .unknownHub, board) := by
      rw [tryAcknowledge, mapped]
    rw [answered]
    exact .absent mapped
  | some registry =>
    have names := named?_of_mapped mapped approval.connectionId
    cases named : board.named? hub approval.connectionId with
    | none =>
      have answered : board.tryAcknowledge hub approval = (.error .unknownConnection, board) := by
        rw [names] at named
        simp only [tryAcknowledge, mapped, named]
      rw [answered]
      exact .unnamed (by rw [mapped]; exact Option.some_ne_none registry) named
    | some key =>
      cases found : board.client? key with
      | none =>
        -- an id names nobody who is not there
        rw [names, findClient] at named
        split at named
        · contradiction
        · have called := List.find?_some named
          simp [found] at called
      | some client => exact acknowledged_of_named named found

end Switchboard

end HubRelay
