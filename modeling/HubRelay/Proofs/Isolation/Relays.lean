import HubRelay.Proofs.Isolation.Requests

/-!
Contract: a relay stays within the hub of its client.

Owns: that whatever a relay does is confined to the hub that its client and its backend belong to,
and comes to the same where there is nothing else.

Does not own: opening relays, and whose turn it is.
-/

namespace HubRelay

open Switchboard

variable {board : Switchboard} {hub : String} {numbers : Renumbering} {connection : Connection}

/-- Both ends of a connection belong to a hub. -/
structure Connection.Belongs (board : Switchboard) (hub : String) (connection : Connection) :
    Prop where
  client : board.clientHub? connection.client = some hub
  backend : board.backendHub? connection.backend = some hub

theorem Connection.Belongs.of_lasting {first second : Switchboard}
    (belongs : connection.Belongs first hub) (lasting : Lasting first second) :
    connection.Belongs second hub :=
  ⟨lasting.clientHub? belongs.client, lasting.backendHub? belongs.backend⟩

namespace Loop

/-! ## Staying within a hub -/

section Confined

variable (belongs : connection.Belongs board hub)

include belongs

theorem confined_leave (loop : Loop) (result : Except RelayError RelayEnd) :
    Confined hub board (leave board connection loop result).1 :=
  confined_updateClient belongs.client _ fun _ => rfl

theorem confined_pass (payload : Payload) :
    Confined hub board (pass board connection payload).2 := by
  unfold pass
  split
  · exact .refl board
  · exact confined_enqueue belongs.backend _

theorem confined_announceDeparture : Confined hub board (announceDeparture board connection) := by
  unfold announceDeparture
  split
  · exact .refl board
  · split
    · exact confined_enqueue belongs.backend _
    · exact .refl board

theorem confined_finish (tidy : Tidy board) : Confined hub board (finish board connection) := by
  have traffic := traffic_announceDeparture board connection
  have later := belongs.of_lasting (lasting_of_traffic traffic)
  exact (confined_announceDeparture belongs).trans
    (confined_dropClient (tidy.of_traffic traffic).zoned later.client)

theorem confined_step {loop : Loop} {branch : Branch} {later : Switchboard} {outcome : Outcome}
    (stepped : step board connection loop branch = some (later, outcome)) :
    Confined hub board later := by
  cases branch with
  | stop =>
    simp only [step, stepStop] at stepped
    split at stepped
    · obtain rfl := congrArg Prod.fst (Option.some.inj stepped)
      exact confined_leave belongs loop _
    · contradiction
  | outbound =>
    simp only [step, stepOutbound] at stepped
    split at stepped
    · contradiction
    · contradiction
    · next payload waiting _ =>
      have shown : Confined hub board (board.updateClient connection.client fun client =>
          { client with outbound := some waiting }) :=
        confined_updateClient belongs.client _ fun _ => rfl
      have traffic := traffic_outbound board connection.client fun _ => some waiting
      split at stepped
      · obtain ⟨rfl, -⟩ := Prod.mk.inj (Option.some.inj stepped)
        exact shown
      · obtain rfl := congrArg Prod.fst (Option.some.inj stepped)
        exact shown.trans (confined_leave (belongs.of_lasting (lasting_of_traffic traffic)) _ _)
  | inbound =>
    simp only [step, stepInbound] at stepped
    split at stepped
    · contradiction
    · split at stepped
      · split at stepped
        · contradiction
        · obtain ⟨rfl, -⟩ := Prod.mk.inj (Option.some.inj stepped)
          exact .refl board
      · obtain ⟨rfl, -⟩ := Prod.mk.inj (Option.some.inj stepped)
        exact .refl board
      · obtain rfl := congrArg Prod.fst (Option.some.inj stepped)
        exact confined_leave belongs _ _
      · obtain rfl := congrArg Prod.fst (Option.some.inj stepped)
        exact confined_leave belongs _ _
      · next payload _ =>
        have passed := confined_pass belongs payload
        have traffic := traffic_pass board connection payload
        split at stepped
        · next accepted =>
          rw [accepted] at passed
          obtain ⟨rfl, -⟩ := Prod.mk.inj (Option.some.inj stepped)
          exact passed
        · next refused =>
          rw [refused] at passed traffic
          obtain rfl := congrArg Prod.fst (Option.some.inj stepped)
          exact passed.trans (confined_leave (belongs.of_lasting (lasting_of_traffic traffic)) _ _)

end Confined

/-! ## Coming to the same -/

section Placed

variable (placed : Placed board hub numbers) (belongs : connection.Belongs board hub)

include placed belongs

theorem within_leave (loop : Loop) (result : Except RelayError RelayEnd) :
    leave (board.within hub numbers) (connection.renumbered numbers) loop result =
      ((leave board connection loop result).1.within hub numbers,
        (leave board connection loop result).2) :=
  Prod.ext (placed.setOutbound belongs.client none).symm rfl

theorem within_pass (payload : Payload) :
    pass (board.within hub numbers) (connection.renumbered numbers) payload =
      ((pass board connection payload).1,
        (pass board connection payload).2.within hub numbers) := by
  obtain ⟨client, found, -, there⟩ := placed.client? belongs.client
  have foundThere : (board.within hub numbers).client? (connection.renumbered numbers).client =
      some (client.renumbered numbers) := there
  simp only [pass, found, foundThere]
  exact placed.enqueue belongs.backend (.user client.hub client.id client.context payload)

theorem within_announceDeparture :
    announceDeparture (board.within hub numbers) (connection.renumbered numbers) =
      (announceDeparture board connection).within hub numbers := by
  obtain ⟨client, found, -, there⟩ := placed.client? belongs.client
  have foundThere : (board.within hub numbers).client? (connection.renumbered numbers).client =
      some (client.renumbered numbers) := there
  have settings : (board.within hub numbers).settings = board.settings := rfl
  simp only [announceDeparture, found, foundThere, settings]
  split
  · exact congrArg Prod.snd
      (placed.enqueue belongs.backend (.disconnect client.hub client.id client.context))
  · rfl

theorem within_finish (tidy : Tidy board) :
    finish (board.within hub numbers) (connection.renumbered numbers) =
      (finish board connection).within hub numbers := by
  have traffic := traffic_announceDeparture board connection
  have later := belongs.of_lasting (lasting_of_traffic traffic)
  have told := within_announceDeparture placed belongs
  rw [finish, told]
  exact (placed.of_books traffic.books).dropClient (tidy.of_traffic traffic).zoned later.client

theorem within_stepStop (loop : Loop) :
    stepStop (board.within hub numbers) (connection.renumbered numbers) loop =
      (stepStop board connection loop).map fun result =>
        (result.1.within hub numbers, result.2) := by
  have stopped : (board.within hub numbers).stopped = board.stopped := rfl
  simp only [stepStop, stopped]
  split
  · exact congrArg some (within_leave placed belongs loop _)
  · rfl

theorem within_stepOutbound (loop : Loop) :
    stepOutbound (board.within hub numbers) (connection.renumbered numbers) loop =
      (stepOutbound board connection loop).map fun result =>
        (result.1.within hub numbers, result.2) := by
  obtain ⟨client, found, -, there⟩ := placed.client? belongs.client
  have foundThere : (board.within hub numbers).client? (connection.renumbered numbers).client =
      some (client.renumbered numbers) := there
  have outbound : (client.renumbered numbers).outbound = client.outbound := rfl
  simp only [stepOutbound, found, foundThere, Option.bind_some, outbound]
  cases client.outbound with
  | none => rfl
  | some waiting =>
    cases waiting with
    | nil => rfl
    | cons payload waiting =>
      have shown : (board.within hub numbers).updateClient (connection.renumbered numbers).client
          (fun client => { client with outbound := some waiting }) =
            (board.updateClient connection.client fun client =>
              { client with outbound := some waiting }).within hub numbers :=
        (placed.setOutbound belongs.client (some waiting)).symm
      have traffic := traffic_outbound board connection.client fun _ => some waiting
      simp only [shown]
      rcases loop.sink.write payload with ⟨failure, sink⟩
      cases failure with
      | none => rfl
      | some error =>
        exact congrArg some (within_leave (placed.of_books traffic.books)
          (belongs.of_lasting (lasting_of_traffic traffic)) _ _)

theorem within_stepInbound (loop : Loop) :
    stepInbound (board.within hub numbers) (connection.renumbered numbers) loop =
      (stepInbound board connection loop).map fun result =>
        (result.1.within hub numbers, result.2) := by
  unfold stepInbound
  split
  · rfl
  · rcases loop.reader.read loop.source with ⟨outcome, reader, source⟩
    cases outcome with
    | waiting =>
      simp only
      split <;> rfl
    | stalled => rfl
    | answer answer =>
      cases answer with
      | error error => exact congrArg some (within_leave placed belongs _ _)
      | ok read =>
        cases read with
        | none => exact congrArg some (within_leave placed belongs _ _)
        | some payload =>
          have traffic := traffic_pass board connection payload
          simp only [within_pass placed belongs payload]
          revert traffic
          rcases pass board connection payload with ⟨answer, later⟩
          intro traffic
          cases answer with
          | ok _ => rfl
          | error error =>
            exact congrArg some (within_leave (placed.of_books traffic.books)
              (belongs.of_lasting (lasting_of_traffic traffic)) _ _)

theorem within_step (loop : Loop) (branch : Branch) :
    step (board.within hub numbers) (connection.renumbered numbers) loop branch =
      (step board connection loop branch).map fun result =>
        (result.1.within hub numbers, result.2) := by
  cases branch with
  | stop => exact within_stepStop placed belongs loop
  | outbound => exact within_stepOutbound placed belongs loop
  | inbound => exact within_stepInbound placed belongs loop

end Placed

end Loop

namespace Relay

variable {relay : Relay}

/-- What a relay that looks at the handshake does to the switchboard before it lets go of the
client, if it does. -/
theorem traffic_polled (relay : Relay) {client : Client}
    (found : board.client? relay.connection.client = some client) :
    Traffic (some relay.connection.client) board
      (board.setHandshake relay.connection.client (client.handshake.poll board.now).2) := by
  refine traffic_of_continues relay.connection.client _ fun same foundSame => ?_
  obtain rfl : client = same := Option.some.inj (found.symm.trans foundSame)
  exact client.continues_poll board.now

theorem confined_settle (tidy : Tidy board) (belongs : relay.connection.Belongs board hub) :
    Confined hub board (relay.settle board).1 := by
  unfold settle
  split
  · exact .refl board
  · next client found =>
    have traffic := traffic_polled relay found
    have polled := confined_setHandshake belongs.client (client.handshake.poll board.now).2
    simp only
    split
    · exact .refl board
    · exact polled
    · exact polled.trans (confined_dropClient (tidy.of_traffic traffic).zoned
        (belongs.of_lasting (lasting_of_traffic traffic)).client)

/-- Whatever a relay does is confined to its hub. -/
theorem confined_act (tidy : Tidy board) (belongs : relay.connection.Belongs board hub)
    (action : RelayAction) : Confined hub board (relay.act board action).1 := by
  obtain ⟨connection, phase⟩ := relay
  have unchanged : Confined hub board board := .refl board
  cases action with
  | await | feed _ | endSource => cases phase <;> exact unchanged
  | settle =>
    cases phase with
    | awaiting => exact confined_settle tidy belongs
    | _ => exact unchanged
  | run source room failure =>
    cases phase with
    | approved subProtocol => exact confined_updateClient belongs.client _ fun _ => rfl
    | _ => exact unchanged
  | step branch =>
    cases phase with
    | running loop =>
      simp only [act]
      split
      · exact unchanged
      · next stepped => exact Loop.confined_step belongs stepped
    | _ => exact unchanged
  | finish =>
    cases phase with
    | leaving result sink => exact Loop.confined_finish belongs tidy
    | _ => exact unchanged
  | drop =>
    simp only [act]
    split
    · exact confined_dropClient tidy.zoned belongs.client
    · exact unchanged

theorem within_settle (placed : Placed board hub numbers) (tidy : Tidy board)
    (belongs : relay.connection.Belongs board hub) :
    (relay.renumbered numbers).settle (board.within hub numbers) =
      ((relay.settle board).1.within hub numbers, (relay.settle board).2) := by
  obtain ⟨client, found, -, there⟩ := placed.client? belongs.client
  have foundThere :
      (board.within hub numbers).client? (relay.renumbered numbers).connection.client =
        some (client.renumbered numbers) := there
  have traffic := traffic_polled relay found
  have polled : (board.within hub numbers).setHandshake
      (relay.renumbered numbers).connection.client (client.handshake.poll board.now).2 =
        (board.setHandshake relay.connection.client
          (client.handshake.poll board.now).2).within hub numbers :=
    (placed.setHandshake belongs.client _).symm
  have dropped := (placed.of_books traffic.books).dropClient (tidy.of_traffic traffic).zoned
    (belongs.of_lasting (lasting_of_traffic traffic)).client
  have handshake : (client.renumbered numbers).handshake = client.handshake := rfl
  have now : (board.within hub numbers).now = board.now := rfl
  simp only [settle, found, foundThere, handshake, now, polled]
  cases (client.handshake.poll board.now).1 with
  | none => rfl
  | some answer =>
    cases answer with
    | ok subProtocol => rfl
    | error error => exact Prod.ext dropped rfl

/-- Whatever a relay does comes to the same where there is nothing but its hub. -/
theorem within_act (placed : Placed board hub numbers) (tidy : Tidy board)
    (belongs : relay.connection.Belongs board hub) (action : RelayAction) :
    (relay.renumbered numbers).act (board.within hub numbers) action =
      ((relay.act board action).1.within hub numbers, (relay.act board action).2) := by
  cases action with
  | await | feed _ | endSource =>
    obtain ⟨connection, phase⟩ := relay
    cases phase <;> rfl
  | settle =>
    have settled := within_settle placed tidy belongs
    obtain ⟨connection, phase⟩ := relay
    cases phase with
    | awaiting => exact settled
    | _ => rfl
  | run source room failure =>
    have opened := placed.setOutbound belongs.client (some [])
    obtain ⟨connection, phase⟩ := relay
    cases phase with
    | approved subProtocol => exact Prod.ext opened.symm rfl
    | _ => rfl
  | step branch =>
    have stepped := Loop.within_step placed belongs
    obtain ⟨connection, phase⟩ := relay
    cases phase with
    | running loop =>
      have same : Loop.step (board.within hub numbers) (connection.renumbered numbers) loop branch =
          _ := stepped loop branch
      simp only [act, renumbered, same]
      cases Loop.step board connection loop branch with
      | none => rfl
      | some result => rfl
    | _ => rfl
  | finish =>
    have finished := Loop.within_finish placed belongs tidy
    obtain ⟨connection, phase⟩ := relay
    cases phase with
    | leaving result sink => exact Prod.ext finished rfl
    | _ => rfl
  | drop =>
    have dropped := placed.dropClient tidy.zoned belongs.client
    have holds : (relay.renumbered numbers).holds = relay.holds := rfl
    simp only [act, holds]
    split
    · exact Prod.ext dropped rfl
    · rfl

end Relay

end HubRelay
