import HubRelay.Proofs.Switchboard.Request
import HubRelay.Relay.Exchange
import Mathlib.Data.List.Induction

/-!
Contract: everything that can happen on an exchange, one thing after the other.

Owns: the actions of relays and of everybody else, carrying them out, what an action does to one
relay, courses of actions with all their moments, and induction along a course.

Does not own: what holds along every course.

Every await point of a relay is a gap between two of its actions, so a course may have the actions
of others in between, in any order.
-/

namespace HubRelay

/-- What a relay can do, or have done to it. -/
inductive RelayAction where
  /-- Start to wait for the answer of the backend. -/
  | await
  /-- Look whether the handshake is over. -/
  | settle
  | run (source : Source) (room : Option Nat) (failure : TransportError)
  | feed (items : List SourceItem)
  | endSource
  | step (branch : Loop.Branch)
  /-- End, after the sink has been closed. -/
  | finish
  | drop

/-- What can happen on an exchange. -/
inductive Action where
  | request (request : Switchboard.Request)
  /-- Somebody lets go of a client that is not with a relay. -/
  | release (client : ClientKey)
  | openRelay (hub : String) (context : Context)
  | relay (key : RelayKey) (action : RelayAction)

namespace Exchange

/-- Whether a client is or was with a relay. -/
def isRelayed (exchange : Exchange) (client : ClientKey) : Bool :=
  exchange.relays.any (·.connection.client == client)

/-- Let go of a client, unless that is up to a relay. -/
def release (exchange : Exchange) (client : ClientKey) : Exchange :=
  if exchange.isRelayed client then exchange
  else { exchange with board := exchange.board.dropClient client }

/-- Let a relay act. -/
def performRelay (exchange : Exchange) (key : RelayKey) : RelayAction → Exchange
  | .await => exchange.await key
  | .settle => exchange.settleAwait key
  | .run source room failure => exchange.run key source (.start room failure)
  | .feed items => exchange.feed key items
  | .endSource => exchange.endSource key
  | .step branch => exchange.stepRelay key branch
  | .finish => exchange.finishRelay key
  | .drop => exchange.dropRelay key

/-- Carry out an action. -/
def perform (exchange : Exchange) : Action → Exchange
  | .request request => { exchange with board := exchange.board.perform request }
  | .release client => exchange.release client
  | .openRelay hub context => (exchange.openRelay hub context).2
  | .relay key action => exchange.performRelay key action

end Exchange

/-! ## What an action does to one relay -/

namespace Relay

/-- Whether the client of a relay is with it. -/
def holds (relay : Relay) : Bool :=
  match relay.phase with
  | .pending | .awaiting | .approved _ | .running _ | .leaving _ _ => true
  | .refused _ | .ended _ _ | .dropped => false

/-- What becomes of a relay that looks whether the handshake is over. -/
def settle (board : Switchboard) (relay : Relay) : Switchboard × RelayPhase :=
  match board.client? relay.connection.client with
  | none => (board, relay.phase)
  | some client =>
    let polled := board.setHandshake relay.connection.client (client.handshake.poll board.now).2
    match (client.handshake.poll board.now).1 with
    | none => (board, relay.phase)
    | some (.ok subProtocol) => (polled, .approved subProtocol)
    | some (.error error) => (polled.dropClient relay.connection.client, .refused error)

/-- The phase of a relay whose loop took a step. -/
def phaseOf : Loop.Outcome → RelayPhase
  | .running loop => .running loop
  | .leaving result sink => .leaving result sink

/-- What becomes of the switchboard and of the phase of a relay that acts. -/
def act (board : Switchboard) (relay : Relay) (action : RelayAction) :
    Switchboard × RelayPhase :=
  match action, relay.phase with
  | .await, .pending => (board, .awaiting)
  | .settle, .awaiting => relay.settle board
  | .run source room failure, .approved _ =>
    (board.updateClient relay.connection.client fun client => { client with outbound := some [] },
      .running ⟨source, .start board.settings.messageLimit, false, .start room failure⟩)
  | .feed items, .running loop =>
    (board, .running { loop with source := { loop.source with
      items := loop.source.items ++ items } })
  | .endSource, .running loop =>
    (board, .running { loop with source := { loop.source with ended := true } })
  | .step branch, .running loop =>
    match Loop.step board relay.connection loop branch with
    | none => (board, relay.phase)
    | some (later, outcome) => (later, phaseOf outcome)
  | .finish, .leaving result sink => (Loop.finish board relay.connection, .ended result sink)
  | .drop, phase =>
    if relay.holds then (board.dropClient relay.connection.client, .dropped) else (board, phase)
  | _, phase => (board, phase)

end Relay

namespace Exchange

variable {exchange : Exchange} {key : RelayKey} {relay : Relay}

theorem setPhase_self (found : exchange.relay? key = some relay) :
    exchange.setPhase key relay.phase = exchange := by
  have same : exchange.relays.modify key (fun entry => { entry with phase := relay.phase }) =
      exchange.relays := by
    have rows := map_modify_of_same exchange.relays key
      (fun entry => { entry with phase := relay.phase }) id fun entry here => by
        obtain rfl : relay = entry := Option.some.inj (found.symm.trans here)
        rfl
    simpa using rows
  unfold setPhase
  rw [same]

/-- An action of a relay changes the switchboard and the phase of that relay. -/
theorem performRelay_eq (found : exchange.relay? key = some relay) (action : RelayAction) :
    exchange.performRelay key action =
      { exchange with board := (relay.act exchange.board action).1 }.setPhase key
        (relay.act exchange.board action).2 := by
  obtain ⟨connection, phase⟩ := relay
  have same : exchange = exchange.setPhase key phase := (setPhase_self found).symm
  cases action with
  | await =>
    cases phase <;> simp only [performRelay, Exchange.await, found, Relay.act] <;> exact same
  | settle =>
    cases phase with
    | awaiting =>
      simp only [performRelay, settleAwait, found, Relay.act, Relay.settle]
      cases exchange.board.client? connection.client with
      | none => exact same
      | some client =>
        simp only
        cases (client.handshake.poll exchange.board.now).1 with
        | none => exact same
        | some answer => cases answer <;> rfl
    | _ =>
      simp only [performRelay, settleAwait, found, Relay.act]
      exact same
  | run source room failure =>
    cases phase <;> simp only [performRelay, Exchange.run, found, Relay.act] <;>
      first | exact same | rfl
  | feed items =>
    cases phase <;> simp only [performRelay, feed, changeSource, found, Relay.act] <;> exact same
  | endSource =>
    cases phase <;> simp only [performRelay, endSource, changeSource, found, Relay.act] <;>
      exact same
  | step branch =>
    cases phase with
    | running loop =>
      simp only [performRelay, stepRelay, found, Relay.act]
      cases Loop.step exchange.board connection loop branch with
      | none => exact same
      | some result =>
        obtain ⟨later, outcome⟩ := result
        cases outcome <;> rfl
    | _ =>
      simp only [performRelay, stepRelay, found, Relay.act]
      exact same
  | finish =>
    cases phase <;> simp only [performRelay, finishRelay, found, Relay.act] <;> exact same
  | drop =>
    cases phase <;> simp only [performRelay, dropRelay, found, Relay.act, Relay.holds] <;>
      first | exact same | rfl

theorem performRelay_of_missing (missing : exchange.relay? key = none) (action : RelayAction) :
    exchange.performRelay key action = exchange := by
  cases action <;>
    simp [performRelay, await, settleAwait, Exchange.run, feed, endSource, changeSource, stepRelay,
      finishRelay, dropRelay, missing]

theorem relay?_setPhase_self (found : exchange.relay? key = some relay) (phase : RelayPhase) :
    (exchange.setPhase key phase).relay? key = some { relay with phase := phase } :=
  getElem?_modify_of_some _ found

theorem relay?_setPhase_ne (exchange : Exchange) {key other : RelayKey} (phase : RelayPhase)
    (different : key ≠ other) :
    (exchange.setPhase key phase).relay? other = exchange.relay? other :=
  List.getElem?_modify_ne _ exchange.relays different

theorem relay?_performRelay_self (found : exchange.relay? key = some relay)
    (action : RelayAction) : (exchange.performRelay key action).relay? key =
      some { relay with phase := (relay.act exchange.board action).2 } := by
  rw [performRelay_eq found]
  exact relay?_setPhase_self found _

theorem relay?_performRelay_ne (exchange : Exchange) {key other : RelayKey}
    (different : key ≠ other) (action : RelayAction) :
    (exchange.performRelay key action).relay? other = exchange.relay? other := by
  cases found : exchange.relay? key with
  | none => rw [performRelay_of_missing found]
  | some relay =>
    rw [performRelay_eq found, relay?_setPhase_ne _ _ different]
    rfl

/-- The id under which the backend is asked about a client that was routed. -/
def routedId (board : Switchboard) (client : ClientKey) : String :=
  ((board.client? client).map (·.id)).getD ""

/-- A relay is opened by routing the client and asking the backend; if the one fails nothing else
happens, and if the other fails the client is let go. -/
theorem openRelay_cases (exchange : Exchange) (hub : String) (context : Context) :
    (∃ error later, exchange.board.route hub context connectEvent = (.error error, later) ∧
      exchange.perform (.openRelay hub context) = { exchange with board := later }) ∨
    ∃ backend client routed,
      exchange.board.route hub context connectEvent = (.ok (backend, client), routed) ∧
      ((∃ error,
        (routed.enqueue backend (.connect hub (routedId routed client) context)).1 =
          .error error ∧
        exchange.perform (.openRelay hub context) =
          { exchange with board := routed.dropClient client }) ∨
      ((routed.enqueue backend (.connect hub (routedId routed client) context)).1 = .ok () ∧
        exchange.perform (.openRelay hub context) =
          { board := (routed.enqueue backend (.connect hub (routedId routed client) context)).2
            relays := exchange.relays ++ [⟨⟨client, backend⟩, .pending⟩] })) := by
  simp only [perform, openRelay]
  cases routing : exchange.board.route hub context connectEvent with
  | mk answer routed =>
    cases answer with
    | error error => exact Or.inl ⟨error, routed, rfl, rfl⟩
    | ok route =>
      obtain ⟨backend, client⟩ := route
      refine Or.inr ⟨backend, client, routed, rfl, ?_⟩
      have unfolded : ((routed.client? client).map (·.id)).getD "" = routedId routed client := rfl
      simp only [unfolded]
      cases asking : routed.enqueue backend (.connect hub (routedId routed client) context) with
      | mk answer later =>
        cases answer with
        | error error =>
          obtain rfl : later = routed := by
            have same := Switchboard.enqueue_error (congrArg (·.1) asking)
            rwa [asking] at same
          exact Or.inl ⟨error, rfl, rfl⟩
        | ok => exact Or.inr ⟨rfl, rfl⟩

theorem openRelay_ok {exchange : Exchange} {hub : String} {context : Context} {relay : RelayKey}
    (opened : (exchange.openRelay hub context).1 = .ok relay) :
    relay = exchange.relays.length ∧
      (exchange.openRelay hub context).2.relays.length = exchange.relays.length + 1 := by
  unfold openRelay at opened ⊢
  split
  · next routed =>
    rw [routed] at opened
    contradiction
  · next backend client board routed =>
    rw [routed] at opened
    simp only at opened ⊢
    split
    · next asked =>
      rw [asked] at opened
      contradiction
    · next asked =>
      rw [asked] at opened
      exact ⟨(Except.ok.inj opened).symm, List.length_append⟩

/-- No relay is ever taken away. -/
theorem length_relays_perform (exchange : Exchange) (action : Action) :
    exchange.relays.length ≤ (exchange.perform action).relays.length := by
  cases action with
  | request request => exact Nat.le_refl _
  | release client =>
    rw [perform, release]
    split <;> exact Nat.le_refl _
  | openRelay hub context =>
    rcases exchange.openRelay_cases hub context with
      ⟨error, after, -, opened⟩ | ⟨backend, client, routed, -, ⟨error, -, opened⟩ | ⟨-, opened⟩⟩
    · exact Nat.le_of_eq (congrArg (·.relays.length) opened).symm
    · exact Nat.le_of_eq (congrArg (·.relays.length) opened).symm
    · rw [opened, List.length_append]
      exact Nat.le_add_right _ _
  | relay key action =>
    rw [perform]
    cases present : exchange.relay? key with
    | none => exact Nat.le_of_eq (by rw [performRelay_of_missing present])
    | some relay =>
      exact Nat.le_of_eq (by rw [performRelay_eq present, setPhase, List.length_modify])

theorem length_relays_foldl (exchange : Exchange) (actions : List Action) :
    exchange.relays.length ≤ (actions.foldl perform exchange).relays.length := by
  induction actions generalizing exchange with
  | nil => exact Nat.le_refl _
  | cons action actions inductionHypothesis =>
    exact Nat.le_trans (exchange.length_relays_perform action) (inductionHypothesis _)

end Exchange

/-! ## What an action of a relay leaves alone -/

namespace Loop

variable {board : Switchboard} {connection : Connection} {loop : Loop}

open Switchboard

theorem traffic_leave (board : Switchboard) (connection : Connection) (loop : Loop)
    (result : Except RelayError RelayEnd) :
    Traffic (some connection.client) board (leave board connection loop result).1 :=
  traffic_outbound board connection.client fun _ => none

theorem traffic_pass (board : Switchboard) (connection : Connection) (payload : Payload) :
    Traffic (some connection.client) board (pass board connection payload).2 := by
  unfold pass
  split
  · exact .refl board
  · exact traffic_enqueue board connection.backend _

theorem traffic_announceDeparture (board : Switchboard) (connection : Connection) :
    Traffic (some connection.client) board (announceDeparture board connection) := by
  unfold announceDeparture
  split
  · exact .refl board
  · split
    · exact traffic_enqueue board connection.backend _
    · exact .refl board

theorem traffic_step {branch : Branch} {later : Switchboard} {outcome : Outcome}
    (stepped : step board connection loop branch = some (later, outcome)) :
    Traffic (some connection.client) board later := by
  cases branch with
  | stop =>
    simp only [step, stepStop] at stepped
    split at stepped
    · obtain rfl : (leave board connection loop (.ok .cancelled)).1 = later :=
        congrArg Prod.fst (Option.some.inj stepped)
      exact traffic_leave board connection loop _
    · contradiction
  | outbound =>
    simp only [step, stepOutbound] at stepped
    split at stepped
    · contradiction
    · contradiction
    · next payload waiting _ =>
      have shown := traffic_outbound board connection.client fun _ => some waiting
      split at stepped
      · obtain ⟨rfl, -⟩ := Prod.mk.inj (Option.some.inj stepped)
        exact shown
      · obtain rfl := congrArg Prod.fst (Option.some.inj stepped)
        exact shown.trans (traffic_leave _ connection _ _)
  | inbound =>
    simp only [step, stepInbound] at stepped
    split at stepped
    · contradiction
    · split at stepped
      · split at stepped
        · contradiction
        · obtain ⟨rfl, -⟩ := Prod.mk.inj (Option.some.inj stepped)
          exact .refl board
      · obtain ⟨rfl, -⟩ := Prod.mk.inj (Option.some.inj stepped)
        exact .refl board
      · obtain rfl := congrArg Prod.fst (Option.some.inj stepped)
        exact traffic_leave board connection _ _
      · obtain rfl := congrArg Prod.fst (Option.some.inj stepped)
        exact traffic_leave board connection _ _
      · next payload _ =>
        have passed := traffic_pass board connection payload
        split at stepped
        · next accepted =>
          rw [accepted] at passed
          obtain ⟨rfl, -⟩ := Prod.mk.inj (Option.some.inj stepped)
          exact passed
        · next refused =>
          rw [refused] at passed
          obtain rfl := congrArg Prod.fst (Option.some.inj stepped)
          exact passed.trans (traffic_leave _ connection _ _)

end Loop

namespace Relay

open Switchboard

variable {board : Switchboard} {relay : Relay}

/-- What an action does to the books: it lets go of the client, if the relay holds it and does not
hold it any more, and nothing else. -/
theorem act_cases (board : Switchboard) (relay : Relay) (action : RelayAction) :
    (Traffic (some relay.connection.client) board (relay.act board action).1 ∧
      { relay with phase := (relay.act board action).2 }.holds = relay.holds) ∨
    ∃ later, Traffic (some relay.connection.client) board later ∧
      (relay.act board action).1 = later.dropClient relay.connection.client ∧
      relay.holds = true ∧ { relay with phase := (relay.act board action).2 }.holds = false := by
  obtain ⟨connection, phase⟩ := relay
  have unchanged : Traffic (some connection.client) board board := .refl board
  cases action with
  | await | feed _ | endSource =>
    left
    cases phase <;> exact ⟨unchanged, rfl⟩
  | settle =>
    cases phase with
    | awaiting =>
      simp only [act, settle]
      cases found : board.client? connection.client with
      | none => exact Or.inl ⟨unchanged, rfl⟩
      | some client =>
        have polled : Traffic (some connection.client) board
            (board.setHandshake connection.client (client.handshake.poll board.now).2) := by
          refine traffic_of_continues connection.client _ fun same foundSame => ?_
          obtain rfl : client = same := Option.some.inj (found.symm.trans foundSame)
          exact client.continues_poll board.now
        simp only
        cases (client.handshake.poll board.now).1 with
        | none => exact Or.inl ⟨unchanged, rfl⟩
        | some answer =>
          cases answer with
          | ok subProtocol => exact Or.inl ⟨polled, rfl⟩
          | error error => exact Or.inr ⟨_, polled, rfl, rfl, rfl⟩
    | _ => exact Or.inl ⟨unchanged, rfl⟩
  | run source room failure =>
    left
    cases phase with
    | approved subProtocol =>
      exact ⟨traffic_outbound board connection.client fun _ => some [], rfl⟩
    | _ => exact ⟨unchanged, rfl⟩
  | step branch =>
    left
    cases phase with
    | running loop =>
      simp only [act]
      cases stepped : Loop.step board connection loop branch with
      | none => exact ⟨unchanged, rfl⟩
      | some result =>
        obtain ⟨later, outcome⟩ := result
        refine ⟨Loop.traffic_step stepped, ?_⟩
        cases outcome <;> rfl
    | _ => exact ⟨unchanged, rfl⟩
  | finish =>
    cases phase with
    | leaving result sink =>
      exact Or.inr ⟨_, Loop.traffic_announceDeparture board connection, rfl, rfl, rfl⟩
    | _ => exact Or.inl ⟨unchanged, rfl⟩
  | drop =>
    cases phase with
    | refused _ | ended _ _ | dropped => exact Or.inl ⟨unchanged, rfl⟩
    | _ => exact Or.inr ⟨board, unchanged, rfl, rfl, rfl⟩

theorem steady_act (board : Switchboard) (relay : Relay) (action : RelayAction) :
    Steady (some relay.connection.client) board (relay.act board action).1 := by
  rcases act_cases board relay action with ⟨traffic, -⟩ | ⟨later, traffic, dropped, -, -⟩
  · exact traffic.toSteady
  · rw [dropped]
    exact traffic.toSteady.trans (steady_dropClient later relay.connection.client)

end Relay

/-! ## Courses -/

/-- An action, and how things stood before it. -/
structure Moment where
  before : Exchange
  action : Action

/-- How things stand after an action. -/
def Moment.after (moment : Moment) : Exchange :=
  moment.before.perform moment.action

/-- An exchange, with everything that has happened on it. -/
structure Course where
  exchange : Exchange
  past : List Moment

namespace Course

/-- Nothing has happened yet. -/
def start (settings : Settings) : Course :=
  ⟨.start settings, []⟩

/-- One thing more happens. -/
def take (course : Course) (action : Action) : Course :=
  ⟨course.exchange.perform action, course.past ++ [⟨course.exchange, action⟩]⟩

/-- The course of some actions. -/
def of (settings : Settings) (actions : List Action) : Course :=
  actions.foldl take (start settings)

theorem of_concat (settings : Settings) (earlier : List Action) (action : Action) :
    of settings (earlier ++ [action]) = (of settings earlier).take action := by
  rw [of, List.foldl_append]
  rfl

/-- What holds at the start and is kept by one thing more that happens holds along every course. -/
theorem induction {motive : Course → Prop} (settings : Settings)
    (start : motive (.start settings))
    (take : ∀ earlier action, motive (of settings earlier) →
      motive ((of settings earlier).take action)) (actions : List Action) :
    motive (of settings actions) := by
  induction actions using List.reverseRecOn with
  | nil => exact start
  | append_singleton earlier action inductionHypothesis =>
    rw [of_concat]
    exact take earlier action inductionHypothesis

end Course

end HubRelay
