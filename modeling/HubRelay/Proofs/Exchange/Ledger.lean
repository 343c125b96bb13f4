import HubRelay.Proofs.Exchange.Bookkeeping
import HubRelay.Proofs.Exchange.Deed

/-!
Contract: what can be observed along a course.

Owns: which events each queue took in and from whom, which were taken out, what was handed over for
a client, what the source of a relay was given; and that a queue gives out what it took in, in
order.

Does not own: what relays put into queues.

All of it is read off the moments, by comparing the exchange before an action with the one after it.
A moment never both adds to a queue and takes from it, so what was added or taken can be told.
-/

namespace HubRelay

namespace Switchboard

/-- What has been handed over for a client and not been written yet, while its relay runs. -/
def outbound? (board : Switchboard) (client : ClientKey) : Option (List Payload) :=
  (board.client? client).bind (·.outbound)

/-- The events that a queue took in between two moments. -/
def arrivals (before after : Switchboard) (backend : BackendKey) : List Event :=
  (after.waiting backend).drop (before.waiting backend).length

/-- The events that were taken out of a queue between two moments. -/
def departures (before after : Switchboard) (backend : BackendKey) : List Event :=
  (before.waiting backend).take
    ((before.waiting backend).length - (after.waiting backend).length)

/-- What was handed over for a client between two moments, while its relay ran. -/
def handedOver (before after : Switchboard) (client : ClientKey) : List Payload :=
  match before.outbound? client, after.outbound? client with
  | some earlier, some later => later.drop earlier.length
  | _, _ => []

variable {before after : Switchboard} {backend : BackendKey} {client : ClientKey}

theorem arrivals_of_append {events : List Event}
    (grown : after.waiting backend = before.waiting backend ++ events) :
    arrivals before after backend = events := by
  rw [arrivals, grown, List.drop_left]

theorem arrivals_of_same (same : after.waiting backend = before.waiting backend) :
    arrivals before after backend = [] :=
  arrivals_of_append (by rw [same, List.append_nil])

theorem departures_of_append {events : List Event}
    (shrunk : before.waiting backend = events ++ after.waiting backend) :
    departures before after backend = events := by
  rw [departures, shrunk, List.length_append, Nat.add_sub_cancel, List.take_left]

theorem departures_of_same (same : after.waiting backend = before.waiting backend) :
    departures before after backend = [] :=
  departures_of_append same.symm

theorem departures_of_growing (growing : Growing before after) (backend : BackendKey) :
    departures before after backend = [] := by
  obtain ⟨more, grown⟩ := growing backend
  rw [departures, ← grown, List.length_append, Nat.sub_eq_zero_of_le (Nat.le_add_right _ _),
    List.take_zero]

theorem arrivals_of_shrinking (shrinking : Shrinking before after) (backend : BackendKey) :
    arrivals before after backend = [] := by
  obtain ⟨gone, shrunk⟩ := shrinking backend
  rw [arrivals, ← shrunk]
  exact List.drop_eq_nil_of_le (by rw [List.length_append]; exact Nat.le_add_left _ _)

/-- What is only added to or only taken from is accounted for. -/
theorem arrivals_departures (moves : Growing before after ∨ Shrinking before after)
    (backend : BackendKey) :
    before.waiting backend ++ arrivals before after backend =
      departures before after backend ++ after.waiting backend := by
  rcases moves with growing | shrinking
  · obtain ⟨more, grown⟩ := growing backend
    rw [arrivals_of_append grown.symm, departures_of_growing growing, grown]
    rfl
  · obtain ⟨gone, shrunk⟩ := shrinking backend
    rw [arrivals_of_shrinking shrinking, departures_of_append shrunk.symm, List.append_nil, shrunk]

theorem handedOver_of_append {earlier more : List Payload}
    (first : before.outbound? client = some earlier)
    (last : after.outbound? client = some (earlier ++ more)) :
    handedOver before after client = more := by
  rw [handedOver, first, last]
  exact List.drop_left

theorem handedOver_of_none (last : after.outbound? client = none) :
    handedOver before after client = [] := by
  rw [handedOver, last]
  cases before.outbound? client <;> rfl

theorem handedOver_of_start (first : before.outbound? client = none) :
    handedOver before after client = [] := by
  rw [handedOver, first]

theorem outbound?_of_client? {board : Switchboard} {entry : Client}
    (found : board.client? client = some entry) : board.outbound? client = entry.outbound := by
  rw [outbound?, found]
  rfl

theorem outbound?_of_missing {board : Switchboard} (missing : board.client? client = none) :
    board.outbound? client = none := by
  rw [outbound?, missing]
  rfl

theorem handedOver_of_continues {earlier later : Client} {more : List Payload}
    (found : before.client? client = some earlier) (foundLater : after.client? client = some later)
    (grown : later.outbound = earlier.outbound.map (· ++ more)) :
    handedOver before after client = if earlier.outbound.isSome then more else [] := by
  have first : before.outbound? client = earlier.outbound := outbound?_of_client? found
  have last : after.outbound? client = later.outbound := outbound?_of_client? foundLater
  cases outbound : earlier.outbound with
  | none => exact handedOver_of_start (first.trans outbound)
  | some waiting =>
    rw [outbound] at first grown
    exact handedOver_of_append first (last.trans grown)

theorem handedOver_of_le {earlier later : Client} (found : before.client? client = some earlier)
    (foundLater : after.client? client = some later)
    (shorter : ∀ {waiting left}, earlier.outbound = some waiting → later.outbound = some left →
      left.length ≤ waiting.length) : handedOver before after client = [] := by
  have first : before.outbound? client = earlier.outbound := outbound?_of_client? found
  have last : after.outbound? client = later.outbound := outbound?_of_client? foundLater
  cases outbound : earlier.outbound with
  | none => exact handedOver_of_start (first.trans outbound)
  | some waiting =>
    cases outboundLater : later.outbound with
    | none => exact handedOver_of_none (last.trans outboundLater)
    | some left =>
      rw [handedOver, first, last, outbound, outboundLater]
      exact List.drop_eq_nil_of_le (shorter outbound outboundLater)

end Switchboard

open Switchboard

namespace Exchange

variable {exchange : Exchange}

/-- The client that may be touched by an action: the one that is let go of, or the one of the relay
that acts. -/
def touched (exchange : Exchange) : Action → Option ClientKey
  | .release client => if exchange.isRelayed client then none else some client
  | .relay key _ => (exchange.relay? key).map (·.connection.client)
  | .request _ | .openRelay _ _ => none

/-- Whatever touches a client that was not there before touches nobody. -/
theorem onward_of_new {before after : Switchboard} {client : ClientKey}
    (onward : Onward (some client) before after) (new : before.clients.length ≤ client) :
    Onward none before after where
  settings := onward.settings
  stopped := onward.stopped
  client := by
    intro key entry found
    obtain ⟨later, here, goesOn, continues⟩ := onward.client found
    have within : key < before.clients.length := (List.getElem?_eq_some_iff.1 found).1
    refine ⟨later, here, goesOn, fun _ => continues fun same => ?_⟩
    exact Nat.lt_irrefl _ (Nat.lt_of_lt_of_le within (Option.some.inj same ▸ new))

theorem steady_openRelay (exchange : Exchange) (hub : String) (context : Context) :
    Steady none exchange.board (exchange.perform (.openRelay hub context)).board := by
  have routes : Steady none exchange.board
      (exchange.board.route hub context connectEvent).2 := steady_route _ hub context connectEvent
  rcases exchange.openRelay_cases hub context with
    ⟨error, later, refused, opened⟩ | ⟨backend, client, routed, routing, answer⟩
  · rw [refused] at routes
    rw [opened]
    exact routes
  · rw [routing] at routes
    rcases answer with ⟨error, -, opened⟩ | ⟨-, opened⟩
    · rw [opened]
      have new : client = exchange.board.clients.length := by
        rcases exchange.board.route_cases hub context connectEvent with
          ⟨_, _, answered, -⟩ | ⟨_, _, _, -, -, answered⟩
        · rw [routing] at answered
          cases answered
        · rw [routing] at answered
          cases answered
          rfl
      have dropped := steady_dropClient routed client
      exact ⟨onward_of_new (routes.toOnward.weaken.trans dropped.toOnward) (Nat.le_of_eq new.symm),
        routes.growing.trans dropped.growing⟩
    · rw [opened]
      exact routes.trans (traffic_enqueue routed backend _).toSteady

theorem steady_relay (exchange : Exchange) (key : RelayKey) (action : RelayAction) :
    Steady (exchange.touched (.relay key action)) exchange.board
      (exchange.performRelay key action).board := by
  cases found : exchange.relay? key with
  | none =>
    rw [performRelay_of_missing found]
    exact .refl _
  | some relay =>
    rw [performRelay_eq found, touched, found]
    exact relay.steady_act exchange.board action

theorem steady_release (exchange : Exchange) (client : ClientKey) :
    Steady (exchange.touched (.release client)) exchange.board (exchange.release client).board := by
  simp only [release, touched]
  split
  · exact .refl _
  · exact steady_dropClient exchange.board client

theorem onward_perform (exchange : Exchange) (action : Action) :
    Onward (exchange.touched action) exchange.board (exchange.perform action).board := by
  cases action with
  | request request => exact Switchboard.onward_perform exchange.board request
  | release client => exact (exchange.steady_release client).toOnward
  | openRelay hub context => exact (exchange.steady_openRelay hub context).toOnward
  | relay key action => exact (exchange.steady_relay key action).toOnward

/-- An action only adds to queues or only takes from them. -/
theorem queues_perform (exchange : Exchange) (action : Action) :
    Growing exchange.board (exchange.perform action).board ∨
      Shrinking exchange.board (exchange.perform action).board := by
  cases action with
  | request request =>
    cases takes : request.takes with
    | false => exact Or.inl (steady_perform exchange.board takes).growing
    | true => exact Or.inr (shrinking_perform exchange.board takes).2
  | release client => exact Or.inl (exchange.steady_release client).growing
  | openRelay hub context => exact Or.inl (exchange.steady_openRelay hub context).growing
  | relay key action => exact Or.inl (exchange.steady_relay key action).growing

end Exchange

/-! ## Moments -/

namespace Moment

/-- The relay that acts in a moment, if one does; a relay that is opened is the next one. -/
def author (moment : Moment) : Option RelayKey :=
  match moment.action with
  | .relay key _ => some key
  | .openRelay _ _ => some moment.before.relays.length
  | .request _ | .release _ => none

/-- The events that a queue took in. -/
def arrivals (moment : Moment) (backend : BackendKey) : List Event :=
  Switchboard.arrivals moment.before.board moment.after.board backend

/-- The events that were taken out of a queue. -/
def departures (moment : Moment) (backend : BackendKey) : List Event :=
  Switchboard.departures moment.before.board moment.after.board backend

/-- What was handed over for a client. -/
def handedOver (moment : Moment) (client : ClientKey) : List Payload :=
  Switchboard.handedOver moment.before.board moment.after.board client

/-- What the source of a relay was given up to a moment, from what it was given before. -/
def given (moment : Moment) (key : RelayKey) (source : Source) : Source :=
  match moment.action, moment.before.phase? key with
  | .relay acting action, some phase => if acting = key then action.given source phase else source
  | _, _ => source

end Moment

namespace Course

/-- The events that a queue took in, in order, each with the relay that made it if one did. -/
def accepted (course : Course) (backend : BackendKey) : List (Option RelayKey × Event) :=
  course.past.flatMap fun moment =>
    (moment.arrivals backend).map fun event => (moment.author, event)

/-- The events that were taken out of a queue, in order. -/
def taken (course : Course) (backend : BackendKey) : List Event :=
  course.past.flatMap (·.departures backend)

/-- The events made by relays about a connection that a queue took in, in order. -/
def relayed (course : Course) (backend : BackendKey) (connectionId : String) : List Event :=
  ((course.accepted backend).filter fun (author, event) =>
    author.isSome && event.connectionId == connectionId).map (·.2)

/-- The events made by a relay that a queue took in, in order. -/
def made (course : Course) (key : RelayKey) (backend : BackendKey) : List Event :=
  course.past.flatMap fun moment =>
    if moment.author = some key then moment.arrivals backend else []

/-- What was handed over for a client while its relay ran, in order. -/
def handed (course : Course) (client : ClientKey) : List Payload :=
  course.past.flatMap (·.handedOver client)

/-- What the source of a relay was given altogether. -/
def given (course : Course) (key : RelayKey) : Source :=
  course.past.foldl (fun source moment => moment.given key source) ⟨[], false⟩

variable (course : Course) (action : Action)

theorem taken_take (backend : BackendKey) :
    (course.take action).taken backend =
      course.taken backend ++ Moment.departures ⟨course.exchange, action⟩ backend := by
  simp only [taken, take, List.flatMap_append, List.flatMap_cons, List.flatMap_nil, List.append_nil]

theorem accepted_take (backend : BackendKey) :
    (course.take action).accepted backend = course.accepted backend ++
      (Moment.arrivals ⟨course.exchange, action⟩ backend).map fun event =>
        (Moment.author ⟨course.exchange, action⟩, event) := by
  simp only [accepted, take, List.flatMap_append, List.flatMap_cons, List.flatMap_nil,
    List.append_nil]

theorem made_take (key : RelayKey) (backend : BackendKey) :
    (course.take action).made key backend = course.made key backend ++
      if Moment.author ⟨course.exchange, action⟩ = some key then
        Moment.arrivals ⟨course.exchange, action⟩ backend else [] := by
  simp only [made, take, List.flatMap_append, List.flatMap_cons, List.flatMap_nil, List.append_nil]

theorem handed_take (client : ClientKey) :
    (course.take action).handed client =
      course.handed client ++ Moment.handedOver ⟨course.exchange, action⟩ client := by
  simp only [handed, take, List.flatMap_append, List.flatMap_cons, List.flatMap_nil,
    List.append_nil]

theorem given_take (key : RelayKey) :
    (course.take action).given key =
      Moment.given ⟨course.exchange, action⟩ key (course.given key) := by
  rw [given, take, List.foldl_append]
  rfl

/-- A queue gives out what it took in, in order, and holds the rest. -/
theorem accepted_eq (settings : Settings) (actions : List Action) (backend : BackendKey) :
    ((of settings actions).accepted backend).map (·.2) =
      (of settings actions).taken backend ++
        (of settings actions).exchange.board.waiting backend := by
  refine induction (motive := fun course => (course.accepted backend).map (·.2) =
    course.taken backend ++ course.exchange.board.waiting backend) settings rfl
    (fun earlier action known => ?_) actions
  have moved := arrivals_departures
    ((of settings earlier).exchange.queues_perform action) backend
  rw [accepted_take, taken_take, List.map_append, known, List.map_map, List.append_assoc,
    List.append_assoc]
  refine congrArg _ (Eq.trans ?_ moved)
  refine congrArg _ (Eq.trans ?_ (List.map_id _))
  rfl

end Course

end HubRelay
