import HubRelay.Proofs.Exchange.Opening
import HubRelay.Proofs.Exchange.Streams
import HubRelay.Proofs.Exchange.Stretch
import HubRelay.Proofs.Exchange.Verdict

/-!
Contract: what becomes of clients that wait, and of clients that are turned away.

Owns: how a relay goes on that somebody waits with, while others only let it go on; that a decision
that was applied stays applied, and is the only one; and that whoever is turned away is gone for
good.

Does not own: who is answered what.

A client that cannot be asked about is let go of before a relay for it exists.  Nothing but its key
and its id is left of it, and neither is ever given out again.
-/

namespace HubRelay

open Switchboard

/-! ## Waiting with a relay -/

/-- Whether somebody waits with a relay, who may have been told by now. -/
def RelayPhase.isAwaited : RelayPhase → Bool
  | .awaiting | .approved _ | .refused _ => true
  | _ => false

namespace Relay

variable {connection : Connection} {phase : RelayPhase} {action : RelayAction}

/-- A relay that goes on by itself is waited with as before, and what it was told it does not
forget. -/
theorem awaited_act (board : Switchboard) (awaited : phase.isAwaited = true)
    (own : action.isOwn = true) : (act board ⟨connection, phase⟩ action).2.isAwaited = true ∧
      (phase.told? ≠ none → (act board ⟨connection, phase⟩ action).2 = phase) := by
  cases phase with
  | awaiting =>
    refine ⟨?_, fun told => absurd rfl told⟩
    cases action with
    | settle =>
      simp only [act, settle]
      split
      · rfl
      · split <;> rfl
    | step _ | finish => rfl
    | await | run _ _ _ | feed _ | endSource | drop => contradiction
  | approved _ | refused _ =>
    cases action with
    | settle | step _ | finish => exact ⟨rfl, fun _ => rfl⟩
    | await | run _ _ _ | feed _ | endSource | drop => contradiction
  | pending | running _ | leaving _ _ | ended _ _ | dropped => contradiction

theorem act_refused (board : Switchboard) (connection : Connection) (error : HandshakeError)
    (action : RelayAction) :
    (act board ⟨connection, .refused error⟩ action).2 = .refused error := by
  cases action <;> rfl

end Relay

namespace Exchange

variable {exchange : Exchange} {key : RelayKey} {connection : Connection} {phase : RelayPhase}
  {error : HandshakeError} {client : ClientKey} {entry : Client}

theorem awaited_perform (present : exchange.relay? key = some ⟨connection, phase⟩)
    (awaited : phase.isAwaited = true) {action : Action}
    (spares : ∀ own, action = .relay key own → own.isOwn = true) :
    ∃ next, (exchange.perform action).relay? key = some ⟨connection, next⟩ ∧
      next.isAwaited = true ∧ (phase.told? ≠ none → next = phase) := by
  by_cases acts : ∃ own, action = .relay key own
  · obtain ⟨own, rfl⟩ := acts
    exact ⟨_, relay?_performRelay_self present own,
      Relay.awaited_act exchange.board awaited (spares own rfl)⟩
  · have far : ∀ own, action ≠ .relay key own := fun own same => acts ⟨own, same⟩
    exact ⟨phase, Course.relay?_of_far present far, awaited, fun _ => rfl⟩

/-- While a relay is only left to go on by itself, it is waited with. -/
theorem awaited_foldl (actions : List Action)
    (present : exchange.relay? key = some ⟨connection, phase⟩) (awaited : phase.isAwaited = true)
    (spares : ∀ own, Action.relay key own ∈ actions → own.isOwn = true) :
    ∃ next, (actions.foldl perform exchange).relay? key = some ⟨connection, next⟩ ∧
      next.isAwaited = true ∧ (phase.told? ≠ none → next = phase) := by
  induction actions generalizing exchange phase with
  | nil => exact ⟨phase, present, awaited, fun _ => rfl⟩
  | cons action actions inductionHypothesis =>
    have spared : ∀ own, action = .relay key own → own.isOwn = true :=
      fun own same => spares own (same ▸ List.mem_cons_self)
    obtain ⟨next, there, awaits, kept⟩ := awaited_perform present awaited spared
    obtain ⟨last, here, goesOn, same⟩ := inductionHypothesis there awaits
      fun own among => spares own (List.mem_cons_of_mem _ among)
    refine ⟨last, here, goesOn, fun told => ?_⟩
    obtain rfl := kept told
    exact same told

/-- A relay whose client was turned away stays as it is. -/
theorem refused_foldl (actions : List Action)
    (present : exchange.relay? key = some ⟨connection, .refused error⟩) :
    (actions.foldl perform exchange).relay? key = some ⟨connection, .refused error⟩ := by
  induction actions generalizing exchange with
  | nil => exact present
  | cons action actions inductionHypothesis =>
    refine inductionHypothesis ?_
    by_cases acts : ∃ own, action = .relay key own
    · obtain ⟨own, rfl⟩ := acts
      have acted := relay?_performRelay_self present own
      rwa [Relay.act_refused] at acted
    · exact Course.relay?_of_far present fun own same => acts ⟨own, same⟩

/-- A client stays who it is. -/
theorem client?_foldl (actions : List Action) (found : exchange.board.client? client = some entry) :
    ∃ later, (actions.foldl perform exchange).board.client? client = some later ∧
      entry.Onward later := by
  induction actions generalizing exchange entry with
  | nil => exact ⟨entry, found, .refl entry⟩
  | cons action actions inductionHypothesis =>
    obtain ⟨next, there, goesOn, -⟩ := (exchange.onward_perform action).client found
    obtain ⟨later, here, onward⟩ := inductionHypothesis there
    exact ⟨later, here, goesOn.trans onward⟩

end Exchange

namespace Course

variable {course : Course} {client : ClientKey} {entry : Client} {hub : String} {context : Context}

/-! ## Decisions that were applied -/

theorem Applied.foldl {decision : Decision} (applied : course.Applied client decision)
    (actions : List Action) : (actions.foldl take course).Applied client decision := by
  induction actions generalizing course with
  | nil => exact applied
  | cons action actions inductionHypothesis =>
    obtain ⟨moment, happened, decides⟩ := applied
    exact inductionHypothesis ⟨moment, List.mem_append_left _ happened, decides⟩

/-- One decision at most is applied to a client. -/
theorem Decided.unique (decided : course.Decided) {one other : Decision}
    (first : course.Applied client one) (second : course.Applied client other) : one = other := by
  cases found : course.exchange.board.client? client with
  | none =>
    obtain ⟨moment, happened, decides, -⟩ := first
    have among : one ∈ course.decisions client :=
      List.mem_filterMap.2 ⟨moment, happened, decides⟩
    rw [decided.missing found] at among
    contradiction
  | some entry =>
    have shows := (decided.applied_iff found).1 first
    rw [(decided.applied_iff found).1 second] at shows
    cases one <;> cases other <;> cases shows <;> rfl

/-- Whoever was there at a time is still there, and is who it was. -/
theorem onward_of_past (settings : Settings) (actions : List Action) :
    ∀ moment ∈ (of settings actions).past, moment.before.board.client? client = some entry →
      ∃ later, (of settings actions).exchange.board.client? client = some later ∧
        entry.Onward later := by
  refine induction (motive := fun course => ∀ moment ∈ course.past,
    moment.before.board.client? client = some entry →
      ∃ later, course.exchange.board.client? client = some later ∧ entry.Onward later)
    settings (fun _ none => nomatch none)
    (fun earlier action known moment among found => ?_) actions
  have goesOn := (of settings earlier).exchange.onward_perform action
  rcases List.mem_append.1 among with before | now
  · obtain ⟨next, there, onward⟩ := known moment before found
    obtain ⟨later, here, further, -⟩ := goesOn.client there
    exact ⟨later, here, onward.trans further⟩
  · rw [List.mem_singleton.1 now] at found
    obtain ⟨later, here, further, -⟩ := goesOn.client found
    exact ⟨later, here, further⟩

/-! ## Those who were turned away -/

/-- A client is in no hub any more, its id names nobody, and of it relays have not told any backend
more than the question about it. -/
structure Departed (course : Course) (client : ClientKey) (entry : Client) : Prop where
  found : course.exchange.board.client? client = some entry
  unlisted : ∀ key registry, course.exchange.board.registryOf? key = some registry →
    client ∉ registry.clients
  unnamed : course.exchange.board.named? entry.hub entry.id = none
  quiet : ∀ backend, ∀ event ∈ course.relayed backend entry.id, event = entry.question

theorem Orderly.unlisted (orderly : course.Orderly) (free : course.holdings.holds client = false)
    {key : RegistryKey} {registry : Registry}
    (found : course.exchange.board.registryOf? key = some registry) :
    client ∉ registry.clients := by
  intro listed
  rw [orderly.sound.clients found] at listed
  obtain ⟨entry, -, isListed⟩ := mem_indices.1 listed
  rw [Client.isListed, free] at isListed
  contradiction

theorem Orderly.unnamed (orderly : course.Orderly) (free : course.holdings.holds client = false)
    (found : course.exchange.board.client? client = some entry) :
    course.exchange.board.named? hub entry.id = none := by
  refine Option.eq_none_iff_forall_ne_some.2 fun other named => ?_
  obtain ⟨held, same, there, -, ids⟩ := orderly.sound.named?_eq_some_iff.1 named
  rw [orderly.sound.client_of_id found there ids, free] at held
  contradiction

/-- Whoever was turned away by its backend has departed. -/
theorem departed_of_refused (settings : Settings) (actions : List Action) {key : RelayKey}
    {connection : Connection} {error : HandshakeError}
    (present : (of settings actions).exchange.relay? key = some ⟨connection, .refused error⟩)
    (found : (of settings actions).exchange.board.client? connection.client = some entry) :
    (of settings actions).Departed connection.client entry := by
  have orderly := orderly_of settings actions
  have free : (of settings actions).holdings.holds connection.client = false := by
    refine Bool.eq_false_iff.2 fun held => ?_
    rcases ((of settings actions).holdings.holds_iff _).1 held with
      routed | ⟨other, relay, there, holds, same⟩
    · exact orderly.exclusive.apart present routed
    · obtain rfl := orderly.exclusive.distinct present there same
      rw [← Option.some.inj (present.symm.trans there)] at holds
      contradiction
  obtain ⟨same, said, left, heard⟩ := (streams_inOrder settings actions).relays present
  obtain rfl := Option.some.inj (found.symm.trans heard.found)
  -- it was not let in, so nothing was said
  have silent : said = [] ∧ left = false := by
    obtain ⟨shown, there, shows⟩ := informed_of settings actions key _ _ present rfl
    obtain rfl := Option.some.inj (found.symm.trans there)
    have out : ¬ entry.handshake.state.isApproved = true := by
      intro approved
      cases state : entry.handshake.state <;> simp_all [HandshakeState.isApproved,
        HandshakeState.answer?]
    by_contra more
    refine out (heard.approved ?_)
    rw [not_and_or, Bool.not_eq_false] at more
    exact more
  refine ⟨found, fun _ _ => orderly.unlisted free, orderly.unnamed free found, ?_⟩
  intro backend event told
  by_cases asked : backend = connection.backend
  · rw [asked, heard.own, silent.1, silent.2] at told
    exact List.mem_singleton.1 told
  · rw [heard.elsewhere backend asked] at told
    contradiction

/-- Nothing is left of a client but its key: nobody holds it, and no relay was opened for it. -/
structure Forgotten (course : Course) (client : ClientKey) : Prop where
  known : client < course.exchange.board.clients.length
  free : client ∉ course.holdings.routed
  apart : ∀ key relay, course.exchange.relay? key = some relay → relay.connection.client ≠ client

theorem Forgotten.take (forgotten : course.Forgotten client) (orderly : course.Orderly)
    (action : Action) : (course.take action).Forgotten client := by
  constructor
  case known =>
    exact Nat.lt_of_lt_of_le forgotten.known (course.exchange.onward_perform action).length_le
  case free =>
    rw [holdings_take]
    intro among
    unfold Moment.routed at among
    split at among
    · next hub context event acted =>
      split at among
      · next backend newcomer routed =>
        rcases List.mem_append.1 among with old | new
        · exact forgotten.free old
        · obtain ⟨place, -⟩ := orderly.sound.route_ok (Prod.ext routed rfl)
          rw [List.mem_singleton.1 new, place] at forgotten
          exact Nat.lt_irrefl _ forgotten.known
      · exact forgotten.free among
    · exact forgotten.free (List.mem_filter.1 among).1
    · exact forgotten.free among
  case apart =>
    intro key relay present same
    cases before : course.exchange.relay? key with
    | none =>
      obtain ⟨hub, context, routed, -, -, -, routing, -⟩ := opens_of_new before present
      obtain ⟨place, -⟩ := orderly.sound.route_ok routing
      rw [← same, place] at forgotten
      exact Nat.lt_irrefl _ forgotten.known
    | some earlier =>
      by_cases acts : ∃ own, action = .relay key own
      · obtain ⟨own, rfl⟩ := acts
        have acted := Exchange.relay?_performRelay_self before own
        rw [Option.some.inj (present.symm.trans acted)] at same
        exact forgotten.apart key earlier before same
      · have stays := relay?_of_far before fun own acted => acts ⟨own, acted⟩
        rw [Option.some.inj (present.symm.trans stays)] at same
        exact forgotten.apart key earlier before same

theorem Forgotten.foldl {settings : Settings} {earlier : List Action}
    (forgotten : (of settings earlier).Forgotten client) (actions : List Action) :
    (actions.foldl Course.take (of settings earlier)).Forgotten client := by
  induction actions generalizing earlier with
  | nil => exact forgotten
  | cons action actions inductionHypothesis =>
    have next := forgotten.take (orderly_of settings earlier) action
    rw [← of_concat] at next
    rw [List.foldl_cons, ← of_concat]
    exact inductionHypothesis next

/-- Whoever was forgotten has departed. -/
theorem departed_of_forgotten {settings : Settings} {actions : List Action}
    (forgotten : (of settings actions).Forgotten client)
    (found : (of settings actions).exchange.board.client? client = some entry) :
    (of settings actions).Departed client entry := by
  have orderly := orderly_of settings actions
  have free : (of settings actions).holdings.holds client = false := by
    refine Bool.eq_false_iff.2 fun held => ?_
    rcases ((of settings actions).holdings.holds_iff _).1 held with
      routed | ⟨key, relay, present, -, same⟩
    · exact forgotten.free routed
    · exact forgotten.apart key relay present same
  refine ⟨found, fun _ _ => orderly.unlisted free, orderly.unnamed free found, ?_⟩
  intro backend event told
  have stranger : (of settings actions).relayed backend entry.id = [] := by
    refine (streams_inOrder settings actions).strangers (fun present there ids => ?_) backend
    exact forgotten.apart _ _ present (orderly.sound.client_of_id found there ids)
  rw [stranger] at told
  contradiction

/-- A client that was routed was added, with the deadline that the registry of its hub gives it. -/
theorem newcomer_of_route (settings : Settings) (actions : List Action) {backend : BackendKey}
    {newcomer : ClientKey} {routed : Switchboard}
    (routing : (of settings actions).exchange.board.route hub context connectEvent =
      (.ok (backend, newcomer), routed)) :
    newcomer = (of settings actions).exchange.board.clients.length ∧
      ∃ entry, routed.client? newcomer = some entry ∧ entry.hub = hub ∧ entry.context = context ∧
        entry.handshake.deadline =
          (of settings actions).exchange.board.now + settings.handshakeTimeout := by
  obtain ⟨place, key, registry, chosen, picks, rfl⟩ :=
    (orderly_of settings actions).sound.picks_of_route routing
  have added : ((of settings actions).exchange.board.routed key registry chosen context).client?
      newcomer = some ((of settings actions).exchange.board.newcomer key registry chosen
        context) := by
    rw [picks.routed_eq, place]
    exact List.getElem?_concat_length
  refine ⟨place, _, added, picks.named, rfl, ?_⟩
  have timeout := (openedWith_of settings actions picks.registered).timeout_eq
  exact congrArg _ timeout

/-- Whoever was routed stays who it is when its backend is asked about it. -/
theorem onward_of_route {exchange : Exchange} {backend : BackendKey} {newcomer : ClientKey}
    {routed : Switchboard}
    (routing : exchange.board.route hub context connectEvent = (.ok (backend, newcomer), routed))
    (found : routed.client? newcomer = some entry) :
    ∃ later, (exchange.perform (.openRelay hub context)).board.client? newcomer = some later ∧
      entry.Onward later := by
  rcases exchange.openRelay_cases hub context with
    ⟨error, after, refused, -⟩ | ⟨_, _, _, again, ⟨error, -, opened⟩ | ⟨-, opened⟩⟩
  · cases routing.symm.trans refused
  · cases routing.symm.trans again
    rw [opened]
    obtain ⟨later, kept, onward, -⟩ := (steady_dropClient routed newcomer).toOnward.client found
    exact ⟨later, kept, onward⟩
  · cases routing.symm.trans again
    have asked : Traffic none routed (routed.enqueue backend
        (.connect hub (Exchange.routedId routed newcomer) context)).2 :=
      traffic_enqueue routed backend _
    rw [opened]
    obtain ⟨later, kept, onward, -⟩ := asked.client found
    exact ⟨later, kept, onward⟩

/-- A client that its backend could not be asked about is forgotten. -/
theorem forgotten_of_full (orderly : course.Orderly) {error : RouteError} {backend : BackendKey}
    {newcomer : ClientKey} {routed : Switchboard}
    (routing : course.exchange.board.route hub context connectEvent =
      (.ok (backend, newcomer), routed))
    (found : routed.client? newcomer = some entry)
    (refused : (routed.enqueue backend (.connect hub entry.id context)).1 = .error error) :
    course.exchange.openRelay hub context =
        (.error (.route error), ⟨routed.dropClient newcomer, course.exchange.relays⟩) ∧
      (course.take (.openRelay hub context)).Forgotten newcomer := by
  obtain ⟨rfl, -, ⟨-, clients, -⟩, -⟩ := orderly.sound.route_ok routing
  have opened : course.exchange.openRelay hub context = (.error (.route error),
      ⟨routed.dropClient course.exchange.board.clients.length, course.exchange.relays⟩) := by
    have same := enqueue_error refused
    rw [Exchange.openRelay_of_routed routing found]
    cases asked : routed.enqueue backend (.connect hub entry.id context) with
    | mk answer later =>
      rw [asked] at refused same
      obtain rfl : answer = .error error := refused
      obtain rfl : later = routed := same
      rfl
  have exchange : (course.take (.openRelay hub context)).exchange =
      ⟨routed.dropClient course.exchange.board.clients.length, course.exchange.relays⟩ := by
    rw [take, Exchange.perform, opened]
  obtain ⟨_, kept, -⟩ :=
    (steady_dropClient routed course.exchange.board.clients.length).toOnward.client found
  refine ⟨opened, ?_, ?_, ?_⟩
  · rw [exchange]
    exact (List.getElem?_eq_some_iff.1 kept).1
  · rw [holdings_openRelay opened]
    exact fun among => Nat.lt_irrefl _ (orderly.exclusive.bounded _ among)
  · intro key relay present
    rw [exchange] at present
    exact Nat.ne_of_lt (orderly.exclusive.within present)

end Course

end HubRelay
