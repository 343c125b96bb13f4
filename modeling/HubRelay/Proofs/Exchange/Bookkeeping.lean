import HubRelay.Proofs.Exchange.Course

/-!
Contract: the books along every course.

Owns: who holds a registration or a client after a course, that the books agree with it, and what
the names and the counts of hubs therefore are.

Does not own: what goes through queues and relays.

Who holds what is read off the actions alone, for registrations and for clients that were routed by
somebody; a client that was routed for a relay is with the relay until its phase says otherwise.
-/

namespace HubRelay

open Switchboard

/-! ## Who holds which client -/

/-- The client that a relay holds. -/
def Relay.handle? (relay : Relay) : Option ClientKey :=
  if relay.holds then some relay.connection.client else none

/-- The clients that nobody has let go of: those that somebody holds who routed them, and those
that are with a relay. -/
structure Holdings where
  routed : List ClientKey
  relays : List Relay

namespace Holdings

/-- All clients that are held. -/
def clients (holdings : Holdings) : List ClientKey :=
  holdings.routed ++ holdings.relays.filterMap Relay.handle?

/-- Whether a client is held. -/
def holds (holdings : Holdings) (client : ClientKey) : Bool :=
  holdings.clients.contains client

variable {holdings : Holdings} {count : Nat} {key : RelayKey} {relay : Relay}

theorem holds_iff (holdings : Holdings) (client : ClientKey) :
    holdings.holds client = true ↔ client ∈ holdings.routed ∨ ∃ (key : RelayKey) (relay : Relay),
      holdings.relays[key]? = some relay ∧ relay.holds = true ∧
        relay.connection.client = client := by
  rw [holds, List.contains_iff_mem, clients, List.mem_append, List.mem_filterMap]
  refine or_congr Iff.rfl ⟨?_, ?_⟩
  · rintro ⟨relay, member, held⟩
    obtain ⟨key, found⟩ := List.mem_iff_getElem?.1 member
    rw [Relay.handle?] at held
    split at held
    · next holds => exact ⟨key, relay, found, holds, Option.some.inj held⟩
    · contradiction
  · rintro ⟨key, relay, found, holds, rfl⟩
    exact ⟨relay, List.mem_of_getElem? found, by rw [Relay.handle?, if_pos holds]⟩

/-- Nobody holds a client twice, and all clients are among so many. -/
structure Exclusive (holdings : Holdings) (count : Nat) : Prop where
  once : holdings.routed.Nodup
  bounded : ∀ client ∈ holdings.routed, client < count
  within : ∀ {key : RelayKey} {relay : Relay}, holdings.relays[key]? = some relay →
    relay.connection.client < count
  apart : ∀ {key : RelayKey} {relay : Relay}, holdings.relays[key]? = some relay →
    relay.connection.client ∉ holdings.routed
  distinct : ∀ {one other : RelayKey} {relay same : Relay}, holdings.relays[one]? = some relay →
    holdings.relays[other]? = some same →
      same.connection.client = relay.connection.client → other = one

namespace Exclusive

theorem grow {more : Nat} (exclusive : holdings.Exclusive count) (grown : count ≤ more) :
    holdings.Exclusive more :=
  { exclusive with
    bounded := fun client member => Nat.lt_of_lt_of_le (exclusive.bounded client member) grown
    within := fun found => Nat.lt_of_lt_of_le (exclusive.within found) grown }

theorem route (exclusive : holdings.Exclusive count) :
    Exclusive { holdings with routed := holdings.routed ++ [count] } (count + 1) where
  once := by
    refine List.nodup_append.2 ⟨exclusive.once, by simp, ?_⟩
    intro client member last isLast
    rw [List.mem_singleton.1 isLast]
    exact Nat.ne_of_lt (exclusive.bounded client member)
  bounded := by
    intro client member
    rcases List.mem_append.1 member with old | new
    · exact Nat.lt_succ_of_lt (exclusive.bounded client old)
    · rw [List.mem_singleton.1 new]
      exact Nat.lt_succ_self count
  within := fun found => Nat.lt_succ_of_lt (exclusive.within found)
  apart := by
    intro key relay found member
    rcases List.mem_append.1 member with old | new
    · exact exclusive.apart found old
    · exact Nat.ne_of_lt (exclusive.within found) (List.mem_singleton.1 new)
  distinct := exclusive.distinct

theorem release (exclusive : holdings.Exclusive count) (client : ClientKey) :
    Exclusive { holdings with routed := holdings.routed.filter (· ≠ client) } count where
  once := exclusive.once.filter _
  bounded := fun other member => exclusive.bounded other (List.mem_filter.1 member).1
  within := exclusive.within
  apart := fun found member => exclusive.apart found (List.mem_filter.1 member).1
  distinct := exclusive.distinct

theorem openRelay (exclusive : holdings.Exclusive count) (new : relay.connection.client = count) :
    Exclusive { holdings with relays := holdings.relays ++ [relay] } (count + 1) where
  once := exclusive.once
  bounded := fun client member => Nat.lt_succ_of_lt (exclusive.bounded client member)
  within := by
    intro key entry found
    rcases entry_of_concat found with old | ⟨-, rfl⟩
    · exact Nat.lt_succ_of_lt (exclusive.within old)
    · exact new ▸ Nat.lt_succ_self _
  apart := by
    intro key entry found member
    rcases entry_of_concat found with old | ⟨-, rfl⟩
    · exact exclusive.apart old member
    · exact Nat.lt_irrefl count (new ▸ exclusive.bounded _ member)
  distinct := by
    intro one other entry same found foundSame agree
    rcases entry_of_concat found with old | ⟨place, rfl⟩
    · rcases entry_of_concat foundSame with oldSame | ⟨-, rfl⟩
      · exact exclusive.distinct old oldSame agree
      · have below := exclusive.within old
        rw [← agree, new] at below
        exact absurd below (Nat.lt_irrefl count)
    · rcases entry_of_concat foundSame with oldSame | ⟨placeSame, -⟩
      · have below := exclusive.within oldSame
        rw [agree, new] at below
        exact absurd below (Nat.lt_irrefl count)
      · rw [place, placeSame]

theorem setPhase (exclusive : holdings.Exclusive count) (key : RelayKey) (phase : RelayPhase) :
    Exclusive { holdings with
      relays := holdings.relays.modify key fun relay => { relay with phase := phase } } count := by
  -- its connection stays
  have before {other : RelayKey} {entry : Relay} (found : (holdings.relays.modify key fun relay =>
      { relay with phase := phase })[other]? = some entry) :
      ∃ earlier, holdings.relays[other]? = some earlier ∧
        entry.connection = earlier.connection := by
    rcases entry_of_modify found with ⟨-, earlier, here, rfl⟩ | ⟨-, here⟩
    · exact ⟨earlier, here, rfl⟩
    · exact ⟨entry, here, rfl⟩
  constructor
  case once => exact exclusive.once
  case bounded => exact exclusive.bounded
  case within =>
    intro other entry found
    obtain ⟨earlier, here, same⟩ := before found
    exact same ▸ exclusive.within here
  case apart =>
    intro other entry found
    obtain ⟨earlier, here, same⟩ := before found
    exact same ▸ exclusive.apart here
  case distinct =>
    intro one other entry same found foundSame agree
    obtain ⟨earlier, here, connection⟩ := before found
    obtain ⟨earlierSame, hereSame, connectionSame⟩ := before foundSame
    rw [connection, connectionSame] at agree
    exact exclusive.distinct here hereSame agree

theorem lt_of_holds (exclusive : holdings.Exclusive count) {client : ClientKey}
    (held : holdings.holds client = true) : client < count := by
  rcases (holdings.holds_iff client).1 held with member | ⟨key, relay, found, -, rfl⟩
  · exact exclusive.bounded client member
  · exact exclusive.within found

theorem nodup_clients (exclusive : holdings.Exclusive count) : holdings.clients.Nodup := by
  have handled {relay : Relay} {client : ClientKey} (handle : relay.handle? = some client) :
      relay.connection.client = client := by
    rw [Relay.handle?] at handle
    split at handle
    · exact Option.some.inj handle
    · contradiction
  refine List.nodup_append.2 ⟨exclusive.once, ?_, ?_⟩
  · refine List.pairwise_filterMap.2 (List.pairwise_iff_getElem.2 ?_)
    intro one other withinOne withinOther ordered client handle same handleSame agree
    have equal := exclusive.distinct (List.getElem?_eq_getElem withinOne)
      (List.getElem?_eq_getElem withinOther) (by rw [handled handle, handled handleSame, agree])
    exact Nat.ne_of_gt ordered equal
  · intro client routed same member agree
    obtain ⟨relay, found, handle⟩ := List.mem_filterMap.1 member
    obtain ⟨key, here⟩ := List.mem_iff_getElem?.1 found
    refine exclusive.apart here ?_
    rw [handled handle, ← agree]
    exact routed

end Exclusive

/-! ## How holdings change -/

theorem holds_route (holdings : Holdings) (client other : ClientKey) :
    holds { holdings with routed := holdings.routed ++ [client] } other =
      (holdings.holds other || other == client) := by
  rw [Bool.eq_iff_iff, Bool.or_eq_true, beq_iff_eq, holds_iff, holds_iff]
  simp only [List.mem_append, List.mem_singleton]
  exact or_right_comm

theorem holds_release {client : ClientKey}
    (apart : ∀ (key : RelayKey) (relay : Relay), holdings.relays[key]? = some relay →
      relay.connection.client ≠ client) (other : ClientKey) :
    holds { holdings with routed := holdings.routed.filter (· ≠ client) } other =
      (holdings.holds other && other != client) := by
  rw [Bool.eq_iff_iff, Bool.and_eq_true, bne_iff_ne, holds_iff, holds_iff]
  simp only [List.mem_filter, decide_eq_true_eq]
  constructor
  · rintro (⟨member, different⟩ | ⟨key, relay, found, held, rfl⟩)
    · exact ⟨Or.inl member, different⟩
    · exact ⟨Or.inr ⟨key, relay, found, held, rfl⟩, apart key relay found⟩
  · rintro ⟨member | relayed, different⟩
    · exact Or.inl ⟨member, different⟩
    · exact Or.inr relayed

theorem holds_openRelay (holdings : Holdings) (held : relay.holds = true) (other : ClientKey) :
    holds { holdings with relays := holdings.relays ++ [relay] } other =
      (holdings.holds other || other == relay.connection.client) := by
  rw [Bool.eq_iff_iff, Bool.or_eq_true, beq_iff_eq, holds_iff, holds_iff]
  constructor
  · rintro (member | ⟨key, entry, found, heldEntry, rfl⟩)
    · exact Or.inl (Or.inl member)
    · rcases entry_of_concat found with old | ⟨-, rfl⟩
      · exact Or.inl (Or.inr ⟨key, entry, old, heldEntry, rfl⟩)
      · exact Or.inr rfl
  · rintro ((member | ⟨key, entry, found, heldEntry, rfl⟩) | rfl)
    · exact Or.inl member
    · exact Or.inr ⟨key, entry, getElem?_concat_of_some relay found, heldEntry, rfl⟩
    · exact Or.inr ⟨_, relay, List.getElem?_concat_length, held, rfl⟩

theorem holds_setPhase (found : holdings.relays[key]? = some relay) {phase : RelayPhase}
    (same : { relay with phase := phase }.holds = relay.holds) (other : ClientKey) :
    holds { holdings with
      relays := holdings.relays.modify key fun relay => { relay with phase := phase } } other =
        holdings.holds other := by
  rw [Bool.eq_iff_iff, holds_iff, holds_iff]
  refine or_congr Iff.rfl ⟨?_, ?_⟩
  · rintro ⟨position, entry, here, held, rfl⟩
    rcases entry_of_modify here with ⟨rfl, before, old, rfl⟩ | ⟨-, old⟩
    · obtain rfl : relay = before := Option.some.inj (found.symm.trans old)
      exact ⟨key, relay, found, same ▸ held, rfl⟩
    · exact ⟨position, entry, old, held, rfl⟩
  · rintro ⟨position, entry, here, held, rfl⟩
    by_cases acting : key = position
    · subst acting
      obtain rfl : relay = entry := Option.some.inj (found.symm.trans here)
      exact ⟨key, _, getElem?_modify_of_some _ found, same.trans held, rfl⟩
    · exact ⟨position, entry, (List.getElem?_modify_ne _ _ acting).trans here, held, rfl⟩

/-- A relay that holds its client no more leaves everybody else with theirs. -/
theorem holds_setPhase_of_left (exclusive : holdings.Exclusive count)
    (found : holdings.relays[key]? = some relay) {phase : RelayPhase}
    (left : { relay with phase := phase }.holds = false) (other : ClientKey) :
    holds { holdings with
      relays := holdings.relays.modify key fun relay => { relay with phase := phase } } other =
        (holdings.holds other && other != relay.connection.client) := by
  rw [Bool.eq_iff_iff, Bool.and_eq_true, bne_iff_ne, holds_iff, holds_iff]
  constructor
  · rintro (member | ⟨position, entry, here, held, rfl⟩)
    · exact ⟨Or.inl member, fun same => exclusive.apart found (same ▸ member)⟩
    · rcases entry_of_modify here with ⟨rfl, before, old, rfl⟩ | ⟨different, old⟩
      · obtain rfl : relay = before := Option.some.inj (found.symm.trans old)
        rw [left] at held
        contradiction
      · exact ⟨Or.inr ⟨position, entry, old, held, rfl⟩,
          fun same => different (exclusive.distinct old found same.symm)⟩
  · rintro ⟨member | ⟨position, entry, here, held, rfl⟩, different⟩
    · exact Or.inl member
    · have acting : key ≠ position := by
        rintro rfl
        obtain rfl : relay = entry := Option.some.inj (found.symm.trans here)
        exact different rfl
      exact Or.inr ⟨position, entry, (List.getElem?_modify_ne _ _ acting).trans here, held, rfl⟩

end Holdings

/-! ## Who holds what after a course -/

namespace Moment

/-- The registrations that are neither closed nor dropped, after one thing more has happened. -/
def registrations (keys : List BackendKey) (moment : Moment) : List BackendKey :=
  match moment.action with
  | .request (.register hub identity events) =>
    keys ++ (moment.before.board.tryRegister hub identity events).1.toList
  | .request (.close backend) | .request (.drop backend) => keys.filter (· ≠ backend)
  | _ => keys

/-- The clients that are held by somebody who routed them, after one thing more has happened. -/
def routed (keys : List ClientKey) (moment : Moment) : List ClientKey :=
  match moment.action with
  | .request (.route hub context event) =>
    match (moment.before.board.route hub context event).1 with
    | .ok (_, client) => keys ++ [client]
    | .error _ => keys
  | .release client => keys.filter (· ≠ client)
  | _ => keys

end Moment

namespace Course

/-- The registrations that are neither closed nor dropped. -/
def registrations (course : Course) : List BackendKey :=
  course.past.foldl Moment.registrations []

/-- The clients that nobody has let go of. -/
def holdings (course : Course) : Holdings :=
  ⟨course.past.foldl Moment.routed [], course.exchange.relays⟩

theorem registrations_take (course : Course) (action : Action) :
    (course.take action).registrations =
      Moment.registrations course.registrations ⟨course.exchange, action⟩ := by
  rw [registrations, take, List.foldl_append]
  rfl

theorem holdings_take (course : Course) (action : Action) :
    (course.take action).holdings = ⟨Moment.routed course.holdings.routed
      ⟨course.exchange, action⟩, (course.exchange.perform action).relays⟩ := by
  rw [holdings, take, List.foldl_append]
  rfl

/-- The books are in order and say who holds what. -/
structure Orderly (course : Course) : Prop where
  sound : Sound course.exchange.board course.holdings.holds none
  registered : course.registrations =
    indices course.exchange.board.backends fun _ backend => !backend.queue.closed
  exclusive : course.holdings.Exclusive course.exchange.board.clients.length

variable {course : Course} {settings : Settings}

theorem orderly_start (settings : Settings) : (start settings).Orderly where
  sound := sound_start settings _
  registered := rfl
  exclusive :=
    { once := List.nodup_nil
      bounded := fun client member => absurd member List.not_mem_nil
      within := fun found => by simp [holdings, start, Exchange.start] at found
      apart := fun found => by simp [holdings, start, Exchange.start] at found
      distinct := fun found => by simp [holdings, start, Exchange.start] at found }

/-! ## What keeps the books in order -/

/-- A change of the switchboard alone that leaves everybody with the clients that they hold. -/
theorem Orderly.of_sameHoldings (orderly : course.Orderly) {action : Action}
    (holdings : (course.take action).holdings = course.holdings)
    (sound : Sound (course.take action).exchange.board course.holdings.holds none)
    (onward : Onward none course.exchange.board (course.take action).exchange.board)
    (registered : (course.take action).registrations =
      indices (course.take action).exchange.board.backends fun _ backend =>
        !backend.queue.closed) : (course.take action).Orderly where
  sound := by rw [holdings]; exact sound
  registered := registered
  exclusive := by rw [holdings]; exact orderly.exclusive.grow onward.length_le

theorem Orderly.registered_of_books (orderly : course.Orderly) {later : Switchboard}
    (backends : later.backends.map Backend.unladen =
      course.exchange.board.backends.map Backend.unladen) :
    course.registrations = indices later.backends fun _ backend => !backend.queue.closed := by
  rw [orderly.registered]
  refine (indices_of_map_eq backends fun _ one two agree => ?_).symm
  rw [show one.queue.closed = two.queue.closed from congrArg (·.queue.closed) agree]

theorem Orderly.request_of_stays (orderly : course.Orderly) {request : Request}
    (stays : request.changesBooks = false) : (course.take (.request request)).Orderly := by
  have books := sameBooks_perform course.exchange.board stays
  have registrations : (course.take (.request request)).registrations = course.registrations := by
    rw [registrations_take]
    cases request <;> first | rfl | contradiction
  have holdings : (course.take (.request request)).holdings = course.holdings := by
    rw [holdings_take]
    cases request <;> first | rfl | contradiction
  refine orderly.of_sameHoldings holdings (orderly.sound.of_sameBooks books)
    (onward_perform course.exchange.board request) ?_
  rw [registrations]
  exact orderly.registered_of_books books.backends

theorem Orderly.register (orderly : course.Orderly) (hub identity : String)
    (events : List String) :
    (course.take (.request (.register hub identity events))).Orderly := by
  refine orderly.of_sameHoldings (holdings_take course _)
    (orderly.sound.tryRegister hub identity events)
    (onward_perform course.exchange.board (.register hub identity events)) ?_
  rw [registrations_take]
  show course.registrations ++
      (course.exchange.board.tryRegister hub identity events).1.toList =
    indices (course.exchange.board.tryRegister hub identity events).2.backends _
  rcases course.exchange.board.backends_tryRegister hub identity events with
    ⟨backend, opened, key, added⟩ | ⟨nobody, same⟩
  · rw [key, added, indices_concat, orderly.registered]
    simp [opened]
  · rw [nobody, same, orderly.registered]
    exact List.append_nil _

theorem indices_closeBackend (board : Switchboard) (key : BackendKey) :
    indices (board.closeBackend key).backends (fun _ backend => !backend.queue.closed) =
      (indices board.backends fun _ backend => !backend.queue.closed).filter (· ≠ key) := by
  rw [backends_closeBackend]
  exact indices_modify_of_dropped (fun entry _ => by simp [EventQueue.close]) fun _ _ _ => rfl

theorem Orderly.close (orderly : course.Orderly) (key : BackendKey) :
    (course.take (.request (.close key))).Orderly := by
  refine orderly.of_sameHoldings (holdings_take course _) (orderly.sound.closeBackend key)
    (onward_perform course.exchange.board (.close key)) ?_
  rw [registrations_take]
  show course.registrations.filter (· ≠ key) =
    indices (course.exchange.board.closeBackend key).backends _
  rw [indices_closeBackend, orderly.registered]

theorem Orderly.drop (orderly : course.Orderly) (key : BackendKey) :
    (course.take (.request (.drop key))).Orderly := by
  refine orderly.of_sameHoldings (holdings_take course _) (orderly.sound.dropBackend key)
    (onward_perform course.exchange.board (.drop key)) ?_
  rw [registrations_take]
  show course.registrations.filter (· ≠ key) =
    indices (course.exchange.board.dropBackend key).backends _
  rw [indices_of_map_eq (sameBooks_dropBackend course.exchange.board key).backends,
    indices_closeBackend, orderly.registered]
  intro _ one two agree
  rw [show one.queue.closed = two.queue.closed from congrArg (·.queue.closed) agree]

theorem Orderly.route (orderly : course.Orderly) (hub : String) (context : Context)
    (event : String) : (course.take (.request (.route hub context event))).Orderly := by
  have registrations :
      (course.take (.request (.route hub context event))).registrations = course.registrations :=
    registrations_take course _
  have holdings := holdings_take course (.request (.route hub context event))
  simp only [Moment.routed, Exchange.perform] at holdings
  cases routed : course.exchange.board.route hub context event with
  | mk answer later =>
    have board : (course.take (.request (.route hub context event))).exchange.board = later :=
      congrArg Prod.snd routed
    rw [routed] at holdings
    cases answer with
    | error error =>
      rcases course.exchange.board.route_cases hub context event with
        ⟨_, _, answered, traffic⟩ | ⟨_, _, _, _, _, answered⟩
      · obtain ⟨-, rfl⟩ := Prod.mk.inj (routed.symm.trans answered)
        refine orderly.of_sameHoldings holdings ?_ (board ▸ traffic.toOnward) ?_
        · rw [board]
          exact orderly.sound.of_sameBooks traffic.books
        · rw [registrations, board]
          exact orderly.registered_of_books traffic.books.backends
      · rw [routed] at answered
        cases answered
    | ok route =>
      obtain ⟨backend, client⟩ := route
      obtain ⟨rfl, backends, ⟨entry, clients, -⟩, sound⟩ := orderly.sound.route_ok routed
      constructor
      case sound =>
        rw [board, holdings]
        exact sound.congr fun key _ => course.holdings.holds_route _ key
      case registered =>
        rw [registrations, board, backends]
        exact orderly.registered
      case exclusive =>
        rw [board, holdings, clients, List.length_append]
        exact orderly.exclusive.route

/-- A client that somebody lets go of, who is not a relay. -/
theorem Orderly.release (orderly : course.Orderly) (client : ClientKey) :
    (course.take (.release client)).Orderly := by
  have registrations : (course.take (.release client)).registrations = course.registrations :=
    registrations_take course _
  have holdings := holdings_take course (.release client)
  simp only [Moment.routed, Exchange.perform, Exchange.release] at holdings
  by_cases relayed : course.exchange.isRelayed client = true
  · have nothing : (course.take (.release client)).exchange = course.exchange :=
      if_pos relayed
    -- a client of a relay is not among those that somebody else holds
    have apart : client ∉ course.holdings.routed := by
      obtain ⟨relay, member, same⟩ := List.any_eq_true.1 relayed
      obtain ⟨key, found⟩ := List.mem_iff_getElem?.1 member
      exact (beq_iff_eq.1 same) ▸ orderly.exclusive.apart found
    have kept : course.holdings.routed.filter (· ≠ client) = course.holdings.routed :=
      List.filter_eq_self.2 fun other member => by
        simpa using fun same : other = client => apart (same ▸ member)
    rw [if_pos relayed, kept] at holdings
    have same : (course.take (.release client)).holdings = course.holdings := holdings
    refine orderly.of_sameHoldings same ?_ (nothing ▸ .refl _) ?_
    · rw [nothing]
      exact orderly.sound
    · rw [registrations, nothing]
      exact orderly.registered
  · have dropped : (course.take (.release client)).exchange =
        { course.exchange with board := course.exchange.board.dropClient client } :=
      if_neg relayed
    rw [if_neg relayed] at holdings
    have apart (key : RelayKey) (relay : Relay)
        (found : course.exchange.relays[key]? = some relay) :
        relay.connection.client ≠ client := by
      intro same
      refine relayed (List.any_eq_true.2 ⟨relay, List.mem_of_getElem? found, ?_⟩)
      rw [same, beq_self_eq_true]
    have steady := steady_dropClient course.exchange.board client
    constructor
    case sound =>
      rw [holdings, dropped]
      refine (orderly.sound.dropClient client).congr fun other _ => ?_
      exact course.holdings.holds_release apart other
    case registered =>
      rw [registrations, dropped, backends_dropClient]
      exact orderly.registered
    case exclusive =>
      rw [holdings, dropped]
      exact (orderly.exclusive.release client).grow steady.length_le

/-- A client that is new can be let go of at once, because it was held by nobody before. -/
theorem Orderly.sound_dropNew (orderly : course.Orderly) {routed : Switchboard}
    (sound : Sound routed (fun key => course.holdings.holds key ||
      key == course.exchange.board.clients.length) none) :
    Sound (routed.dropClient course.exchange.board.clients.length) course.holdings.holds none := by
  refine (sound.dropClient course.exchange.board.clients.length).congr fun key _ => ?_
  by_cases new : key = course.exchange.board.clients.length
  · subst new
    have free : course.holdings.holds course.exchange.board.clients.length = false :=
      Bool.eq_false_iff.2 fun held => Nat.lt_irrefl _ (orderly.exclusive.lt_of_holds held)
    simp [free]
  · rw [beq_eq_false_iff_ne.2 new, bne_iff_ne.2 new, Bool.or_false, Bool.and_true]

theorem Orderly.openRelay (orderly : course.Orderly) (hub : String) (context : Context) :
    (course.take (.openRelay hub context)).Orderly := by
  have registrations : (course.take (.openRelay hub context)).registrations =
      course.registrations := registrations_take course _
  have holdings : (course.take (.openRelay hub context)).holdings =
      ⟨course.holdings.routed, (course.exchange.perform (.openRelay hub context)).relays⟩ :=
    holdings_take course (.openRelay hub context)
  have exchange : (course.take (.openRelay hub context)).exchange =
      course.exchange.perform (.openRelay hub context) := rfl
  rcases course.exchange.openRelay_cases hub context with
    ⟨error, later, refused, opened⟩ | ⟨backend, client, routed, routing, answer⟩
  · rw [opened] at holdings exchange
    rcases course.exchange.board.route_cases hub context connectEvent with
      ⟨_, _, answered, traffic⟩ | ⟨_, _, _, _, _, answered⟩
    · obtain ⟨-, rfl⟩ := Prod.mk.inj (refused.symm.trans answered)
      refine orderly.of_sameHoldings holdings ?_ (exchange ▸ traffic.toOnward) ?_
      · rw [exchange]
        exact orderly.sound.of_sameBooks traffic.books
      · rw [registrations, exchange]
        exact orderly.registered_of_books traffic.books.backends
    · rw [refused] at answered
      cases answered
  · obtain ⟨rfl, backends, ⟨entry, clients, -⟩, sound⟩ := orderly.sound.route_ok routing
    have count : routed.clients.length = course.exchange.board.clients.length + 1 := by
      rw [clients, List.length_append, List.length_singleton]
    rcases answer with ⟨error, refused, opened⟩ | ⟨accepted, opened⟩
    · rw [opened] at holdings exchange
      have steady := steady_dropClient routed course.exchange.board.clients.length
      have same : (course.take (.openRelay hub context)).holdings = course.holdings := holdings
      constructor
      case sound =>
        rw [same, exchange]
        exact orderly.sound_dropNew sound
      case registered =>
        rw [registrations, exchange, backends_dropClient, backends]
        exact orderly.registered
      case exclusive =>
        rw [same, exchange]
        refine orderly.exclusive.grow (Nat.le_trans ?_ steady.length_le)
        omega
    · rw [opened] at holdings exchange
      have traffic : Traffic none routed (routed.enqueue backend (.connect hub
          (Exchange.routedId routed course.exchange.board.clients.length) context)).2 :=
        traffic_enqueue routed backend _
      constructor
      case sound =>
        rw [holdings, exchange]
        refine (sound.of_sameBooks traffic.books).congr fun key _ => ?_
        exact course.holdings.holds_openRelay rfl key
      case registered =>
        rw [registrations, exchange]
        exact orderly.registered_of_books (backends ▸ traffic.books.backends)
      case exclusive =>
        rw [holdings, exchange]
        have grown := traffic.length_le
        rw [count] at grown
        exact Holdings.Exclusive.grow (orderly.exclusive.openRelay rfl) grown

theorem Orderly.relay (orderly : course.Orderly) (key : RelayKey) (action : RelayAction) :
    (course.take (.relay key action)).Orderly := by
  have registrations : (course.take (.relay key action)).registrations = course.registrations :=
    registrations_take course _
  have holdings : (course.take (.relay key action)).holdings =
      ⟨course.holdings.routed, (course.exchange.performRelay key action).relays⟩ :=
    holdings_take course (.relay key action)
  have exchange : (course.take (.relay key action)).exchange =
      course.exchange.performRelay key action := rfl
  cases found : course.exchange.relay? key with
  | none =>
    have nothing := Exchange.performRelay_of_missing found action
    rw [nothing] at holdings exchange
    refine orderly.of_sameHoldings holdings ?_ (exchange ▸ .refl _) ?_
    · rw [exchange]
      exact orderly.sound
    · rw [registrations, exchange]
      exact orderly.registered
  | some relay =>
    rw [Exchange.performRelay_eq found action] at holdings exchange
    have steady := relay.steady_act course.exchange.board action
    constructor
    case exclusive =>
      rw [holdings, exchange]
      exact (orderly.exclusive.setPhase key _).grow steady.length_le
    case registered =>
      rw [registrations, exchange]
      rcases relay.act_cases course.exchange.board action with
        ⟨traffic, -⟩ | ⟨later, traffic, dropped, -, -⟩
      · exact orderly.registered_of_books traffic.books.backends
      · refine orderly.registered_of_books ?_
        show (relay.act course.exchange.board action).1.backends.map _ = _
        rw [dropped, backends_dropClient]
        exact traffic.books.backends
    case sound =>
      rw [holdings, exchange]
      rcases relay.act_cases course.exchange.board action with
        ⟨traffic, same⟩ | ⟨later, traffic, dropped, held, left⟩
      · refine (orderly.sound.of_sameBooks traffic.books).congr fun other _ => ?_
        exact Holdings.holds_setPhase found same other
      · show Sound (relay.act course.exchange.board action).1 _ none
        rw [dropped]
        refine ((orderly.sound.of_sameBooks traffic.books).dropClient _).congr fun other _ => ?_
        exact Holdings.holds_setPhase_of_left orderly.exclusive found left other

/-- The books are in order along every course. -/
theorem orderly_of (settings : Settings) (actions : List Action) :
    (of settings actions).Orderly := by
  refine induction settings (orderly_start settings) (fun earlier action orderly => ?_) actions
  cases action with
  | request request =>
    cases stays : request.changesBooks with
    | false => exact orderly.request_of_stays stays
    | true =>
      cases request with
      | register hub identity events => exact orderly.register hub identity events
      | close key => exact orderly.close key
      | drop key => exact orderly.drop key
      | route hub context event => exact orderly.route hub context event
      | _ => contradiction
  | release client => exact orderly.release client
  | openRelay hub context => exact orderly.openRelay hub context
  | relay key action => exact orderly.relay key action

end Course

end HubRelay
