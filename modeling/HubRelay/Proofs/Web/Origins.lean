import HubRelay.Proofs.Gateway
import HubRelay.Proofs.Web.Stages

/-!
Contract: which origins are shown the answers of the web interface.

Owns: the origin that an answer names under a list of origins, that the list is the one that the web
interface was started with, whatever happened since, and whom that leaves out.

Does not own: what else is in an answer.

Entries that cannot stand in a header are left out of the list before it is looked whether the list
is empty.  So a list of nothing but such entries is as good as none.
-/

namespace HubRelay

open Text

/-! ## Under a list -/

namespace Http

/-- Whether an entry of a list of origins can stand in a header. -/
def IsUsable (entry : String) : Prop :=
  (Utf8.encodeString entry).all Header.isLegal = true

/-- Whether an answer that names an origin, if it does, may be shown to another one. -/
def Shows (named : Option (List UInt8)) (origin : List UInt8) : Prop :=
  named = some origin ∨ named = some (Utf8.encodeString "*")

/-- What the answer to a request with these headers names under a list of origins. -/
structure NamedUnder (entries : List String) (headers : List Header)
    (named : Option (List UInt8)) : Prop where
  /-- If no entry is usable, all origins are named at once. -/
  everybody : (∀ entry ∈ entries, ¬IsUsable entry) → named = some (Utf8.encodeString "*")
  /-- Otherwise it is the origin of the request, if that is a usable entry. -/
  listed : (∃ entry ∈ entries, IsUsable entry) → ∀ origin, named = some origin ↔
    Header.first? headers "origin" = some origin ∧
      ∃ entry ∈ entries, IsUsable entry ∧ Utf8.encodeString entry = origin
  shown : ∀ origin, Header.first? headers "origin" = some origin → (Shows named origin ↔
    (∃ entry ∈ entries, IsUsable entry ∧ Utf8.encodeString entry = origin) ∨
      ∀ entry ∈ entries, ¬IsUsable entry)

namespace OriginPolicy

variable {entries : List String} {headers : List Header} {origin : List UInt8}

/-- The entries that are left. -/
def usable (entries : List String) : List (List UInt8) :=
  (entries.map Utf8.encodeString).filter fun origin => origin.all Header.isLegal

theorem mem_usable_iff : origin ∈ usable entries ↔
    ∃ entry ∈ entries, IsUsable entry ∧ Utf8.encodeString entry = origin := by
  simp only [usable, List.mem_filter, List.mem_map, IsUsable]
  constructor
  · rintro ⟨⟨entry, among, rfl⟩, legal⟩
    exact ⟨entry, among, legal, rfl⟩
  · rintro ⟨entry, among, legal, rfl⟩
    exact ⟨⟨entry, among, rfl⟩, legal⟩

theorem usable_eq_nil_iff : usable entries = [] ↔ ∀ entry ∈ entries, ¬IsUsable entry := by
  simp only [usable, List.filter_eq_nil_iff, List.forall_mem_map, IsUsable]

theorem allowed_of_unusable (unusable : ∀ entry ∈ entries, ¬IsUsable entry) :
    (ofList entries).allowed headers = some (Utf8.encodeString "*") := by
  have none : usable entries = [] := usable_eq_nil_iff.mpr unusable
  rw [usable] at none
  rw [ofList, none, allowed]

theorem allowed_of_usable (exists_usable : ∃ entry ∈ entries, IsUsable entry) :
    (ofList entries).allowed headers = some origin ↔
      Header.first? headers "origin" = some origin ∧
        ∃ entry ∈ entries, IsUsable entry ∧ Utf8.encodeString entry = origin := by
  have policy : ofList entries = .listed (usable entries) := by
    rw [ofList]
    split
    · next none =>
      obtain ⟨entry, among, legal⟩ := exists_usable
      exact absurd legal (usable_eq_nil_iff.mp none entry among)
    · rfl
  rw [policy, allowed, Option.filter_eq_some_iff, List.contains_iff_mem, mem_usable_iff]

theorem namedUnder_allowed (entries : List String) (headers : List Header) :
    NamedUnder entries headers ((ofList entries).allowed headers) := by
  constructor
  case everybody => exact allowed_of_unusable
  case listed => exact fun usable _ => allowed_of_usable usable
  case shown =>
    intro origin asks
    constructor
    · intro isShown
      by_cases unusable : ∀ entry ∈ entries, ¬IsUsable entry
      · exact Or.inr unusable
      · have usable : ∃ entry ∈ entries, IsUsable entry := by simpa using unusable
        rcases isShown with same | any
        · exact Or.inl ((allowed_of_usable usable).mp same).2
        · -- then all origins are an entry, and the origin of the request
          obtain ⟨asked, listed⟩ := (allowed_of_usable usable).mp any
          obtain rfl := Option.some.inj (asks.symm.trans asked)
          exact Or.inl listed
    · rintro (⟨entry, among, legal, same⟩ | unusable)
      · exact Or.inl ((allowed_of_usable ⟨entry, among, legal⟩).mpr
          ⟨asks, entry, among, legal, same⟩)
      · exact Or.inr (allowed_of_unusable unusable)

end OriginPolicy

end Http

/-! ## Whom a list leaves out -/

namespace Http

/-- A request for nothing in particular that comes from an origin. -/
def Request.ofOrigin (origin : List UInt8) : Request :=
  ⟨"GET", "/", [⟨"origin", origin⟩], []⟩

/-- An origin of no meaning that is longer than those of a list. -/
theorem exists_outsider (entries : List String) :
    ∃ origin : List UInt8, (∀ entry ∈ entries, Utf8.encodeString entry ≠ origin) ∧
      Header.first? (Request.ofOrigin origin).received.headers "origin" = some origin := by
  have longer : ∃ bound, ∀ entry ∈ entries, (Utf8.encodeString entry).length < bound := by
    induction entries with
    | nil => exact ⟨0, List.forall_mem_nil _⟩
    | cons entry entries inductionHypothesis =>
      obtain ⟨bound, bounds⟩ := inductionHypothesis
      refine ⟨bound + (Utf8.encodeString entry).length + 1, List.forall_mem_cons.mpr ⟨?_, ?_⟩⟩
      · omega
      · intro other among
        have := bounds other among
        omega
  obtain ⟨bound, bounds⟩ := longer
  refine ⟨List.replicate bound 0x61, fun entry among same => ?_, ?_⟩
  · have short := bounds entry among
    rw [same, List.length_replicate] at short
    exact Nat.lt_irrefl _ short
  · have name : "origin".map Char.toLower = "origin" := by decide +kernel
    simp [Request.ofOrigin, Request.received, Header.received, Header.isGap, Header.first?,
      Header.key, name]

end Http

/-! ## Along a journal -/

namespace Gateway

theorem origins_settleCommands (gateway : Gateway) (key : SocketKey) :
    (gateway.settleCommands key).origins = gateway.origins := by
  unfold settleCommands
  split
  · simp only
    split <;> rfl
  · rfl

/-- No step changes who may be shown answers. -/
theorem origins_perform (gateway : Gateway) (step : Step) :
    (gateway.perform step).origins = gateway.origins := by
  cases step with
  | connect requestId uptime peer request =>
    simp only [perform, Gateway.connect]
    split
    · rfl
    · rfl
    · split <;> rfl
  | send key message =>
    rw [perform, send]
    split <;> rfl
  | cut key =>
    rw [perform, Gateway.cut]
    split
    case h_3 => exact origins_settleCommands _ key
    all_goals rfl
  | receive key => exact origins_settleCommands gateway key
  | goOn requestId key =>
    rw [perform, settleWaiting]
    split
    · split <;> rfl
    · rfl
  | hand key =>
    rw [perform, settleRelaying]
    split
    · split <;> rfl
    · rfl
  | serve key =>
    rw [perform, settleServing]
    split
    · simp only
      split <;> rfl
    · rfl
  | collect => rfl
  | elsewhere action =>
    rw [perform]
    split <;> rfl

theorem Runs.origins {first second : Gateway} (runs : first.Runs second) :
    second.origins = first.origins := by
  obtain ⟨steps, rfl⟩ := runs
  induction steps generalizing first with
  | nil => rfl
  | cons step steps inductionHypothesis =>
    exact inductionHypothesis.trans (first.origins_perform step)

theorem allowed_answer (gateway : Gateway) (requestId : String) (uptime : Nat)
    (request : Http.Request) : (gateway.answer requestId uptime request).2.1 =
      gateway.origins.allowed request.received.headers := by
  have same := (gateway.runs_answer requestId uptime request).origins
  -- the connection is cut only after the answer was given
  have before : (gateway.answer requestId uptime request).2.1 =
      (gateway.answer requestId uptime request).2.2.origins.allowed request.received.headers :=
    congrArg (·.allowed request.received.headers) (origins_perform _ (.cut _)).symm
  rw [before, same]

/-- An answer that a socket is told in a turn names what its request allows. -/
theorem allowed_of_turns {gateway : Gateway} {step : Step} {key : SocketKey} {socket : Socket}
    {use : SocketUse} {news : List SocketNews} {response : Http.Response}
    {named : Option (List UInt8)} (found : gateway.socket? key = some socket)
    (turns : gateway.Turns step key socket use news)
    (among : SocketNews.answered response named ∈ news) :
    named = gateway.origins.allowed socket.headers := by
  have noPayload (payloads : List Payload) :
      SocketNews.answered response named ∉ payloads.map .ofPayload := by
    intro inside
    obtain ⟨payload, -, same⟩ := List.mem_map.mp inside
    have answer := SocketNews.isAnswer_ofPayload payload
    rw [same] at answer
    cases answer
  have noEvent (events : List Event) :
      SocketNews.answered response named ∉ events.map .event := by
    intro inside
    obtain ⟨event, -, same⟩ := List.mem_map.mp inside
    cases same
  obtain ⟨headers, before, left⟩ := socket
  cases turns.turn with
  | @refuse requestId _ _ _ _ _ phase =>
    rw [← turns.told, (turns_refuse found phase requestId).told] at among
    exact (SocketNews.answered.inj (List.mem_singleton.mp among)).2
  | rest | keep | sever => exact absurd among List.not_mem_nil
  | letIn => cases List.mem_singleton.mp among
  | hand payloads => exact absurd among (noPayload payloads)
  | leave payloads =>
    rcases List.mem_append.mp among with inside | last
    · exact absurd inside (noPayload payloads)
    · cases List.mem_singleton.mp last
  | serve events => exact absurd among (noEvent events)
  | stop events =>
    rcases List.mem_append.mp among with inside | last
    · exact absurd inside (noEvent events)
    · cases List.mem_singleton.mp last

/-- What a request opens is a socket with its headers, and if the request is answered at once, the
answer names what they allow. -/
theorem news_connect (gateway : Gateway) (requestId : String) (uptime : Nat)
    (peer : Option SocketAddress) (request : Http.Request) :
    ∃ use news, (gateway.perform (.connect requestId uptime peer request)).sockets =
        gateway.sockets ++ [⟨request.received.headers, use, news⟩] ∧
      ∀ response named, SocketNews.answered response named ∈ news →
        named = gateway.origins.allowed request.received.headers := by
  simp only [perform, Gateway.connect]
  split
  · refine ⟨_, _, rfl, fun response named among => ?_⟩
    exact (SocketNews.answered.inj (List.mem_singleton.mp among)).2
  · exact ⟨_, _, rfl, fun _ _ among => absurd among List.not_mem_nil⟩
  · split
    · refine ⟨_, _, rfl, fun response named among => ?_⟩
      cases List.mem_singleton.mp among
    · exact ⟨_, _, rfl, fun response named among => by simp at among⟩

/-- A socket that is not there is told nothing. -/
theorem tells_of_missing {gateway : Gateway} {step : Step} {key : SocketKey}
    (missing : (gateway.perform step).sockets.length ≤ key) : gateway.tells step key = [] := by
  rw [tells, newsOf_of_missing missing, List.drop_nil]

theorem allowed_of_opened {gateway : Gateway} {step : Step} {key : SocketKey}
    {response : Http.Response} {named : Option (List UInt8)}
    (missing : gateway.socket? key = none)
    (among : SocketNews.answered response named ∈ gateway.tells step key) :
    ∃ socket, (gateway.perform step).socket? key = some socket ∧
      named = gateway.origins.allowed socket.headers := by
  have beyond : gateway.sockets.length ≤ key := List.getElem?_eq_none_iff.mp missing
  by_cases opens : ∃ requestId uptime peer request, step = .connect requestId uptime peer request
  · obtain ⟨requestId, uptime, peer, request, rfl⟩ := opens
    obtain ⟨use, news, opened, names⟩ := gateway.news_connect requestId uptime peer request
    rcases Nat.lt_or_eq_of_le beyond with further | rfl
    · have none : gateway.tells (.connect requestId uptime peer request) key = [] := by
        refine tells_of_missing ?_
        rw [opened, List.length_append, List.length_singleton]
        exact further
      rw [none] at among
      exact absurd among List.not_mem_nil
    · rw [tells_connect opened] at among
      refine ⟨⟨request.received.headers, use, news⟩, ?_, names response named among⟩
      rw [socket?, opened, List.getElem?_concat_length]
  · have same : (gateway.perform step).sockets.length = gateway.sockets.length :=
      length_perform fun requestId uptime peer request connects =>
        opens ⟨requestId, uptime, peer, request, connects⟩
    rw [tells_of_missing (same ▸ beyond)] at among
    exact absurd among List.not_mem_nil

end Gateway

namespace Journal

/-- All answers that were told name what the request of the socket allows. -/
def Shown (journal : Journal) : Prop :=
  ∀ key response named, SocketNews.answered response named ∈ journal.told key →
    ∃ socket, journal.gateway.socket? key = some socket ∧
      named = journal.gateway.origins.allowed socket.headers

theorem Shown.take {journal : Journal} (known : journal.Shown) (step : Gateway.Step) :
    (journal.take step).Shown := by
  intro key response named among
  rw [told_take] at among
  show ∃ socket, (journal.gateway.perform step).socket? key = some socket ∧
    named = (journal.gateway.perform step).origins.allowed socket.headers
  rw [Gateway.origins_perform]
  cases found : journal.gateway.socket? key with
  | some socket =>
    obtain ⟨use, news, turns⟩ := Gateway.turns_perform found step
    obtain ⟨left, after⟩ := turns.found
    refine ⟨⟨socket.headers, use, left⟩, after, ?_⟩
    show named = journal.gateway.origins.allowed socket.headers
    rcases List.mem_append.mp among with before | now
    · obtain ⟨_, there, same⟩ := known key response named before
      obtain rfl := Option.some.inj (found.symm.trans there)
      exact same
    · rw [turns.told] at now
      exact Gateway.allowed_of_turns found turns now
  | none =>
    rcases List.mem_append.mp among with before | now
    · obtain ⟨_, there, -⟩ := known key response named before
      cases found.symm.trans there
    · exact Gateway.allowed_of_opened found now

theorem shown_of (settings : Settings) (origins : List String) (steps : List Gateway.Step) :
    (of settings origins steps).Shown :=
  induction (motive := Shown) (fun _ _ _ among => absurd among List.not_mem_nil)
    (fun _ step known => known.take step) steps

theorem origins_of (settings : Settings) (origins : List String) (steps : List Gateway.Step) :
    (of settings origins steps).gateway.origins = .ofList origins := by
  have runs : (Gateway.start settings origins).Runs (of settings origins steps).gateway :=
    ⟨steps, (gateway_run (start settings origins) steps).symm⟩
  exact runs.origins

end Journal

namespace Visit

/-- The socket of a request keeps its headers. -/
theorem socket?_after (visit : Visit) (later : List Gateway.Step) :
    ∃ use left, (visit.after later).gateway.socket? visit.socket =
      some ⟨visit.headers, use, left⟩ := by
  refine Journal.induction (motive := fun journal => ∃ use left,
    journal.gateway.socket? visit.socket = some ⟨visit.headers, use, left⟩) ?_ ?_ later
  · obtain ⟨use, left, opened, -⟩ := visit.before.gateway.socket?_connect visit.requestId
      visit.uptime visit.peer visit.request
    exact ⟨use, left, (congrArg (·[visit.socket]?) opened).trans List.getElem?_concat_length⟩
  · rintro earlier step ⟨use, left, found⟩
    obtain ⟨_, _, turns⟩ := Gateway.turns_perform found step
    exact ⟨_, turns.found⟩

end Visit

/-! ## Whom answers are shown to -/

/-- What answers name along every journal of the web interface. -/
structure Journal.NamesOrigins (settings : Settings) (origins : List String) : Prop where
  answers : ∀ steps requestId uptime request, Http.NamedUnder origins request.received.headers
    ((of settings origins steps).gateway.answer requestId uptime request).2.1
  told : ∀ steps (visit : Visit) later response named, visit.before = .of settings origins steps →
    .answered response named ∈ visit.answers later → Http.NamedUnder origins visit.headers named
  /-- Nobody is left out exactly if no entry is usable. -/
  everybody : ∀ steps requestId uptime, (∀ request origin,
      Http.Header.first? request.received.headers "origin" = some origin →
        Http.Shows ((of settings origins steps).gateway.answer requestId uptime request).2.1
          origin) ↔
    ∀ entry ∈ origins, ¬Http.IsUsable entry

/-- Under a list of origins with a usable entry, answers are shown to the usable entries and to no
other origin, whatever has happened.  Without one they are shown to everybody, be the list empty or
not. -/
theorem Journal.origins_named (settings : Settings) (origins : List String) :
    NamesOrigins settings origins := by
  have named (steps : List Gateway.Step) (requestId : String) (uptime : Nat)
      (request : Http.Request) : Http.NamedUnder origins request.received.headers
        ((of settings origins steps).gateway.answer requestId uptime request).2.1 := by
    rw [Gateway.allowed_answer, origins_of]
    exact Http.OriginPolicy.namedUnder_allowed ..
  constructor
  case answers => exact named
  case told =>
    intro steps visit later response name known among
    have after := Visit.after_eq known later
    obtain ⟨isTold, -⟩ := List.mem_filter.mp among
    have shown : (visit.after later).Shown := by
      rw [after]
      exact shown_of settings origins _
    obtain ⟨socket, there, rfl⟩ := shown _ _ _ isTold
    obtain ⟨use, left, found⟩ := visit.socket?_after later
    obtain rfl := Option.some.inj (found.symm.trans there)
    rw [after, origins_of]
    exact Http.OriginPolicy.namedUnder_allowed ..
  case everybody =>
    intro steps requestId uptime
    constructor
    · intro open' entry among usable
      obtain ⟨origin, unlisted, asks⟩ := Http.exists_outsider origins
      rcases ((named steps requestId uptime _).shown origin asks).mp (open' _ origin asks) with
        ⟨listed, isEntry, -, same⟩ | unusable
      · exact unlisted listed isEntry same
      · exact unusable entry among usable
    · intro unusable request origin asks
      exact ((named steps requestId uptime request).shown origin asks).mpr (Or.inr unusable)

/-- A list that is not empty, but of which no entry is usable, leaves nobody out. -/
theorem Journal.unusable_leaves_nobody : ¬∀ settings (origins : List String), origins ≠ [] →
    ∀ steps requestId uptime request origin,
      Http.Header.first? request.received.headers "origin" = some origin →
        Http.Shows ((of settings origins steps).gateway.answer requestId uptime request).2.1
          origin → ∃ entry ∈ origins, Utf8.encodeString entry = origin := by
  intro closed
  let request : Http.Request :=
    ⟨"GET", "/health/live", [⟨"origin", Utf8.encodeString "http://a"⟩], []⟩
  have asks : Http.Header.first? request.received.headers "origin" =
      some (Utf8.encodeString "http://a") := by
    decide +kernel
  have shown : Http.Shows ((of .standard ["bad\norigin"] []).gateway.answer "id" 0 request).2.1
      (Utf8.encodeString "http://a") := by
    refine Or.inr ?_
    rw [Gateway.allowed_answer, origins_of]
    decide +kernel
  obtain ⟨entry, among, same⟩ := closed .standard ["bad\norigin"] (by decide) [] "id" 0 request _
    asks shown
  rw [List.mem_singleton.mp among] at same
  exact absurd same (by decide +kernel)

end HubRelay
