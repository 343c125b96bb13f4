import HubRelay.Proofs.Exchange.Admission
import HubRelay.Proofs.Utf8.Order
import HubRelay.Proofs.Web.Commands

/-!
Contract: a backend that listens is considered for the events that its request names.

Owns: that a backend is among the candidates for an event exactly if it is open and the event was
asked for; what the names in a list of events are; and that the backend of a request is registered
for these, and stays so.

Does not own: which one of several candidates is picked.
-/

namespace HubRelay

namespace Switchboard

variable {board : Switchboard} {held : ClientKey → Bool} {key : BackendKey} {backend : Backend}

/-- The candidates for an event are the open backends of the hub that want it. -/
theorem mem_candidatesIn_iff (sound : Sound board held none)
    (found : board.backend? key = some backend) (event : String) :
    key ∈ board.candidatesIn backend.hub event ↔
      backend.queue.closed = false ∧ backend.wants event = true := by
  have considered :
      board.isCandidate event key = (!backend.queue.closed && backend.wants event) := by
    rw [isCandidate, found]
  cases mapped : board.hub? backend.hub with
  | none =>
    rw [candidatesIn, mapped]
    constructor
    · exact fun among => absurd among List.not_mem_nil
    · rintro ⟨opened, -⟩
      rw [sound.backendMapped found opened] at mapped
      cases mapped
  | some home =>
    obtain ⟨registry, here, -⟩ := sound.mapped mapped
    have inHub : board.backendIn backend.hub key = true := by
      rw [backendIn, found]
      exact beq_self_eq_true backend.hub
    have listed : key ∈ indices board.backends (fun _ backend => !backend.queue.closed) ↔
        backend.queue.closed = false := by
      rw [mem_indices, show board.backends[key]? = some backend from found]
      simp only [Option.some.injEq, exists_eq_left', Bool.not_eq_true']
    rw [candidatesIn_of_mapped mapped here, candidates, List.mem_filter, considered,
      sound.backends_eq mapped here, List.mem_filter, listed, and_iff_left inHub, Bool.and_eq_true,
      Bool.not_eq_true', ← and_assoc, and_self]

/-- Whether a backend of a hub wants some events, and is considered for these as long as it is
open. -/
def Attends (board : Switchboard) (key : BackendKey) (hub : String) (wanted : String → Prop) :
    Prop :=
  ∃ backend, board.backend? key = some backend ∧ backend.hub = hub ∧ ∀ event,
    (backend.wants event = true ↔ wanted event) ∧
      (key ∈ board.candidatesIn hub event ↔ backend.queue.closed = false ∧ wanted event)

theorem attends_of_found (sound : Sound board held none)
    (found : board.backend? key = some backend) {hub : String} (home : backend.hub = hub)
    {wanted : String → Prop} (wants : ∀ event, backend.wants event = true ↔ wanted event) :
    board.Attends key hub wanted := by
  subst home
  refine ⟨backend, found, rfl, fun event => ⟨wants event, ?_⟩⟩
  rw [mem_candidatesIn_iff sound found event, wants event]

theorem wants_of_asRegistered {later : Backend} (same : later.asRegistered = backend.asRegistered)
    (event : String) : later.wants event = backend.wants event := by
  have events : later.events = backend.events := congrArg (·.events) same
  rw [Backend.wants, Backend.wants, events]

end Switchboard

namespace Journal

open Switchboard

variable {settings : Settings} {origins : List String} {steps : List Gateway.Step} {hub : String}
  {interest : Interest} {request : Http.Request}

theorem of_append (settings : Settings) (origins : List String) (steps more : List Gateway.Step) :
    of settings origins (steps ++ more) = (of settings origins steps).run more :=
  List.foldl_append

/-- Registering comes about after every journal of settings that allow for backends, and after no
other. -/
theorem isSome_tryRegister_iff (settings : Settings) (origins : List String)
    (steps : List Gateway.Step) (hub identity : String) (events : List String) :
    ((of settings origins steps).gateway.exchange.board.tryRegister hub identity
      events).1.isSome = true ↔ settings.Admits := by
  obtain ⟨actions, same⟩ := course_of settings origins steps
  rw [← (of settings origins steps).same, same]
  exact Course.isSome_tryRegister_iff settings actions hub identity events

theorem lasting_run (journal : Journal) (more : List Gateway.Step) :
    Lasting journal.gateway.exchange.board (journal.run more).gateway.exchange.board :=
  induction (motive := fun later => Lasting journal.gateway.exchange.board
    later.gateway.exchange.board) (.refl _)
    (fun _ step lasting => lasting.trans (Gateway.lasting_perform _ step)) more

/-- Whether the backend at a socket wants some events of a hub, and is considered for these, for as
long as it is open. -/
def Enlists (journal : Journal) (key : SocketKey) (hub : String) (wanted : String → Prop) : Prop :=
  ∃ backend, journal.gateway.use? key = some (.serving backend []) ∧
    ∀ more, (journal.run more).gateway.exchange.board.Attends backend hub wanted

/-- Whoever listens is registered for the names in the list of events, if the settings allow for
backends. -/
theorem enlists_of_listens (admits : settings.Admits)
    (listens : request.received.listens? = some (hub, interest)) (requestId : String)
    (uptime : Nat) (peer : Option SocketAddress) :
    ((of settings origins steps).take (.connect requestId uptime peer request)).Enlists
      (of settings origins steps).gateway.sockets.length hub
        (· ∈ Interest.namesIn interest.events) := by
  let step := Gateway.Step.connect requestId uptime peer request
  obtain ⟨held, sound⟩ := (tidy_of settings origins steps).sound
  obtain ⟨used, board⟩ := (of settings origins steps).gateway.use?_connect listens requestId uptime
    peer
  obtain ⟨backend, registered⟩ := Option.isSome_iff_exists.1
    ((isSome_tryRegister_iff settings origins steps hub _ _).2 admits)
  obtain ⟨entry, found, home, events⟩ := backend?_tryRegister sound registered
  rw [registered] at used
  refine ⟨backend, used, fun more => ?_⟩
  have whole : ((of settings origins steps).take step).run more =
      of settings origins (steps ++ step :: more) :=
    (of_append settings origins steps (step :: more)).symm
  have lasting := lasting_run ((of settings origins steps).take step) more
  obtain ⟨heldLater, soundLater⟩ := (tidy_of settings origins (steps ++ step :: more)).sound
  rw [whole] at lasting ⊢
  obtain ⟨later, here, same⟩ := lasting.backend? ((congrArg (·.backend? backend) board).trans found)
  apply attends_of_found soundLater here ((congrArg (·.hub) same).trans home)
  intro event
  rw [wants_of_asRegistered same, Backend.wants, events, List.contains_iff_mem,
    Interest.mem_sortNames]
  rfl

/-- Nobody listens if the settings do not allow for backends: the socket is over at once. -/
theorem over_of_listens (refuses : ¬ settings.Admits)
    (listens : request.received.listens? = some (hub, interest)) (requestId : String)
    (uptime : Nat) (peer : Option SocketAddress) :
    ((of settings origins steps).take (.connect requestId uptime peer request)).gateway.use?
      (of settings origins steps).gateway.sockets.length = some .over := by
  have brokeOff := mt (isSome_tryRegister_iff settings origins steps hub
    ((interest.name.or (peer.map (·.text))).getD "unknown") interest.eventNames).1 refuses
  have used := ((of settings origins steps).gateway.use?_connect listens requestId uptime peer).1
  rw [Option.not_isSome_iff_eq_none.1 brokeOff] at used
  exact used

end Journal

/-! ## Lists of events -/

namespace Interest

/-- A list of events is read as the names that stand between its commas, and whoever listens with it
is considered for these. -/
structure ReadsExactly (events : String) : Prop where
  /-- The list can be cut at its commas in one way. -/
  oneCut : ∃ cut, ∀ other, IsCut events other ↔ other = cut
  /-- The names are what is left of the pieces without white space, unless that is empty. -/
  names : ∀ cut, IsCut events cut → ∀ name, name ∈ namesIn events ↔
    name ≠ "" ∧ ∃ piece ∈ cut, Text.Blank.Trims piece name
  /-- They come in the order of their bytes, each once. -/
  ascending : (namesIn events).Pairwise fun earlier later =>
    Text.Utf8.encodeString earlier < Text.Utf8.encodeString later
  /-- Pieces may change places and be repeated, and white space may be added to them and in further
  pieces. -/
  edited : ∀ cut other, IsCut events cut → Relation.EqvGen Edits cut other →
    namesIn (",".intercalate other) = namesIn events
  /-- The names with commas between them are read as the same names. -/
  again : namesIn (",".intercalate (namesIn events)) = namesIn events
  /-- Whoever asks to listen on a hub with this list wants what a piece of it names, and is
  considered for that from then on, as long as it is open; unless nobody can be registered, and then
  nobody listens. -/
  enlists : ∀ settings origins steps requestId uptime peer (request : Http.Request) hub interest,
    ∀ cut, request.received.listens? = some (hub, interest) → interest.events = events →
      IsCut events cut → settings.Admits →
        ((Journal.of settings origins steps).take
          (.connect requestId uptime peer request)).Enlists
            (Journal.of settings origins steps).gateway.sockets.length hub fun event =>
              event ≠ "" ∧ ∃ piece ∈ cut, Text.Blank.Trims piece event
  unheard : ∀ settings origins steps requestId uptime peer (request : Http.Request) hub interest,
    request.received.listens? = some (hub, interest) → ¬ settings.Admits →
      ((Journal.of settings origins steps).take
        (.connect requestId uptime peer request)).gateway.use?
          (Journal.of settings origins steps).gateway.sockets.length = some .over

theorem readsExactly (events : String) : ReadsExactly events := by
  constructor
  case oneCut => exact ⟨_, fun other => isCut_iff⟩
  case names => exact fun cut isCut name => mem_namesIn_iff isCut
  case ascending =>
    apply (ascending_namesIn events).imp
    intro earlier later below
    exact (Text.Utf8.lt_iff_encodeString_lt earlier later).1 below
  case edited => exact fun cut other isCut edited => namesIn_edited isCut edited
  case again => exact namesIn_intercalate_namesIn events
  case enlists =>
    intro settings origins steps requestId uptime peer request hub interest cut listens same isCut
      admits
    subst same
    have wanted : (· ∈ namesIn interest.events) = Named cut :=
      funext fun event => propext (mem_namesIn_iff isCut)
    have enlists : ((Journal.of settings origins steps).take _).Enlists _ hub _ :=
      Journal.enlists_of_listens admits listens requestId uptime peer
    rw [wanted] at enlists
    exact enlists
  case unheard =>
    intro settings origins steps requestId uptime peer request hub interest listens refuses
    exact Journal.over_of_listens refuses listens requestId uptime peer

/-- Somebody asks to listen on a hub for two events. -/
def joining : Http.Request :=
  .toListen "chat" ⟨"move, join", none⟩

theorem joining_enlisted :
    joining.received.listens? = some ("chat", ⟨"move, join", none⟩) ∧
      ((Journal.of .standard [] []).take (.connect "r" 0 none joining)).Enlists 0 "chat"
        fun event => event ≠ "" ∧ ∃ piece ∈ ["move", " join"], Text.Blank.Trims piece event := by
  have listens : joining.received.listens? = some ("chat", ⟨"move, join", none⟩) :=
    Http.Request.listens?_toListen (by decide) ⟨"move, join", none⟩
  have isCut : IsCut "move, join" ["move", " join"] := ⟨by decide, by decide, by decide +kernel⟩
  have read := readsExactly "move, join"
  exact ⟨listens, read.enlists .standard [] [] "r" 0 none joining "chat" _ _ listens rfl isCut
    (by decide)⟩

-- A no-break space is white space too.
example : namesIn "move, join\u00A0,, ,join,move,Join" = ["Join", "join", "move"] := by
  decide +kernel

end Interest

end HubRelay
