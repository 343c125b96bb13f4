import HubRelay.Proofs.Configuration.Precedence
import HubRelay.Proofs.Exchange.Admission
import HubRelay.Proofs.Toml.Range
import Mathlib.Algebra.Group.Nat.Defs

/-!
Contract: how large the queues are that a configuration asks for.

Owns: which capacities a file can ask for, which of them a channel can be made with, and the
capacity of the queue that a backend has when it is registered.

Does not own: what happens to the queue later.

The capacity that is configured is bounded from above by nothing but the integers of a file.  So it
is always at least one when it is made use of, but it may be more than a channel takes.
-/

namespace HubRelay

/-! ## Capacities in files -/

theorem Toml.valueOf?_inRange {entries : List (String × Toml.Value)} {name : String}
    {value : Toml.Value} (inside : ∀ entry ∈ entries, entry.2.InRange)
    (found : Toml.valueOf? entries name = some value) : value.InRange := by
  simp only [valueOf?, Option.map_eq_some_iff] at found
  obtain ⟨entry, found, rfl⟩ := found
  exact inside entry (List.mem_of_find?_eq_some found)

theorem Toml.Value.InRange.part? {part value : Toml.Value} {name : String} {place : Nat}
    (inside : part.InRange) (found : part.part? name place = some value) : value.InRange := by
  cases inside with
  | table inside => exact valueOf?_inRange inside found
  | list inside => exact inside value (List.mem_of_getElem? found)
  | _ => cases found

theorem Toml.Value.InRange.natural? {value : Toml.Value} {number : Nat} (inside : value.InRange)
    (isNumber : value.natural? = some number) : number < 2 ^ 63 := by
  cases inside with
  | integer low high =>
    have same := Int.mem_toNat?.mp isNumber
    omega
  | _ => cases isNumber

namespace Configuration

theorem queueCapacity_lt {file : Option (List UInt8)} {configuration : Configuration}
    (loaded : load file = .ok configuration) : configuration.settings.queueCapacity < 2 ^ 63 := by
  obtain ⟨entries, contents, -, given⟩ := load_eq_ok_iff.mp loaded
  obtain ⟨text, -, isRead⟩ := Option.bind_eq_some_iff.mp contents
  rw [show configuration.settings.queueCapacity = _ from given .queueCapacity]
  cases written : Field.queueCapacity.written? entries with
  | none => decide
  | some capacity =>
    obtain ⟨value, raw, isNumber⟩ := Option.bind_eq_some_iff.mp written
    obtain ⟨part, held, inPart⟩ := Option.bind_eq_some_iff.mp raw
    exact ((Toml.valueOf?_inRange (Toml.inRange_read isRead) held).part? inPart).natural?
      isNumber

end Configuration

/-! ## Queues of new backends -/

/-- The capacity that a channel is asked for when somebody registers with a hub. -/
def Switchboard.askedFor (board : Switchboard) (hub : String) : Option Nat :=
  ((board.openHub hub).2.registryOf? (board.openHub hub).1).map fun registry =>
    EventQueue.asked registry.queueCapacity

namespace Course

open Switchboard

variable (settings : Settings) (actions : List Action) (hub : String)

theorem askedFor_of : (of settings actions).exchange.board.askedFor hub =
    some (EventQueue.asked settings.queueCapacity) := by
  obtain ⟨registry, here, capacity⟩ := registryOf?_openHub settings actions hub
  rw [askedFor, here, Option.map_some, capacity]

/-- A backend that is registered has a queue as large as was asked for, and open. -/
theorem queue_tryRegister (admits : settings.Admits) (identity : String) (events : List String) :
    let registered := (of settings actions).exchange.board.tryRegister hub identity events
    ∃ key backend, registered.1 = some key ∧ registered.2.backend? key = some backend ∧
      backend.hub = hub ∧ backend.queue.capacity = EventQueue.asked settings.queueCapacity := by
  intro registered
  obtain ⟨key, came⟩ := Option.isSome_iff_exists.1
    ((isSome_tryRegister_iff settings actions hub identity events).2 admits)
  obtain ⟨backend, found, named, -⟩ := backend?_tryRegister (orderly_of settings actions).sound came
  refine ⟨key, backend, came, found, named, ?_⟩
  let longer := actions ++ [.request (.register hub identity events)]
  have later : (of settings longer).exchange.board = registered.2 := by
    rw [of_concat]
    rfl
  exact capacity_of settings longer ((congrArg (·.backend? key) later).trans found)

end Course

/-! ## Channels -/

/-- What the capacity that a channel is asked for has to do with the one that is configured. -/
structure SizedAs (configured asked : Nat) : Prop where
  atLeast : 0 < asked
  below : asked < 2 ^ 63
  asConfigured : 0 < configured → asked = configured
  admitted : ChannelAdmits asked ↔ configured ≤ channelLimit

theorem sizedAs_asked {configured : Nat} (bounded : configured < 2 ^ 63) :
    SizedAs configured (EventQueue.asked configured) := by
  constructor
  case admitted => exact EventQueue.channelAdmits_asked_iff
  all_goals
    unfold EventQueue.asked
    omega

namespace Configuration

/-- How large the queues of backends are under the configuration in a file. -/
structure SizesQueues (file : Option (List UInt8)) (configuration : Configuration) : Prop where
  source : ∃ entries, contents? file = some entries ∧
    configuration.settings.queueCapacity = (Field.queueCapacity.written? entries).getD 10000
  bounded : configuration.settings.queueCapacity < 2 ^ 63
  /-- What a channel is asked for whenever somebody registers. -/
  asked : ∀ actions hub, ∃ capacity,
    (Course.of configuration.switchboardSettings actions).exchange.board.askedFor hub =
        some capacity ∧ SizedAs configuration.settings.queueCapacity capacity
  /-- Whoever registers gets a queue as large as was asked for, if a channel can be made, -/
  registered : ∀ actions hub identity events capacity,
    let board := (Course.of configuration.switchboardSettings actions).exchange.board
    board.askedFor hub = some capacity → ChannelAdmits capacity →
      ∃ key backend, (board.tryRegister hub identity events).1 = some key ∧
        (board.tryRegister hub identity events).2.backend? key = some backend ∧
        backend.hub = hub ∧ backend.queue.capacity = capacity
  /-- and is not registered if none can be. -/
  brokenOff : ∀ actions hub identity events capacity,
    let board := (Course.of configuration.switchboardSettings actions).exchange.board
    board.askedFor hub = some capacity → ¬ ChannelAdmits capacity →
      (board.tryRegister hub identity events).1 = none

/-- Whatever a file and the environment configure, a channel is asked for a capacity of at least
one, and for what the file says if that is at least one.  So a backend can be registered just if the
file does not say more than a channel takes. -/
theorem queues_sized {environment : String → Option String} {file : Option (List UInt8)}
    {outcome : Outcome}
    (overridden : loadOverridden (.ofEnvironment environment) file = .ok outcome) :
    outcome.1.SizesQueues file := by
  obtain ⟨configuration, loaded, rfl⟩ := loadOverridden_eq_ok_iff.mp overridden
  obtain ⟨entries, contents, -, given⟩ := load_eq_ok_iff.mp loaded
  let later := ((Variables.ofEnvironment environment).apply configuration).1
  have unchanged : later.settings.queueCapacity = configuration.settings.queueCapacity :=
    get_apply_of_fixed (show Field.queueCapacity ∈ Field.fixed by decide) environment configuration
  have bounded : later.settings.queueCapacity < 2 ^ 63 := by
    rw [unchanged]
    exact queueCapacity_lt loaded
  -- the switchboard sees to it once more that the queue holds something
  have once : EventQueue.asked later.switchboardSettings.queueCapacity =
      EventQueue.asked later.settings.queueCapacity :=
    Nat.max_eq_left (Nat.le_max_right ..)
  have asks (actions : List Action) (hub : String) :=
    Course.askedFor_of later.switchboardSettings actions hub
  have admits {actions : List Action} {hub : String} {capacity : Nat}
      (asked : (Course.of later.switchboardSettings actions).exchange.board.askedFor hub =
        some capacity) : ChannelAdmits capacity ↔ later.switchboardSettings.Admits := by
    obtain rfl := Option.some.inj ((asks actions hub).symm.trans asked)
    exact EventQueue.channelAdmits_asked_iff
  constructor
  case source => exact ⟨entries, contents, unchanged.trans (given .queueCapacity)⟩
  case bounded => exact bounded
  case asked =>
    intro actions hub
    refine ⟨_, asks actions hub, ?_⟩
    rw [once]
    exact sizedAs_asked bounded
  case registered =>
    intro actions hub identity events capacity board asked admitted
    obtain rfl := Option.some.inj ((asks actions hub).symm.trans asked)
    exact Course.queue_tryRegister later.switchboardSettings actions hub ((admits asked).1 admitted)
      identity events
  case brokenOff =>
    intro actions hub identity events capacity board asked refused
    exact congrArg Prod.fst (Course.tryRegister_of_not_admits actions
      (mt (admits asked).2 refused) hub identity events)

/-- A file that asks for one event more than a channel takes. -/
def oversized : String :=
  "[routing]\nbackend_queue_capacity = 2305843009213693952"

def oversizedConfiguration : Configuration :=
  { standard with settings := { Settings.standard with queueCapacity := 2305843009213693952 } }

theorem loadOverridden_oversized :
    loadOverridden (.ofEnvironment fun _ => none) (some (Text.Utf8.encodeString oversized)) =
      .ok (oversizedConfiguration, []) := by
  decide +kernel

theorem oversized_sized : oversizedConfiguration.SizesQueues
    (some (Text.Utf8.encodeString oversized)) :=
  queues_sized loadOverridden_oversized

/-- Not every file that loads gives a capacity that a channel can be made with, nor lets a backend
be registered. -/
theorem oversized_queue : ¬ ∀ environment file outcome,
    loadOverridden (.ofEnvironment environment) file = .ok outcome →
      ∀ actions hub identity events capacity,
        let board := (Course.of outcome.1.switchboardSettings actions).exchange.board
        board.askedFor hub = some capacity →
          ChannelAdmits capacity ∨ (board.tryRegister hub identity events).1.isSome := by
  intro admitted
  have queue := admitted _ _ _ loadOverridden_oversized [] "chat" "bot" [connectEvent] _ rfl
  exact absurd queue (by decide)

end Configuration

end HubRelay
