import HubRelay.Configuration.File

/-!
Contract: the settings of a configuration, one by one.

Owns: the fields of a configuration and what each of them holds, where a file gives a field, and
that a file is read field by field.

Does not own: variables, and which of several files counts.

A configuration is known once all its fields are known.  So whatever is to be said about files and
variables is said about one field.
-/

namespace HubRelay

namespace Toml.Value

/-- Whether a value can be a section of a file. -/
def isSection : Value → Bool
  | .table _ | .list _ | .moment => true
  | _ => false

/-- What a section holds under a name, or at a place if it is a list. -/
def part? (part : Value) (name : String) (place : Nat) : Option Value :=
  match part with
  | .table entries => valueOf? entries name
  | .list items => items[place]?
  | _ => none

/-- What is read in a section: the default where it holds nothing. -/
def yields {α : Type} (part : Value) (name : String) (place : Nat) (read : Value → Option α)
    (default : α) : Option α :=
  ((part.part? name place).map read).getD (some default)

theorem given_eq_some_iff {α : Type} {part : Value} {name : String} {place : Nat}
    {read : Value → Option α} {default value : α} :
    part.given name place read default = some value ↔
      part.isSection = true ∧ part.yields name place read default = some value := by
  cases part <;> simp [given, isSection, yields, part?]

end Toml.Value

theorem read_or_eq_some_iff {ρ α : Type} {raw : Option ρ} {read : ρ → Option α}
    {default value : α} : (raw.map read).getD (some default) = some value ↔
      (∀ given, raw = some given → (read given).isSome = true) ∧
        value = (raw.bind read).getD default := by
  cases raw with
  | none => simp [@eq_comm _ value]
  | some given => cases reads : read given <;> simp [reads, @eq_comm _ value]

namespace Configuration

/-! ## Fields -/

/-- The fields of a configuration. -/
inductive Field where
  | host
  | port
  | origins
  | handshakeTimeout
  | queueCapacity
  | selection
  | messageLimit
  | announcesDepartures
  | level
  | format
deriving DecidableEq, Repr

namespace Field

/-- What a field holds. -/
abbrev Kind : Field → Type
  | .host | .level | .format => String
  | .port => UInt16
  | .origins => List String
  | .handshakeTimeout | .queueCapacity | .messageLimit => Nat
  | .selection => SelectionPolicy
  | .announcesDepartures => Bool

/-- What a field holds in a configuration. -/
def get : (field : Field) → Configuration → field.Kind
  | .host, configuration => configuration.endpoint.host
  | .port, configuration => configuration.endpoint.port
  | .origins, configuration => configuration.endpoint.origins
  | .handshakeTimeout, configuration => configuration.settings.handshakeTimeout
  | .queueCapacity, configuration => configuration.settings.queueCapacity
  | .selection, configuration => configuration.settings.selection
  | .messageLimit, configuration => configuration.settings.messageLimit
  | .announcesDepartures, configuration => configuration.settings.announcesDepartures
  | .level, configuration => configuration.logging.level
  | .format, configuration => configuration.logging.format

/-- What a field holds by default. -/
def standard (field : Field) : field.Kind :=
  field.get .standard

end Field

/-- Configurations that agree on every field are the same. -/
theorem eq_of_get {one other : Configuration}
    (agree : ∀ field : Field, field.get one = field.get other) : one = other := by
  obtain ⟨⟨host, port, origins⟩, ⟨timeout, capacity, selection, limit, announces⟩,
    ⟨level, format⟩⟩ := one
  obtain rfl := agree .host
  obtain rfl := agree .port
  obtain rfl := agree .origins
  obtain rfl := agree .handshakeTimeout
  obtain rfl := agree .queueCapacity
  obtain rfl := agree .selection
  obtain rfl := agree .messageLimit
  obtain rfl := agree .announcesDepartures
  obtain rfl := agree .level
  obtain rfl := agree .format
  rfl

/-- The configuration of which the fields hold given values. -/
def assemble (values : (field : Field) → field.Kind) : Configuration where
  endpoint := ⟨values .host, values .port, values .origins⟩
  settings := ⟨values .handshakeTimeout, values .queueCapacity, values .selection,
    values .messageLimit, values .announcesDepartures⟩
  logging := ⟨values .level, values .format⟩

@[simp]
theorem get_assemble (values : (field : Field) → field.Kind) (field : Field) :
    field.get (assemble values) = values field := by
  cases field <;> rfl

/-! ## Files -/

namespace Field

/-- Where a file gives a field: its section, and its name and its place there. -/
structure Slot where
  part : String
  name : String
  place : Nat

def slot : Field → Slot
  | .host => ⟨"server", "host", 0⟩
  | .port => ⟨"server", "port", 1⟩
  | .origins => ⟨"server", "cors_origins", 2⟩
  | .handshakeTimeout => ⟨"routing", "handshake_timeout_ms", 0⟩
  | .queueCapacity => ⟨"routing", "backend_queue_capacity", 1⟩
  | .selection => ⟨"routing", "selection", 2⟩
  | .messageLimit => ⟨"routing", "max_message_bytes", 3⟩
  | .announcesDepartures => ⟨"routing", "emit_disconnect", 4⟩
  | .level => ⟨"logging", "level", 0⟩
  | .format => ⟨"logging", "format", 1⟩

/-- What a value in a file stands for, if it is of the kind that a field holds. -/
def read : (field : Field) → Toml.Value → Option field.Kind
  | .host | .level | .format => Toml.Value.text?
  | .port => Toml.Value.port?
  | .origins => Toml.Value.texts?
  | .handshakeTimeout | .queueCapacity | .messageLimit => Toml.Value.natural?
  | .selection => Toml.Value.policy?
  | .announcesDepartures => Toml.Value.boolean?

/-- The value that a file gives for a field, whatever its kind. -/
def raw? (field : Field) (entries : List (String × Toml.Value)) : Option Toml.Value :=
  (Toml.valueOf? entries field.slot.part).bind (·.part? field.slot.name field.slot.place)

/-- What a file gives for a field. -/
def written? (field : Field) (entries : List (String × Toml.Value)) : Option field.Kind :=
  (field.raw? entries).bind field.read

/-- What is read of a field in a section. -/
def yieldsIn (field : Field) (part : Toml.Value) : Option field.Kind :=
  part.yields field.slot.name field.slot.place field.read field.standard

/-- What is read of a field in a file: the default where the file does not give it. -/
def yields (field : Field) (entries : List (String × Toml.Value)) : Option field.Kind :=
  ((Toml.valueOf? entries field.slot.part).map field.yieldsIn).getD (some field.standard)

theorem yields_eq (field : Field) (entries : List (String × Toml.Value)) :
    field.yields entries = ((field.raw? entries).map field.read).getD (some field.standard) := by
  unfold yields raw?
  cases Toml.valueOf? entries field.slot.part <;> rfl

theorem yields_eq_some_iff {field : Field} {entries : List (String × Toml.Value)}
    {value : field.Kind} : field.yields entries = some value ↔
      (∀ raw, field.raw? entries = some raw → (field.read raw).isSome = true) ∧
        value = (field.written? entries).getD field.standard := by
  rw [yields_eq, read_or_eq_some_iff]
  rfl

end Field

/-- Whether what a file gives under the name of a section can be one. -/
def HoldsPart (entries : List (String × Toml.Value)) (part : String) : Prop :=
  ∀ value, Toml.valueOf? entries part = some value → value.isSection = true

/-- Whether all that a file gives is of the right kind. -/
structure Fits (entries : List (String × Toml.Value)) : Prop where
  parts : ∀ part ∈ ["server", "routing", "logging"], HoldsPart entries part
  fields : ∀ (field : Field) (raw : Toml.Value), field.raw? entries = some raw →
    (field.read raw).isSome = true

end Configuration

open HubRelay.Configuration

theorem Endpoint.ofToml_eq_some_iff {part : Toml.Value} {endpoint : Endpoint} :
    Endpoint.ofToml part = some endpoint ↔ part.isSection = true ∧
      Field.host.yieldsIn part = some endpoint.host ∧
      Field.port.yieldsIn part = some endpoint.port ∧
      Field.origins.yieldsIn part = some endpoint.origins := by
  obtain ⟨host, port, origins⟩ := endpoint
  simp only [Endpoint.ofToml, Option.bind_eq_bind, Option.bind_eq_some_iff,
    Toml.Value.given_eq_some_iff, Option.some.injEq, Endpoint.mk.injEq]
  constructor
  · rintro ⟨_, ⟨isSection, hosts⟩, _, ⟨-, ports⟩, _, ⟨-, lists⟩, rfl, rfl, rfl⟩
    exact ⟨isSection, hosts, ports, lists⟩
  · rintro ⟨isSection, hosts, ports, lists⟩
    exact ⟨host, ⟨isSection, hosts⟩, port, ⟨isSection, ports⟩, origins, ⟨isSection, lists⟩, rfl,
      rfl, rfl⟩

theorem Settings.ofToml_eq_some_iff {part : Toml.Value} {settings : Settings} :
    Settings.ofToml part = some settings ↔ part.isSection = true ∧
      Field.handshakeTimeout.yieldsIn part = some settings.handshakeTimeout ∧
      Field.queueCapacity.yieldsIn part = some settings.queueCapacity ∧
      Field.selection.yieldsIn part = some settings.selection ∧
      Field.messageLimit.yieldsIn part = some settings.messageLimit ∧
      Field.announcesDepartures.yieldsIn part = some settings.announcesDepartures := by
  obtain ⟨timeout, capacity, selection, limit, announces⟩ := settings
  simp only [Settings.ofToml, Option.bind_eq_bind, Option.bind_eq_some_iff,
    Toml.Value.given_eq_some_iff, Option.some.injEq, Settings.mk.injEq]
  constructor
  · rintro ⟨_, ⟨isSection, times⟩, _, ⟨-, counts⟩, _, ⟨-, selects⟩, _, ⟨-, limits⟩, _, ⟨-, tells⟩,
      rfl, rfl, rfl, rfl, rfl⟩
    exact ⟨isSection, times, counts, selects, limits, tells⟩
  · rintro ⟨isSection, times, counts, selects, limits, tells⟩
    exact ⟨timeout, ⟨isSection, times⟩, capacity, ⟨isSection, counts⟩, selection,
      ⟨isSection, selects⟩, limit, ⟨isSection, limits⟩, announces, ⟨isSection, tells⟩, rfl, rfl,
      rfl, rfl, rfl⟩

theorem Logging.ofToml_eq_some_iff {part : Toml.Value} {logging : Logging} :
    Logging.ofToml part = some logging ↔ part.isSection = true ∧
      Field.level.yieldsIn part = some logging.level ∧
      Field.format.yieldsIn part = some logging.format := by
  obtain ⟨level, format⟩ := logging
  simp only [Logging.ofToml, Option.bind_eq_bind, Option.bind_eq_some_iff,
    Toml.Value.given_eq_some_iff, Option.some.injEq, Logging.mk.injEq]
  constructor
  · rintro ⟨_, ⟨isSection, levels⟩, _, ⟨-, formats⟩, rfl, rfl⟩
    exact ⟨isSection, levels, formats⟩
  · rintro ⟨isSection, levels, formats⟩
    exact ⟨level, ⟨isSection, levels⟩, format, ⟨isSection, formats⟩, rfl, rfl⟩

namespace Configuration

variable {entries : List (String × Toml.Value)} {configuration : Configuration}

theorem endpoint_given {endpoint : Endpoint} :
    (Toml.Value.table entries).given "server" 0 Endpoint.ofToml .standard = some endpoint ↔
      HoldsPart entries "server" ∧
        Field.host.yields entries = some endpoint.host ∧
        Field.port.yields entries = some endpoint.port ∧
        Field.origins.yields entries = some endpoint.origins := by
  simp only [Toml.Value.given, HoldsPart, Field.yields, Field.slot]
  cases Toml.valueOf? entries "server" with
  | none => cases endpoint; simp [Endpoint.standard, Field.standard, Field.get, standard]
  | some value => simp [Endpoint.ofToml_eq_some_iff]

theorem settings_given {settings : Settings} :
    (Toml.Value.table entries).given "routing" 1 Settings.ofToml .standard = some settings ↔
      HoldsPart entries "routing" ∧
        Field.handshakeTimeout.yields entries = some settings.handshakeTimeout ∧
        Field.queueCapacity.yields entries = some settings.queueCapacity ∧
        Field.selection.yields entries = some settings.selection ∧
        Field.messageLimit.yields entries = some settings.messageLimit ∧
        Field.announcesDepartures.yields entries = some settings.announcesDepartures := by
  simp only [Toml.Value.given, HoldsPart, Field.yields, Field.slot]
  cases Toml.valueOf? entries "routing" with
  | none => cases settings; simp [Settings.standard, Field.standard, Field.get, standard]
  | some value => simp [Settings.ofToml_eq_some_iff]

theorem logging_given {logging : Logging} :
    (Toml.Value.table entries).given "logging" 2 Logging.ofToml .standard = some logging ↔
      HoldsPart entries "logging" ∧
        Field.level.yields entries = some logging.level ∧
        Field.format.yields entries = some logging.format := by
  simp only [Toml.Value.given, HoldsPart, Field.yields, Field.slot]
  cases Toml.valueOf? entries "logging" with
  | none => cases logging; simp [Logging.standard, Field.standard, Field.get, standard]
  | some value => simp [Logging.ofToml_eq_some_iff]

theorem ofToml_eq_some_iff_yields : ofToml (.table entries) = some configuration ↔
    (∀ part ∈ ["server", "routing", "logging"], HoldsPart entries part) ∧
      ∀ field : Field, field.yields entries = some (field.get configuration) := by
  obtain ⟨endpoint, settings, logging⟩ := configuration
  simp only [ofToml, Option.bind_eq_bind, Option.bind_eq_some_iff, endpoint_given, settings_given,
    logging_given, Option.some.injEq, mk.injEq, List.forall_mem_cons, List.not_mem_nil]
  constructor
  · rintro ⟨_, ⟨server, host, port, origins⟩, _, ⟨routing, timeout, capacity, selection, limit,
      announces⟩, _, ⟨log, level, format⟩, rfl, rfl, rfl⟩
    refine ⟨⟨server, routing, log, nofun⟩, fun field => ?_⟩
    cases field with
    | host => exact host
    | port => exact port
    | origins => exact origins
    | handshakeTimeout => exact timeout
    | queueCapacity => exact capacity
    | selection => exact selection
    | messageLimit => exact limit
    | announcesDepartures => exact announces
    | level => exact level
    | format => exact format
  · rintro ⟨⟨server, routing, log, -⟩, yields⟩
    exact ⟨endpoint, ⟨server, yields .host, yields .port, yields .origins⟩, settings,
      ⟨routing, yields .handshakeTimeout, yields .queueCapacity, yields .selection,
        yields .messageLimit, yields .announcesDepartures⟩, logging,
      ⟨log, yields .level, yields .format⟩, rfl, rfl, rfl⟩

/-- A file is read field by field: each field has what the file gives for it, or its default. -/
theorem ofToml_eq_some_iff : ofToml (.table entries) = some configuration ↔
    Fits entries ∧ ∀ field : Field,
      field.get configuration = (field.written? entries).getD field.standard := by
  simp only [ofToml_eq_some_iff_yields, Field.yields_eq_some_iff]
  constructor
  · rintro ⟨parts, yields⟩
    exact ⟨⟨parts, fun field => (yields field).1⟩, fun field => (yields field).2⟩
  · rintro ⟨⟨parts, fields⟩, holds⟩
    exact ⟨parts, fun field => ⟨fields field, holds field⟩⟩

end Configuration

end HubRelay
