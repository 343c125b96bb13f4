import HubRelay.Configuration.Basic
import HubRelay.Text.Utf8
import HubRelay.Toml.Document

/-!
Contract: configurations that are written in files.

Owns: the names of sections and settings in a file, what kind of value each of them takes, and why
a file is refused.

Does not own: the form of the text.

A section is a table, or a list that gives its settings in order.  What is not given has its
default, and what has an unknown name is passed over.
-/

namespace HubRelay

namespace Toml

def Value.text? : Value → Option String
  | .text value => some value
  | _ => none

def Value.boolean? : Value → Option Bool
  | .boolean value => some value
  | _ => none

/-- The number that a value is, if it is not negative. -/
def Value.natural? : Value → Option Nat
  | .integer value => value.toNat?
  | _ => none

def Value.port? (value : Value) : Option UInt16 := do
  let number ← value.natural?
  if number < 65536 then some number.toUInt16 else none

def Value.texts? : Value → Option (List String)
  | .list items => items.mapM Value.text?
  | _ => none

/-- The selection policy that a value names.  The name may also be the only one in a table, with
nothing in its value. -/
def Value.policy? : Value → Option SelectionPolicy
  | .text name => SelectionPolicy.ofName? name
  | .table [(name, .table [])] => SelectionPolicy.ofName? name
  | .table [(name, .list [])] => SelectionPolicy.ofName? name
  | _ => none

/-- What a section gives under a name, or at a place if it is a list; or else the default. -/
def Value.given {α : Type} (part : Value) (name : String) (place : Nat)
    (read : Value → Option α) (default : α) : Option α :=
  match part with
  | .table entries => ((valueOf? entries name).map read).getD (some default)
  | .list items => (items[place]?.map read).getD (some default)
  | .moment => some default
  | _ => none

end Toml

def Endpoint.ofToml (value : Toml.Value) : Option Endpoint := do
  let host ← value.given "host" 0 (·.text?) Endpoint.standard.host
  let port ← value.given "port" 1 (·.port?) Endpoint.standard.port
  let origins ← value.given "cors_origins" 2 (·.texts?) Endpoint.standard.origins
  some ⟨host, port, origins⟩

def Settings.ofToml (value : Toml.Value) : Option Settings := do
  let standard := Settings.standard
  let timeout ← value.given "handshake_timeout_ms" 0 (·.natural?) standard.handshakeTimeout
  let capacity ← value.given "backend_queue_capacity" 1 (·.natural?) standard.queueCapacity
  let selection ← value.given "selection" 2 (·.policy?) standard.selection
  let limit ← value.given "max_message_bytes" 3 (·.natural?) standard.messageLimit
  let announces ← value.given "emit_disconnect" 4 (·.boolean?) standard.announcesDepartures
  some ⟨timeout, capacity, selection, limit, announces⟩

def Logging.ofToml (value : Toml.Value) : Option Logging := do
  let level ← value.given "level" 0 (·.text?) Logging.standard.level
  let format ← value.given "format" 1 (·.text?) Logging.standard.format
  some ⟨level, format⟩

namespace Configuration

/-- Read a configuration from the value that a text stands for. -/
def ofToml (value : Toml.Value) : Option Configuration := do
  let endpoint ← value.given "server" 0 Endpoint.ofToml .standard
  let settings ← value.given "routing" 1 Settings.ofToml .standard
  let logging ← value.given "logging" 2 Logging.ofToml .standard
  some ⟨endpoint, settings, logging⟩

/-- Why a file gives no configuration. -/
inductive LoadError where
  /-- There is no file, or it is not text. -/
  | unreadable
  /-- The text is ill-formed, or a value in it is of the wrong kind. -/
  | illFormed
deriving DecidableEq, Repr

/-- The configuration in a file, of which the bytes are given if there is one. -/
def load (file : Option (List UInt8)) : Except LoadError Configuration :=
  match file.bind Text.Utf8.decode with
  | none => .error .unreadable
  | some text =>
    match (Toml.read text).bind fun entries => ofToml (.table entries) with
    | none => .error .illFormed
    | some configuration => .ok configuration

end Configuration

end HubRelay
