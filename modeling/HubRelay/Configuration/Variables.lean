import HubRelay.Configuration.Basic

/-!
Contract: variables of the environment that override a configuration.

Owns: the names of the variables, what their texts stand for, and the warnings about those texts
that stand for nothing.

Does not own: the configuration that is overridden.
-/

namespace HubRelay.Configuration

/-- The texts of those variables that are set. -/
structure Variables where
  host : Option String
  port : Option String
  handshakeTimeout : Option String
  selection : Option String
  level : Option String
  format : Option String
deriving DecidableEq, Repr, Inhabited

/-- A warning that a variable is not made use of. -/
inductive Warning where
  | port (text : String)
  | handshakeTimeout (text : String)
  /-- The variable names an unknown policy, which is given in its folded spelling. -/
  | selection (folded : String)
deriving DecidableEq, Repr

def Warning.message : Warning → String
  | .port text => "Ignoring invalid TUNNELHUB_PORT: " ++ text
  | .handshakeTimeout text => "Ignoring invalid TUNNELHUB_HANDSHAKE_TIMEOUT_MS: " ++ text
  | .selection folded =>
    "Ignoring TUNNELHUB_SELECTION: " ++ SelectionPolicy.unknownMessage folded

namespace Variables

/-- The variables among all variables of an environment. -/
def ofEnvironment (environment : String → Option String) : Variables where
  host := environment "TUNNELHUB_HOST"
  port := environment "TUNNELHUB_PORT"
  handshakeTimeout := environment "TUNNELHUB_HANDSHAKE_TIMEOUT_MS"
  selection := environment "TUNNELHUB_SELECTION"
  level := environment "TUNNELHUB_LOG_LEVEL"
  format := environment "TUNNELHUB_LOG_FORMAT"

/-- The number below a bound that decimal digits stand for; a plus sign may come first. -/
def number? (bound : Nat) (text : String) : Option Nat :=
  let digits := match text.toList with
    | '+' :: digits => digits
    | digits => digits
  if digits = [] ∨ digits.any (!·.isDigit) then none
  else
    let number := Nat.ofDigitChars 10 digits 0
    if number < bound then some number else none

def readPort (text : String) : Except Warning UInt16 :=
  match number? 0x10000 text with
  | some number => .ok number.toUInt16
  | none => .error (.port text)

/-- The number of milliseconds that a text stands for. -/
def readTimeout (text : String) : Except Warning Nat :=
  match number? 0x10000000000000000 text with
  | some number => .ok number
  | none => .error (.handshakeTimeout text)

def readSelection (text : String) : Except Warning SelectionPolicy :=
  (SelectionPolicy.parse text).mapError .selection

/-- What a variable stands for; or else what was there before, with a warning if the variable is
set. -/
def override {α : Type} (read : String → Except Warning α) (text : Option String) (before : α) :
    α × List Warning :=
  match text.map read with
  | none => (before, [])
  | some (.ok value) => (value, [])
  | some (.error warning) => (before, [warning])

def apply (overrides : Variables) (configuration : Configuration) :
    Configuration × List Warning :=
  let ⟨endpoint, settings, logging⟩ := configuration
  let (port, aboutPort) := override readPort overrides.port endpoint.port
  let (timeout, aboutTimeout) :=
    override readTimeout overrides.handshakeTimeout settings.handshakeTimeout
  let (selection, aboutSelection) :=
    override readSelection overrides.selection settings.selection
  let host := overrides.host.getD endpoint.host
  let level := overrides.level.getD logging.level
  let format := overrides.format.getD logging.format
  (⟨{ endpoint with host := host, port := port },
    { settings with handshakeTimeout := timeout, selection := selection },
    ⟨level, format⟩⟩,
   aboutPort ++ aboutTimeout ++ aboutSelection)

end Variables

end HubRelay.Configuration
