import HubRelay.Switchboard.Settings

/-!
Contract: how the whole relay is configured.

Owns: the sections of a configuration with their defaults, the address that the web interface is
found at, and the settings that the switchboard runs with.

Does not own: where a configuration comes from.
-/

namespace HubRelay

/-- Where the web interface is found, and which origins may see its answers. -/
structure Endpoint where
  host : String
  port : UInt16
  /-- No origins stand for all of them. -/
  origins : List String
deriving DecidableEq, Repr

namespace Endpoint

/-- All interfaces of the machine, port 8090, any origin. -/
def standard : Endpoint :=
  ⟨"0.0.0.0", 8090, []⟩

instance : Inhabited Endpoint := ⟨.standard⟩

/-- The host and the port with a colon between them. -/
def address (endpoint : Endpoint) : String :=
  endpoint.host ++ ":" ++ toString endpoint.port.toNat

end Endpoint

/-- What is logged and how. -/
structure Logging where
  level : String
  format : String
deriving DecidableEq, Repr

/-- Everything of note, for people to read. -/
def Logging.standard : Logging :=
  ⟨"info", "pretty"⟩

instance : Inhabited Logging := ⟨.standard⟩

/-- How the whole relay is configured. -/
structure Configuration where
  endpoint : Endpoint
  settings : Settings
  logging : Logging
deriving DecidableEq, Repr

namespace Configuration

def standard : Configuration :=
  ⟨.standard, .standard, .standard⟩

instance : Inhabited Configuration := ⟨.standard⟩

/-- The settings that the switchboard runs with: as configured, but a queue holds one event at
least. -/
def switchboardSettings (configuration : Configuration) : Settings :=
  { configuration.settings with queueCapacity := max configuration.settings.queueCapacity 1 }

end Configuration

end HubRelay
