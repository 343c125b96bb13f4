import HubRelay.Selection

/-!
Contract: what a switchboard is set to do.

Owns: the settings and their defaults.

Does not own: files and variables that settings are read from.
-/

namespace HubRelay

/-- What a switchboard is set to do. -/
structure Settings where
  /-- How many milliseconds a backend has to decide about a client. -/
  handshakeTimeout : Nat
  /-- How many events the queue of a backend holds. -/
  queueCapacity : Nat
  selection : SelectionPolicy
  /-- How many bytes a message of a client may have. -/
  messageLimit : Nat
  /-- Whether a backend is told that an approved client has left. -/
  announcesDepartures : Bool
deriving DecidableEq, Repr

/-- Five seconds, ten thousand events, the earliest backend, one mebibyte, departures announced. -/
def Settings.standard : Settings :=
  ⟨5000, 10000, .firstMatch, 1048576, true⟩

instance : Inhabited Settings := ⟨.standard⟩

end HubRelay
