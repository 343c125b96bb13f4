import HubRelay.Configuration.File
import HubRelay.Configuration.Variables

/-!
Contract: the configuration that is in force where none is named.

Owns: overriding what a file says, and the order in which files are tried.

Does not own: what files and variables say.
-/

namespace HubRelay.Configuration

/-- A configuration, and the warnings that came up on the way to it. -/
abbrev Outcome := Configuration × List Warning

/-- The configuration in a file, overridden. -/
def loadOverridden (overrides : Variables) (file : Option (List UInt8)) :
    Except LoadError Outcome :=
  (load file).map overrides.apply

/-- The standard configuration, overridden. -/
def ofVariables (overrides : Variables) : Outcome :=
  overrides.apply .standard

/-- The bytes of those files that exist, by the place that they are found at. -/
structure Candidates where
  /-- In the directory for the configuration of the user. -/
  user : Option (List UInt8)
  /-- In the directory for the configuration of the machine. -/
  machine : Option (List UInt8)
  /-- In the directory that the relay runs in. -/
  working : Option (List UInt8)
deriving DecidableEq, Repr, Inhabited

/-- The candidates in the order in which they are tried. -/
def Candidates.toList (candidates : Candidates) : List (Option (List UInt8)) :=
  [candidates.user, candidates.machine, candidates.working]

/-- The configuration in the first candidate that exists and loads, or the standard one; overridden
in either case. -/
def search (overrides : Variables) (candidates : Candidates) : Outcome :=
  (candidates.toList.findSome? fun file => (loadOverridden overrides file).toOption).getD
    (ofVariables overrides)

end HubRelay.Configuration
