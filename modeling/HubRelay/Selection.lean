import HubRelay.Json.Choice
import HubRelay.Json.Printer
import HubRelay.Text.Lowercase

/-!
Contract: which of several interested backends gets a connection.

Owns: the selection policies and their names, and the state of a selection, which is a turn
counter for the policy that rotates.

Does not own: who is interested in what.

Candidates are always presented in the order of their registration.
-/

namespace HubRelay

/-- How one of several candidates is picked. -/
inductive SelectionPolicy where
  /-- Always the earliest registration. -/
  | firstMatch
  /-- One after the other. -/
  | roundRobin
deriving DecidableEq, Repr, Inhabited

namespace SelectionPolicy

def name : SelectionPolicy → String
  | .firstMatch => "first_match"
  | .roundRobin => "round_robin"

def ofName? : String → Option SelectionPolicy
  | "first_match" => some .firstMatch
  | "round_robin" => some .roundRobin
  | _ => none

/-- The spelling of a name in lower case with hyphens turned into underscores. -/
def foldName (text : String) : String :=
  String.ofList ((Text.Lowercase.lower [] text.toList).map fun character =>
    if character = '-' then '_' else character)

/-- The policy of a name in any case, with hyphens or underscores; of an unknown name, its folded
spelling. -/
def parse (text : String) : Except String SelectionPolicy :=
  match ofName? (foldName text) with
  | some policy => .ok policy
  | none => .error (foldName text)

def unknownMessage (folded : String) : String :=
  "Unknown selection policy: " ++ folded

/-- A policy as JSON: its name. -/
def toJson (policy : SelectionPolicy) : Json :=
  .string policy.name

def read : Json.Reader SelectionPolicy :=
  Json.readName ofName?

end SelectionPolicy

/-- The state of a selection. -/
inductive Selection where
  | firstMatch
  /-- The number of turns taken so far, which starts over after 64 bits. -/
  | roundRobin (turns : UInt64)
deriving DecidableEq, Repr

namespace Selection

def start : SelectionPolicy → Selection
  | .firstMatch => .firstMatch
  | .roundRobin => .roundRobin 0

def policy : Selection → SelectionPolicy
  | .firstMatch => .firstMatch
  | .roundRobin _ => .roundRobin

/-- Pick one of so many candidates: its index, and the selection afterwards.

No candidates consume no turn. -/
def pick (selection : Selection) (count : Nat) : Option Nat × Selection :=
  match selection with
  | .firstMatch => (if count = 0 then none else some 0, .firstMatch)
  | .roundRobin turns =>
    if count = 0 then (none, .roundRobin turns)
    else (some (turns.toNat % count), .roundRobin (turns + 1))

def picks (selection : Selection) : List Nat → List (Option Nat)
  | [] => []
  | count :: counts =>
    (selection.pick count).1 :: (selection.pick count).2.picks counts

/-- Pick one of the candidates, and the selection afterwards. -/
def choose {α : Type} (selection : Selection) (candidates : List α) : Option α × Selection :=
  let (index, selection) := selection.pick candidates.length
  (index.bind (candidates[·]?), selection)

end Selection

end HubRelay
