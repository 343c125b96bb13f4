import HubRelay.Json.Record
import HubRelay.Text.Blank
import HubRelay.Text.Pieces

/-!
Contract: what a backend says about itself when it starts to listen.

Owns: its name, the list of event names that it asks for, reading them from JSON, and cutting the
list into names.

Does not own: the query of a request, from which they may be read too.
-/

namespace HubRelay

/-- What a backend says about itself. -/
structure Interest where
  /-- Event names between commas. -/
  events : String
  /-- The name of the backend. -/
  name : Option String
deriving DecidableEq, Repr

namespace Interest

/-- Put a name into an ascending list, unless it is there. -/
def insertName (name : String) : List String → List String
  | [] => [name]
  | head :: rest =>
    if name < head then name :: head :: rest
    else if name = head then head :: rest
    else head :: insertName name rest

/-- Names in ascending order, each once. -/
def sortNames (names : List String) : List String :=
  names.foldl (fun sorted name => insertName name sorted) []

/-- The event names of a list between commas: white space around a name does not count, and
empty names are left out. -/
def namesIn (events : String) : List String :=
  sortNames (((Text.pieces ',' events.toList).map fun piece =>
    String.ofList (Text.Blank.trimChars piece)).filter fun name => !name.isEmpty)

/-- The event names that a backend asks for, ascending and each once. -/
def eventNames (interest : Interest) : List String :=
  namesIn interest.events

/-- The fields that have been read. -/
structure Draft where
  events : Option String
  name : Option (Option String)

/-- How it is read; both fields may be missing. -/
def record : Json.Record Draft Interest where
  blank := ⟨none, none⟩
  slot draft
    | "events" => .of draft.events Json.readText fun found => { draft with events := some found }
    | "name" => .of draft.name (Json.readOption Json.readText) fun found =>
        { draft with name := some found }
    | _ => .unknown
  names := ["events", "name"]
  complete? draft := some ⟨draft.events.getD "", draft.name.getD none⟩

def read : Json.Reader Interest :=
  record.read

end Interest

end HubRelay
