import HubRelay.Json.Printer
import HubRelay.Json.Record

/-!
Contract: what is known about the request that opened a connection.

Owns: contexts, building them up, and reading and writing them as JSON.

Does not own: how the headers of a request become the headers of a context.
-/

namespace HubRelay

/-- What is known about the request that opened a connection. -/
structure Context where
  headers : Dictionary String
  userId : Option String
deriving DecidableEq, Repr, Inhabited

namespace Context

def empty : Context :=
  ⟨.empty, none⟩

/-- Set a header; an earlier value of the same name is forgotten. -/
def withHeader (context : Context) (name value : String) : Context :=
  { context with headers := context.headers.insert name value }

def withUser (context : Context) (user : String) : Context :=
  { context with userId := some user }

def headersJson (headers : Dictionary String) : Json :=
  .object (headers.entries.map fun (name, value) => (name, .string value))

/-- A context as JSON; an unknown user is left out. -/
def toJson (context : Context) : Json :=
  .object (("headers", headersJson context.headers) ::
    match context.userId with
    | none => []
    | some user => [("user_id", .string user)])

/-- Read header values, the last of several values of one name counting. -/
def readHeaderMembers (headers : Dictionary String) :
    List (Json.StringSpelling × Json.Document) → Except Json.Fault (Dictionary String)
  | [] => .ok headers
  | (name, document) :: members => do
    let name ← Json.Document.nameText name
    let value ← document.asText
    readHeaderMembers (headers.insert name value) members

/-- Read headers, which only an object can give. -/
def readHeaders : Json.Reader (Dictionary String) := fun origin document =>
  match document with
  | .object members closed => do
    let _ ← origin.enter
    let headers ← readHeaderMembers .empty members
    if closed then .ok headers else .error .malformed
  | document => .error document.mismatch

/-- The fields of a context that have been read. -/
structure Draft where
  headers : Option (Dictionary String)
  userId : Option (Option String)

/-- How a context is read; both of its fields may be missing. -/
def record : Json.Record Draft Context where
  blank := ⟨none, none⟩
  slot draft
    | "headers" => .of draft.headers readHeaders fun found => { draft with headers := some found }
    | "user_id" => .of draft.userId (Json.readOption Json.readText) fun found =>
        { draft with userId := some found }
    | _ => .unknown
  names := ["headers", "user_id"]
  complete? draft := some ⟨draft.headers.getD .empty, draft.userId.getD none⟩

def read : Json.Reader Context :=
  record.read

end Context

end HubRelay
