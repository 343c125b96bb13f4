import HubRelay.Base64
import HubRelay.Json.Choice
import HubRelay.Json.Printer
import HubRelay.Json.Record
import HubRelay.Text.Utf8

/-!
Contract: the bodies of messages.

Owns: text, JSON and binary bodies, their sizes, and reading and writing them as JSON, where a
tag says of which of the three kinds a body is.

Does not own: who sends a body to whom.
-/

namespace HubRelay

/-- The body of a message. -/
inductive Payload where
  | text (body : String)
  | json (body : Json.Canonical)
  | binary (body : List UInt8)
deriving DecidableEq, Repr

namespace Payload

/-- The kinds of bodies. -/
inductive Tag where
  | text
  | json
  | binary
deriving DecidableEq, Repr

def Tag.ofName? : String → Option Tag
  | "text" => some .text
  | "json" => some .json
  | "binary" => some .binary
  | _ => none

def Tag.ofPlace? : Int → Option Tag
  | 0 => some .text
  | 1 => some .json
  | 2 => some .binary
  | _ => none

/-- The written form of a tag and of the body that it goes with. -/
def written (tag : String) (body : Json) : Json :=
  .object [("type", .string tag), ("data", body)]

/-- A body as JSON; a binary one is written in groups of four digits. -/
def toJson : Payload → Json
  | .text body => written "text" (.string body)
  | .json body => written "json" body.value
  | .binary body => written "binary" (.string (String.ofList (Base64.encode body)))

/-- How far the reading of a tagged body has come. -/
inductive Draft where
  | blank
  /-- The tag is known. -/
  | tagged (tag : Tag)
  /-- The body came first and is held back until the tag is known. -/
  | held (body : Json)
  | complete (payload : Payload)

def readBody : Tag → Json.Reader Payload
  | .text, _, document => document.asText.map .text
  | .json, origin, document => (document.value origin).map fun value => .json (.of value)
  | .binary, _, document => do
    let text ← document.asText
    match Base64.decode text.toList with
    | some body => .ok (.binary body)
    | none => .error .data

/-- Read the tag of a body that may have been held back. -/
def readTag (body : Option Json) : Json.Reader Draft := fun origin document => do
  let tag ← Json.readName Tag.ofName? origin document
  match body with
  | none => .ok (.tagged tag)
  | some body => ((readBody tag).readHeld body).map .complete

/-- Read the tag at the front of a list: the name of a kind, or among values held back also its
place. -/
def readLeadingTag : Json.Reader Tag := fun origin document =>
  let known (tag : Option Tag) : Except Json.Fault Tag :=
    match tag with
    | some tag => .ok tag
    | none => .error .data
  match origin, document with
  | .held, .number (some (.integer place _)) => known (Tag.ofPlace? place)
  | _, document => document.asText.bind fun name => known (Tag.ofName? name)

def record : Json.Record Draft Payload where
  blank := .blank
  slot
    | .blank, "type" => .vacant (readTag none)
    | .blank, "data" => .vacant fun origin document => (document.value origin).map .held
    | .tagged tag, "data" => .vacant fun origin document =>
        (readBody tag origin document).map .complete
    | .held body, "type" => .vacant (readTag (some body))
    | .tagged _, "type" | .held _, "data" | .complete _, "type" | .complete _, "data" => .filled
    | _, _ => .unknown
  names := ["type", "data"]
  complete?
    | .complete payload => some payload
    | .blank | .tagged _ | .held _ => none

def listRecord : Json.Record Draft Payload :=
  { record with
    slot
      | .blank, "type" => .vacant fun origin document =>
          (readLeadingTag origin document).map .tagged
      | draft, name => record.slot draft name }

def read : Json.Reader Payload := fun origin document =>
  match document with
  | .array _ _ => listRecord.read origin document
  | document => record.read origin document

/-- The text that a body has where nothing tells of which kind it is, unless it is binary. -/
def plainText? : Payload → Option String
  | .text body => some body
  | .json body => some body.value.text
  | .binary _ => none

end Payload

end HubRelay
