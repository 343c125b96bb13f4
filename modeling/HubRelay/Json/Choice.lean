import HubRelay.Json.Reading

/-!
Contract: reading one of several named alternatives.

Owns:
- reading an alternative that carries nothing, written as its name or as an object with the name
  as its only member;
- reading an alternative that carries a value, written as an object with the name as its only
  member.

Does not own: the names of any particular alternatives.

A name that stands for no alternative is refused as soon as it has been read.
-/

namespace HubRelay.Json

/-- Read a value that says nothing: `null`, and among values held back also an empty object. -/
def readNothing : Reader Unit
  | _, .null => .ok ()
  | .held, .object [] _ => .ok ()
  | _, document => .error document.mismatch

/-- Read an object with one member, whose name chooses the reader of its value. -/
def readSole {α : Type} (readers : String → Option (Reader α)) : Reader α := fun origin document =>
  match document with
  | .object members closed => do
    let inner ← origin.enter
    match members with
    | [] => .error .malformed
    | (name, value) :: more =>
      let name ← Document.nameText name
      match readers name with
      | none => .error .data
      | some reader =>
        let found ← reader inner value
        if more.isEmpty && closed then .ok found else .error .malformed
  | _ => .error .malformed

def readName {α : Type} (known : String → Option α) : Reader α := fun origin document =>
  match document with
  | .string (.text name) =>
    match known name with
    | some found => .ok found
    | none => .error .data
  | .string .unpaired => .error .malformed
  | document =>
    readSole (fun name => (known name).map fun found origin value =>
      (readNothing origin value).map fun _ => found) origin document

/-- Read an alternative that carries a value; its name alone is refused. -/
def readCarrier {α : Type} (readers : String → Option (Reader α)) : Reader α :=
  fun origin document =>
    match document with
    | .string spelling => .error (Document.string spelling).mismatch
    | document => readSole readers origin document

end HubRelay.Json
