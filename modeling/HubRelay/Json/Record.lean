import HubRelay.Json.Reading

/-!
Contract: reading a record, whose fields have names and an order.

Owns:
- what becomes of the member of a name, given the fields read so far;
- reading a record from the members of an object, in any order;
- reading a record from the items of an array, in the order of its fields;
- fields that a value gives, fields that must be there, and fields that may be missing.

Does not own: the fields of any particular record.

A member of an unknown name is passed over.  A member of a name that was already read is refused
as soon as the name is known, whatever its value is.
-/

namespace HubRelay.Json

/-- What becomes of the member of a name. -/
inductive Slot (σ : Type) where
  /-- No field has this name. -/
  | unknown
  /-- The field has been read. -/
  | filled
  /-- The field is read by this reader. -/
  | vacant (reader : Reader σ)

def Slot.of {σ α : Type} (found : Option α) (reader : Reader α) (store : α → σ) : Slot σ :=
  match found with
  | some _ => .filled
  | none => .vacant fun origin document => (reader origin document).map store

/-- How a record is read: the fields read so far make up a draft. -/
structure Record (σ α : Type) where
  /-- The draft of a record of which nothing has been read. -/
  blank : σ
  /-- The slot of a name. -/
  slot : σ → String → Slot σ
  /-- The names of the fields in their order. -/
  names : List String
  /-- The record that a draft makes, unless a field is missing. -/
  complete? : σ → Option α

namespace Record

variable {σ α : Type}

def readMembers (record : Record σ α) (origin : Origin) (draft : σ) :
    List (StringSpelling × Document) → Except Fault σ
  | [] => .ok draft
  | (name, document) :: members => do
    let name ← Document.nameText name
    match record.slot draft name with
    | .unknown =>
      document.pass
      record.readMembers origin draft members
    | .filled => .error .data
    | .vacant reader =>
      let draft ← reader origin document
      record.readMembers origin draft members

/-- Read the items of an array into a draft, one field after the other.

Fields may run out of items, but items may not run out of fields. -/
def readItems (record : Record σ α) (origin : Origin) (closed : Bool) (draft : σ) :
    List String → List Document → Except Fault σ
  | _, [] => if closed then .ok draft else .error .malformed
  | [], _ :: _ => .error .malformed
  | name :: names, document :: items =>
    match record.slot draft name with
    | .unknown | .filled => .error .data
    | .vacant reader => do
      let draft ← reader origin document
      record.readItems origin closed draft names items

def complete (record : Record σ α) (draft : σ) : Except Fault α :=
  match record.complete? draft with
  | some value => .ok value
  | none => .error .data

def readObject (record : Record σ α) (origin : Origin)
    (members : List (StringSpelling × Document)) (closed : Bool) : Except Fault α := do
  let inner ← origin.enter
  let draft ← record.readMembers inner record.blank members
  if closed then record.complete draft else .error .malformed

/-- Read a record from the items of an array.

A missing field is noticed where its item should be, and so before an item too many. -/
def readArray (record : Record σ α) (origin : Origin) (items : List Document) (closed : Bool) :
    Except Fault α := do
  let inner ← origin.enter
  let draft ← record.readItems inner closed record.blank record.names items
  record.complete draft

def read (record : Record σ α) : Reader α := fun origin document =>
  match document with
  | .object members closed => record.readObject origin members closed
  | .array items closed => record.readArray origin items closed
  | document => .error document.mismatch

end Record

def readText : Reader String := fun _ document => document.asText

/-- Read a value that may be `null`. -/
def readOption {α : Type} (reader : Reader α) : Reader (Option α) := fun origin document =>
  match document with
  | .null => .ok none
  | document => (reader origin document).map some

end HubRelay.Json
