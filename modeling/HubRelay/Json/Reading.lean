import HubRelay.Json.Document

/-!
Contract: walking a syntax tree.

Owns:
- the two ways in which a text can be refused;
- what a tree of the wrong kind is refused for;
- how deep arrays and objects may nest;
- passing over a tree, turning it into a value, and turning a value back into a tree;
- reading a whole text, or the value at its front.

Does not own: which members an object should have.
-/

namespace HubRelay.Json

/-- Why a text is refused. -/
inductive Fault where
  /-- The text is no acceptable JSON. -/
  | malformed
  /-- The text is JSON so far and does not say what it should. -/
  | data
deriving DecidableEq, Repr

/-- Where a tree comes from. -/
inductive Origin where
  /-- It was read straight from a text, and arrays and objects may nest so much deeper. -/
  | text (depth : Nat)
  /-- It was held back as a value first. -/
  | held
deriving DecidableEq, Repr

namespace Origin

/-- A whole text, in which arrays and objects may nest 127 deep. -/
def whole : Origin :=
  .text 127

def enter : Origin → Except Fault Origin
  | .text 0 => .error .malformed
  | .text (depth + 1) => .ok (.text depth)
  | .held => .ok .held

end Origin

namespace Document

/-- What a value of another kind than the expected one is refused for.

It is refused once it has been read; of an array or an object only the bracket has been read by
then. -/
def mismatch : Document → Fault
  | .broken => .malformed
  | .null | .boolean _ => .data
  | .number none => .malformed
  | .number (some _) => .data
  | .string .unpaired => .malformed
  | .string (.text _) => .data
  | .array _ _ | .object _ _ => .data

def nameText : StringSpelling → Except Fault String
  | .text value => .ok value
  | .unpaired => .error .malformed

def asText : Document → Except Fault String
  | .string (.text value) => .ok value
  | document => .error document.mismatch

/-! ## Passing over a tree -/

mutual

/-- Whether a tree is a whole value.  Numbers of any size, strings without a text and nesting of
any depth are whole values too. -/
def isWhole : Document → Bool
  | .broken => false
  | .null | .boolean _ | .number _ | .string _ => true
  | .array items closed => areWhole items && closed
  | .object members closed => areWholeMembers members && closed

def areWhole : List Document → Bool
  | [] => true
  | item :: items => isWhole item && areWhole items

/-- Whether every member of a list has a whole value. -/
def areWholeMembers : List (StringSpelling × Document) → Bool
  | [] => true
  | (_, value) :: members => isWhole value && areWholeMembers members

end

def pass (document : Document) : Except Fault Unit :=
  if document.isWhole then .ok () else .error .malformed

/-! ## Values -/

mutual

/-- The value of a tree, members in the order in which they are written and repeated names
included. -/
def value (origin : Origin) : Document → Except Fault Json
  | .broken => .error .malformed
  | .null => .ok .null
  | .boolean value => .ok (.boolean value)
  | .number none => .error .malformed
  | .number (some found) => .ok (.number found)
  | .string spelling => (nameText spelling).map .string
  | .array items closed => do
    let inner ← origin.enter
    let items ← values inner items
    if closed then .ok (.array items) else .error .malformed
  | .object members closed => do
    let inner ← origin.enter
    let members ← memberValues inner members
    if closed then .ok (.object members) else .error .malformed

def values (origin : Origin) : List Document → Except Fault (List Json)
  | [] => .ok []
  | item :: items => do
    let first ← value origin item
    let rest ← values origin items
    .ok (first :: rest)

def memberValues (origin : Origin) :
    List (StringSpelling × Document) → Except Fault (List (String × Json))
  | [] => .ok []
  | (name, member) :: members => do
    let name ← nameText name
    let first ← value origin member
    let rest ← memberValues origin members
    .ok ((name, first) :: rest)

end

mutual

def ofValue : Json → Document
  | .null => .null
  | .boolean value => .boolean value
  | .number found => .number (some found)
  | .string value => .string (.text value)
  | .array items => .array (ofValues items) true
  | .object members => .object (ofMembers members) true

def ofValues : List Json → List Document
  | [] => []
  | item :: items => ofValue item :: ofValues items

def ofMembers : List (String × Json) → List (StringSpelling × Document)
  | [] => []
  | (name, value) :: members => (.text name, ofValue value) :: ofMembers members

end

end Document

/-- A reader of trees. -/
abbrev Reader (α : Type) := Origin → Document → Except Fault α

namespace Reader

variable {α : Type}

/-- Read the value at the front of a text, whatever comes after it. -/
def readFront (reader : Reader α) (text : List Char) : Except Fault α :=
  reader .whole (Document.ofText text).1

/-- Read a text that holds one value with blanks around it. -/
def readText (reader : Reader α) (text : List Char) : Except Fault α := do
  let (document, rest) := Document.ofText text
  let value ← reader .whole document
  if Document.skipGap rest = [] then .ok value else .error .malformed

/-- Read a value that was held back; whatever is wrong with it, its syntax is not. -/
def readHeld (reader : Reader α) (value : Json) : Except Fault α :=
  match reader .held (Document.ofValue value) with
  | .ok found => .ok found
  | .error _ => .error .data

end Reader

end HubRelay.Json
