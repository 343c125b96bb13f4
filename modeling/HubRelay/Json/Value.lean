import HubRelay.Decimal.Binary64
import HubRelay.Dictionary

/-!
Contract: JSON values.

Owns:
- numbers, which are integers of the signed or unsigned 64-bit range or finite doubles;
- values whose objects keep their members as written, repeated names included;
- the canonical form, in which the members of every object ascend by name and the last of
  several members of one name counts.

Does not own: texts of JSON, whether written or read.
-/

namespace HubRelay

namespace Json

/-- A JSON number: an integer that fits 64 bits with or without sign, or a finite double. -/
inductive Number where
  | integer (value : Int)
    (inRange : -0x8000000000000000 ≤ value ∧ value < 0x10000000000000000)
  | double (value : Decimal.Binary64)
deriving DecidableEq, Repr

/-- A natural number, unless it is too large. -/
def Number.ofNat? (value : Nat) : Option Number :=
  if fits : value < 0x10000000000000000 then some (.integer value (by omega)) else none

end Json

/-- A JSON value. -/
inductive Json where
  | null
  | boolean (value : Bool)
  | number (value : Json.Number)
  | string (value : String)
  | array (items : List Json)
  | object (members : List (String × Json))
deriving Repr, Inhabited

namespace Json

mutual

/-- Whether two values are the same, and why. -/
def decideEq : (left right : Json) → Decidable (left = right)
  | .null, .null => isTrue rfl
  | .boolean left, .boolean right =>
    if same : left = right then isTrue (by rw [same]) else isFalse (by simpa using same)
  | .number left, .number right =>
    if same : left = right then isTrue (by rw [same]) else isFalse (by simpa using same)
  | .string left, .string right =>
    if same : left = right then isTrue (by rw [same]) else isFalse (by simpa using same)
  | .array left, .array right =>
    match decideEqItems left right with
    | isTrue same => isTrue (by rw [same])
    | isFalse differ => isFalse (by simpa using differ)
  | .object left, .object right =>
    match decideEqMembers left right with
    | isTrue same => isTrue (by rw [same])
    | isFalse differ => isFalse (by simpa using differ)
  | .null, .boolean _ | .null, .number _ | .null, .string _ | .null, .array _ | .null, .object _
  | .boolean _, .null | .boolean _, .number _ | .boolean _, .string _ | .boolean _, .array _
  | .boolean _, .object _
  | .number _, .null | .number _, .boolean _ | .number _, .string _ | .number _, .array _
  | .number _, .object _
  | .string _, .null | .string _, .boolean _ | .string _, .number _ | .string _, .array _
  | .string _, .object _
  | .array _, .null | .array _, .boolean _ | .array _, .number _ | .array _, .string _
  | .array _, .object _
  | .object _, .null | .object _, .boolean _ | .object _, .number _ | .object _, .string _
  | .object _, .array _ => isFalse (by simp)

/-- Whether two lists of values are the same, and why. -/
def decideEqItems : (left right : List Json) → Decidable (left = right)
  | [], [] => isTrue rfl
  | [], _ :: _ | _ :: _, [] => isFalse (by simp)
  | left :: lefts, right :: rights =>
    match decideEq left right, decideEqItems lefts rights with
    | isTrue same, isTrue rest => isTrue (by rw [same, rest])
    | isFalse differ, _ => isFalse (by simp [differ])
    | _, isFalse differ => isFalse (by simp [differ])

/-- Whether two lists of members are the same, and why. -/
def decideEqMembers : (left right : List (String × Json)) → Decidable (left = right)
  | [], [] => isTrue rfl
  | [], _ :: _ | _ :: _, [] => isFalse (by simp)
  | (leftName, left) :: lefts, (rightName, right) :: rights =>
    if name : leftName = rightName then
      match decideEq left right, decideEqMembers lefts rights with
      | isTrue same, isTrue rest => isTrue (by rw [name, same, rest])
      | isFalse differ, _ => isFalse (by simp [differ])
      | _, isFalse differ => isFalse (by simp [differ])
    else isFalse (by simp [name])

end

instance : DecidableEq Json := decideEq

mutual

def canonical : Json → Json
  | .array items => .array (canonicalItems items)
  | .object members => .object (canonicalMembers [] members)
  | .null => .null
  | .boolean value => .boolean value
  | .number value => .number value
  | .string value => .string value

def canonicalItems : List Json → List Json
  | [] => []
  | item :: items => canonical item :: canonicalItems items

/-- The canonical members of an object, added to those already sorted. -/
def canonicalMembers (sorted : List (String × Json)) : List (String × Json) → List (String × Json)
  | [] => sorted
  | (name, value) :: members => canonicalMembers (insertEntry name (canonical value) sorted) members

end

/-- Whether the members of every object of a value ascend by name. -/
inductive IsCanonical : Json → Prop
  | null : IsCanonical .null
  | boolean (value : Bool) : IsCanonical (.boolean value)
  | number (value : Number) : IsCanonical (.number value)
  | string (value : String) : IsCanonical (.string value)
  | array {items : List Json} (canonical : ∀ item ∈ items, IsCanonical item) :
    IsCanonical (.array items)
  | object {members : List (String × Json)} (ascending : Ascending members)
    (canonical : ∀ member ∈ members, IsCanonical member.2) : IsCanonical (.object members)

mutual

/-- The canonical form of a value is canonical. -/
theorem isCanonical_canonical : (value : Json) → IsCanonical (canonical value)
  | .null => .null
  | .boolean value => .boolean value
  | .number value => .number value
  | .string value => .string value
  | .array items => .array (isCanonical_canonicalItems items)
  | .object members =>
    have sorted := isCanonical_canonicalMembers [] members List.Pairwise.nil (by simp)
    .object sorted.1 sorted.2

/-- So are the canonical items of an array. -/
theorem isCanonical_canonicalItems :
    (items : List Json) → ∀ item ∈ canonicalItems items, IsCanonical item
  | [], _, member => by simp [canonicalItems] at member
  | first :: rest, item, member => by
    rcases List.mem_cons.1 member with equal | later
    · exact equal ▸ isCanonical_canonical first
    · exact isCanonical_canonicalItems rest item later

/-- So are the canonical members of an object. -/
theorem isCanonical_canonicalMembers (sorted : List (String × Json)) :
    (members : List (String × Json)) → Ascending sorted →
      (∀ member ∈ sorted, IsCanonical member.2) →
      Ascending (canonicalMembers sorted members) ∧
        ∀ member ∈ canonicalMembers sorted members, IsCanonical member.2
  | [], ascending, canonicalSoFar => ⟨ascending, canonicalSoFar⟩
  | (name, value) :: rest, ascending, canonicalSoFar => by
    simp only [canonicalMembers]
    refine isCanonical_canonicalMembers _ rest (ascending_insertEntry _ _ ascending) ?_
    intro member present
    rcases mem_insertEntry present with new | old
    · exact new ▸ isCanonical_canonical value
    · exact canonicalSoFar member old

end

/-- A value in canonical form. -/
structure Canonical where
  value : Json
  isCanonical : IsCanonical value

namespace Canonical

instance : DecidableEq Canonical := fun left right =>
  if same : left.value = right.value then
    isTrue (by cases left; cases right; simp_all)
  else isFalse fun equal => same (equal ▸ rfl)

instance : Repr Canonical where
  reprPrec body precedence := reprPrec body.value precedence

def of (value : Json) : Canonical :=
  ⟨value.canonical, isCanonical_canonical value⟩

end Canonical

end Json

end HubRelay
