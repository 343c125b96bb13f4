import HubRelay.Json.Reading

/-!
Contract: values and their trees.

Owns: how deep values nest and which have only integers for numbers; that a value comes back from
its tree, that no other tree has this value, and that the tree is whole; and what is read in several
steps, whatever it is refused for if it is not.

Does not own: the texts of values.

The depth is counted down on the way in, so a value comes back below every origin that allows for
its own depth.
-/

namespace HubRelay.Json

open Document

/-! ## What is read, whatever is refused -/

theorem toOption_ok {α : Type} (value : α) : (.ok value : Except Fault α).toOption = some value :=
  rfl

theorem toOption_bind {α β : Type} (found : Except Fault α) (next : α → Except Fault β) :
    (found >>= next).toOption = found.toOption.bind fun value => (next value).toOption := by
  cases found <;> rfl

theorem toOption_map {α β : Type} (found : Except Fault α) (change : α → β) :
    (found.map change).toOption = found.toOption.map change := by
  cases found <;> rfl

theorem toOption_eq_some_iff {α : Type} {found : Except Fault α} {value : α} :
    found.toOption = some value ↔ found = .ok value := by
  cases found with
  | ok other => exact ⟨fun same => congrArg _ (Option.some.inj same),
      fun same => congrArg some (Except.ok.inj same)⟩
  | error fault => exact ⟨nofun, nofun⟩

theorem toOption_eq_none_iff {α : Type} {found : Except Fault α} :
    found.toOption = none ↔ ∀ value, found ≠ .ok value := by
  cases found with
  | ok other => exact ⟨nofun, fun none => absurd rfl (none other)⟩
  | error fault => exact ⟨fun _ => nofun, fun _ => rfl⟩

/-- What is read in two steps has been read in the first one. -/
theorem eq_ok_of_bind {α β : Type} {found : Except Fault α} {next : α → Except Fault β} {value : β}
    (read : found >>= next = .ok value) : ∃ first, found = .ok first ∧ next first = .ok value := by
  cases found with
  | ok first => exact ⟨first, rfl, read⟩
  | error fault => cases read

/-! ## Depth and integers -/

mutual

/-- How deep arrays and objects nest in a value. -/
def nesting : Json → Nat
  | .array items => nestingItems items + 1
  | .object members => nestingMembers members + 1
  | .null | .boolean _ | .number _ | .string _ => 0

def nestingItems : List Json → Nat
  | [] => 0
  | item :: items => max (nesting item) (nestingItems items)

def nestingMembers : List (String × Json) → Nat
  | [] => 0
  | (_, value) :: members => max (nesting value) (nestingMembers members)

end

mutual

/-- Whether all numbers of a value are integers. -/
def isIntegral : Json → Bool
  | .number (.integer _ _) => true
  | .number (.double _) => false
  | .array items => areIntegral items
  | .object members => areIntegralMembers members
  | .null | .boolean _ | .string _ => true

def areIntegral : List Json → Bool
  | [] => true
  | item :: items => isIntegral item && areIntegral items

/-- Whether all numbers of the members of an object are integers. -/
def areIntegralMembers : List (String × Json) → Bool
  | [] => true
  | (_, value) :: members => isIntegral value && areIntegralMembers members

end

theorem nesting_le_of_mem (name : String) {value : Json} {members : List (String × Json)}
    (among : (name, value) ∈ members) : value.nesting ≤ nestingMembers members := by
  induction members with
  | nil => contradiction
  | cons head members inductionHypothesis =>
    rcases List.mem_cons.1 among with rfl | later
    · exact Nat.le_max_left _ _
    · exact Nat.le_trans (inductionHypothesis later) (Nat.le_max_right _ _)

/-! ## Trees -/

/-- Whether arrays and objects may nest so deep. -/
def Origin.Allows : Origin → Nat → Prop
  | .text depth, levels => levels ≤ depth
  | .held, _ => True

theorem Origin.Allows.mono {origin : Origin} {levels fewer : Nat} (allows : origin.Allows levels)
    (below : fewer ≤ levels) : origin.Allows fewer := by
  cases origin with
  | text depth => exact Nat.le_trans below allows
  | held => trivial

theorem Origin.Allows.enter {origin : Origin} {levels : Nat} (allows : origin.Allows (levels + 1)) :
    ∃ inner, origin.enter = .ok inner ∧ inner.Allows levels := by
  cases origin with
  | text depth =>
    cases depth with
    | zero => exact absurd allows (Nat.not_succ_le_zero levels)
    | succ depth => exact ⟨.text depth, rfl, Nat.le_of_succ_le_succ allows⟩
  | held => exact ⟨.held, rfl, trivial⟩

namespace Document

mutual

/-- A value comes back from its tree, if it may nest as deep as it does. -/
theorem value_ofValue {origin : Origin} :
    (found : Json) → origin.Allows found.nesting → (ofValue found).value origin = .ok found
  | .null, _ | .boolean _, _ | .number _, _ | .string _, _ => rfl
  | .array items, allows => by
    obtain ⟨inner, enters, within⟩ := allows.enter
    rw [ofValue, value, enters]
    show (values inner (ofValues items) >>= fun items => Except.ok (Json.array items)) = _
    rw [values_ofValues items within]
    rfl
  | .object members, allows => by
    obtain ⟨inner, enters, within⟩ := allows.enter
    rw [ofValue, value, enters]
    show (memberValues inner (ofMembers members) >>= fun members =>
      Except.ok (Json.object members)) = _
    rw [memberValues_ofMembers members within]
    rfl

theorem values_ofValues {origin : Origin} :
    (items : List Json) → origin.Allows (nestingItems items) →
      values origin (ofValues items) = .ok items
  | [], _ => rfl
  | item :: items, allows => by
    have first := value_ofValue item (allows.mono (Nat.le_max_left _ _))
    have rest := values_ofValues items (allows.mono (Nat.le_max_right _ _))
    simp only [ofValues, values, first, rest]
    rfl

theorem memberValues_ofMembers {origin : Origin} :
    (members : List (String × Json)) → origin.Allows (nestingMembers members) →
      memberValues origin (ofMembers members) = .ok members
  | [], _ => rfl
  | (name, found) :: members, allows => by
    have first := value_ofValue found (allows.mono (Nat.le_max_left _ _))
    have rest := memberValues_ofMembers members (allows.mono (Nat.le_max_right _ _))
    simp only [ofMembers, memberValues, nameText, first, rest]
    rfl

end

end Document

/-- What is made of the parts of an array or an object, if they can be read and it is closed. -/
theorem made_of_ok {α : Type} {entered : Except Fault Origin}
    {parts : Origin → Except Fault α} {make : α → Json} {closed : Bool} {value : Json}
    (read : (do
      let inner ← entered
      let found ← parts inner
      if closed then .ok (make found) else .error .malformed : Except Fault Json) = .ok value) :
    ∃ inner found, parts inner = .ok found ∧ closed = true ∧ value = make found := by
  obtain ⟨inner, -, read⟩ := eq_ok_of_bind read
  obtain ⟨found, partsRead, closes⟩ := eq_ok_of_bind read
  cases closed with
  | false => cases closes
  | true => exact ⟨inner, found, partsRead, rfl, (Except.ok.inj closes).symm⟩

mutual

/-- A tree that has a value is the tree of the value. -/
theorem eq_ofValue_of_value {origin : Origin} : (document : Document) → {found : Json} →
    document.value origin = .ok found → document = ofValue found
  | .null, _, same | .boolean _, _, same | .number (some _), _, same
  | .string (.text _), _, same => by
    obtain rfl := Except.ok.inj same
    rfl
  | .array items closed, found, same => by
    obtain ⟨inner, values, itemsRead, closes, rfl⟩ := made_of_ok same
    rw [closes, eq_ofValues_of_values items itemsRead]
    rfl
  | .object members closed, found, same => by
    obtain ⟨inner, values, membersRead, closes, rfl⟩ := made_of_ok same
    rw [closes, eq_ofMembers_of_memberValues members membersRead]
    rfl

theorem eq_ofValues_of_values {origin : Origin} : (items : List Document) →
    {found : List Json} → values origin items = .ok found → items = ofValues found
  | [], _, same => by
    obtain rfl := Except.ok.inj same
    rfl
  | item :: items, found, allRead => by
    obtain ⟨first, itemRead, allRead⟩ := eq_ok_of_bind allRead
    obtain ⟨rest, itemsRead, same⟩ := eq_ok_of_bind allRead
    obtain rfl := Except.ok.inj same
    rw [eq_ofValue_of_value item itemRead, eq_ofValues_of_values items itemsRead]
    rfl

theorem eq_ofMembers_of_memberValues {origin : Origin} :
    (members : List (StringSpelling × Document)) → {found : List (String × Json)} →
      memberValues origin members = .ok found → members = ofMembers found
  | [], _, same => by
    obtain rfl := Except.ok.inj same
    rfl
  | (.text name, document) :: members, found, allRead => by
    obtain ⟨own, named, allRead⟩ := eq_ok_of_bind allRead
    obtain ⟨first, valueRead, allRead⟩ := eq_ok_of_bind allRead
    obtain ⟨rest, membersRead, same⟩ := eq_ok_of_bind allRead
    obtain rfl := Except.ok.inj same
    obtain rfl : name = own := Except.ok.inj named
    rw [eq_ofValue_of_value document valueRead, eq_ofMembers_of_memberValues members membersRead]
    rfl

end

mutual

/-- The tree of a value is whole. -/
theorem isWhole_ofValue : (value : Json) → (ofValue value).isWhole = true
  | .null | .boolean _ | .number _ | .string _ => rfl
  | .array items => by
    rw [ofValue, isWhole, areWhole_ofValues items]
    rfl
  | .object members => by
    rw [ofValue, isWhole, areWhole_ofMembers members]
    rfl

theorem areWhole_ofValues : (items : List Json) → areWhole (ofValues items) = true
  | [] => rfl
  | item :: items => by
    rw [ofValues, areWhole, isWhole_ofValue item, areWhole_ofValues items]
    rfl

theorem areWhole_ofMembers :
    (members : List (String × Json)) → areWholeMembers (ofMembers members) = true
  | [] => rfl
  | (name, value) :: members => by
    rw [ofMembers, areWholeMembers, isWhole_ofValue value, areWhole_ofMembers members]
    rfl

end

theorem ofMembers_eq_map (members : List (String × Json)) :
    ofMembers members = members.map fun (name, value) => (.text name, ofValue value) := by
  induction members with
  | nil => rfl
  | cons member members inductionHypothesis =>
    rw [ofMembers, inductionHypothesis]
    rfl

theorem ofMembers_append (before after : List (String × Json)) :
    ofMembers (before ++ after) = ofMembers before ++ ofMembers after := by
  simp only [ofMembers_eq_map, List.map_append]

end HubRelay.Json
