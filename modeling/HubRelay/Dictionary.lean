/-!
Contract: finite maps from names to values, kept as a list in ascending order of names.

Owns: insertion into an ascending list, the type of ascending lists, look-up, removal, and the
laws that tie insertion and removal to look-up.

Does not own: what the names stand for.

Names are compared character by character, which is also the order of their encoded bytes.
-/

namespace HubRelay

/-- Put an entry where its name belongs; the value of a name that is there is replaced. -/
def insertEntry {α : Type} (name : String) (value : α) : List (String × α) → List (String × α)
  | [] => [(name, value)]
  | entry :: rest =>
    if name < entry.1 then (name, value) :: entry :: rest
    else if name = entry.1 then (name, value) :: rest
    else entry :: insertEntry name value rest

/-- An entry of the result of an insertion is the new one or an old one. -/
theorem mem_insertEntry {α : Type} {name : String} {value : α} {entries : List (String × α)}
    {entry : String × α} (member : entry ∈ insertEntry name value entries) :
    entry = (name, value) ∨ entry ∈ entries := by
  induction entries with
  | nil =>
    simp only [insertEntry, List.mem_singleton] at member
    exact Or.inl member
  | cons head rest inductionHypothesis =>
    simp only [insertEntry] at member
    split at member
    · simpa using member
    · split at member
      · rcases List.mem_cons.1 member with new | old
        · exact Or.inl new
        · exact Or.inr (List.mem_cons_of_mem _ old)
      · rcases List.mem_cons.1 member with first | later
        · exact Or.inr (first ▸ List.mem_cons_self)
        · rcases inductionHypothesis later with new | old
          · exact Or.inl new
          · exact Or.inr (List.mem_cons_of_mem _ old)

/-- Whether the names of a list of entries ascend strictly. -/
abbrev Ascending {α : Type} (entries : List (String × α)) : Prop :=
  entries.Pairwise fun earlier later => earlier.1 < later.1

/-- A name that is neither below nor equal to another one is above it. -/
theorem name_lt_of_not_lt_of_ne {left right : String} (notBelow : ¬ left < right)
    (different : left ≠ right) : right < left := by
  have above : right ≤ left := String.not_lt.1 notBelow
  rcases Decidable.em (right < left) with below | notAbove
  · exact below
  · exact absurd (String.le_antisymm (String.not_lt.1 notAbove) above) different

/-- Insertion keeps names ascending. -/
theorem ascending_insertEntry {α : Type} (name : String) (value : α)
    {entries : List (String × α)} (ascending : Ascending entries) :
    Ascending (insertEntry name value entries) := by
  induction entries with
  | nil => simp [insertEntry, Ascending]
  | cons head rest inductionHypothesis =>
    have headBelow := (List.pairwise_cons.1 ascending).1
    have restAscending := (List.pairwise_cons.1 ascending).2
    simp only [insertEntry]
    split
    · next below =>
      refine List.pairwise_cons.2 ⟨?_, ascending⟩
      intro entry member
      rcases List.mem_cons.1 member with first | later
      · exact first ▸ below
      · exact String.lt_trans below (headBelow entry later)
    · next notBelow =>
      split
      · next equal =>
        refine List.pairwise_cons.2 ⟨?_, restAscending⟩
        intro entry member
        have := headBelow entry member
        exact equal ▸ this
      · next different =>
        refine List.pairwise_cons.2 ⟨?_, inductionHypothesis restAscending⟩
        intro entry member
        rcases mem_insertEntry member with new | old
        · exact new ▸ name_lt_of_not_lt_of_ne notBelow different
        · exact headBelow entry old

/-- A finite map from names to values. -/
structure Dictionary (α : Type) where
  entries : List (String × α)
  ascending : Ascending entries

namespace Dictionary

variable {α β : Type}

instance [DecidableEq α] : DecidableEq (Dictionary α) := fun left right =>
  if same : left.entries = right.entries then
    isTrue (by cases left; cases right; simp_all)
  else isFalse fun equal => same (equal ▸ rfl)

instance [Repr α] : Repr (Dictionary α) where
  reprPrec dictionary precedence := reprPrec dictionary.entries precedence

def empty : Dictionary α :=
  ⟨[], List.Pairwise.nil⟩

instance : Inhabited (Dictionary α) := ⟨empty⟩

def insert (dictionary : Dictionary α) (name : String) (value : α) : Dictionary α :=
  ⟨insertEntry name value dictionary.entries, ascending_insertEntry name value dictionary.ascending⟩

def erase (dictionary : Dictionary α) (name : String) : Dictionary α :=
  ⟨dictionary.entries.filter fun entry => entry.1 ≠ name, dictionary.ascending.filter _⟩

def get? (dictionary : Dictionary α) (name : String) : Option α :=
  (dictionary.entries.find? fun entry => entry.1 = name).map (·.2)

/-- The names, ascending. -/
def names (dictionary : Dictionary α) : List String :=
  dictionary.entries.map (·.1)

/-- The map of a list of entries; the last of several entries of one name counts. -/
def ofList (entries : List (String × α)) : Dictionary α :=
  entries.foldl (fun dictionary entry => dictionary.insert entry.1 entry.2) empty

/-- The value that insertion gives to its own name. -/
theorem get?_insert_self (dictionary : Dictionary α) (name : String) (value : α) :
    (dictionary.insert name value).get? name = some value := by
  obtain ⟨entries, ascending⟩ := dictionary
  simp only [get?, insert]
  clear ascending
  induction entries with
  | nil => simp [insertEntry]
  | cons head rest inductionHypothesis =>
    simp only [insertEntry]
    split
    · simp
    · split
      · simp
      · next different =>
        rw [List.find?_cons_of_neg]
        · exact inductionHypothesis
        · simpa using fun equal => different (Eq.symm equal)

/-- Insertion leaves every other name alone. -/
theorem get?_insert_of_ne (dictionary : Dictionary α) {name other : String} (value : α)
    (different : other ≠ name) :
    (dictionary.insert name value).get? other = dictionary.get? other := by
  obtain ⟨entries, ascending⟩ := dictionary
  simp only [get?, insert]
  clear ascending
  induction entries with
  | nil => simp [insertEntry, List.find?, Ne.symm different]
  | cons head rest inductionHypothesis =>
    simp only [insertEntry]
    split
    · rw [List.find?_cons_of_neg]
      simpa using Ne.symm different
    · split
      · next equal =>
        rw [List.find?_cons_of_neg, List.find?_cons_of_neg]
        · simpa using fun same : head.1 = other => different (same ▸ equal.symm)
        · simpa using Ne.symm different
      · by_cases same : head.1 = other
        · rw [List.find?_cons_of_pos, List.find?_cons_of_pos] <;> simpa using same
        · rw [List.find?_cons_of_neg, List.find?_cons_of_neg]
          · exact inductionHypothesis
          · simpa using same
          · simpa using same

/-- A name that was forgotten has no value. -/
theorem get?_erase_self (dictionary : Dictionary α) (name : String) :
    (dictionary.erase name).get? name = none := by
  simp only [get?, erase, List.find?_filter, Option.map_eq_none_iff, List.find?_eq_none]
  simp

/-- Forgetting a name leaves every other name alone. -/
theorem get?_erase_of_ne (dictionary : Dictionary α) {name other : String}
    (different : other ≠ name) :
    (dictionary.erase name).get? other = dictionary.get? other := by
  have kept : (fun entry : String × α => decide (decide (entry.1 ≠ name) = true ∧
      decide (entry.1 = other) = true)) = fun entry => decide (entry.1 = other) := by
    funext entry
    by_cases found : entry.1 = other <;> simp [found, different]
  simp only [get?, erase, List.find?_filter, kept]

/-- The entries are the names with their values. -/
theorem mem_entries_iff (dictionary : Dictionary α) (name : String) (value : α) :
    (name, value) ∈ dictionary.entries ↔ dictionary.get? name = some value := by
  obtain ⟨entries, ascending⟩ := dictionary
  simp only [get?]
  induction entries with
  | nil => simp
  | cons head rest inductionHypothesis =>
    obtain ⟨first, firstValue⟩ := head
    have restAscending := (List.pairwise_cons.1 ascending).2
    by_cases same : first = name
    · -- later entries have later names
      have notLater : (name, value) ∉ rest := by
        intro later
        have below := (List.pairwise_cons.1 ascending).1 _ later
        exact String.lt_irrefl name (same ▸ below)
      simp [same, notLater, eq_comm]
    · have known := inductionHypothesis restAscending
      rw [List.mem_cons, List.find?_cons_of_neg (by simpa using same), ← known]
      constructor
      · rintro (first' | later)
        · exact absurd (Prod.mk.inj first').1.symm same
        · exact later
      · exact Or.inr

/-- The names are those that have a value. -/
theorem mem_names_iff (dictionary : Dictionary α) (name : String) :
    name ∈ dictionary.names ↔ ∃ value, dictionary.get? name = some value := by
  rw [names, List.mem_map]
  constructor
  · rintro ⟨⟨_, value⟩, member, rfl⟩
    exact ⟨value, (mem_entries_iff dictionary _ value).1 member⟩
  · rintro ⟨value, found⟩
    exact ⟨(name, value), (mem_entries_iff dictionary name value).2 found, rfl⟩

/-- The names ascend strictly, so none is listed twice. -/
theorem ascending_names (dictionary : Dictionary α) : dictionary.names.Pairwise (· < ·) :=
  List.pairwise_map.2 dictionary.ascending

theorem nodup_names (dictionary : Dictionary α) : dictionary.names.Nodup := by
  refine dictionary.ascending_names.imp ?_
  rintro name _ below rfl
  exact String.lt_irrefl name below

end Dictionary

end HubRelay
