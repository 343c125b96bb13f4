import HubRelay.Json.Value

/-!
Contract: what is in canonical form stays as it is.

Owns: that entries which come in ascending order are put one behind the other, that a dictionary is
made of its entries, and that the canonical form of a value in canonical form is the value.

Does not own: that canonical forms are canonical.
-/

namespace HubRelay

variable {α : Type}

/-- An entry whose name is above all others is put behind them. -/
theorem insertEntry_of_last {name : String} (value : α) {entries : List (String × α)}
    (above : ∀ entry ∈ entries, entry.1 < name) :
    insertEntry name value entries = entries ++ [(name, value)] := by
  induction entries with
  | nil => rfl
  | cons head rest inductionHypothesis =>
    have below := above head List.mem_cons_self
    have notBelow : ¬ name < head.1 := fun less => String.lt_irrefl _ (String.lt_trans less below)
    have different : name ≠ head.1 := fun same => String.lt_irrefl _ (same ▸ below)
    have later := inductionHypothesis fun entry member =>
      above entry (List.mem_cons_of_mem _ member)
    rw [insertEntry, if_neg notBelow, if_neg different, later, List.cons_append]

/-- So is the next one of entries that ascend. -/
theorem insertEntry_of_ascending {before after : List (String × α)} {name : String} {value : α}
    (ascending : Ascending (before ++ (name, value) :: after)) :
    insertEntry name value before = before ++ [(name, value)] :=
  insertEntry_of_last value fun entry member =>
    (List.pairwise_append.1 ascending).2.2 entry member _ List.mem_cons_self

/-- So are all of them. -/
theorem Dictionary.foldl_insert (dictionary : Dictionary α) (entries : List (String × α))
    (ascending : Ascending (dictionary.entries ++ entries)) :
    entries.foldl (fun dictionary entry => dictionary.insert entry.1 entry.2) dictionary =
      ⟨dictionary.entries ++ entries, ascending⟩ := by
  induction entries generalizing dictionary with
  | nil =>
    obtain ⟨before, sorted⟩ := dictionary
    simp
  | cons entry entries inductionHypothesis =>
    obtain ⟨name, value⟩ := entry
    have inserted :
        (dictionary.insert name value).entries = dictionary.entries ++ [(name, value)] :=
      insertEntry_of_ascending ascending
    have split : dictionary.entries ++ (name, value) :: entries =
        (dictionary.insert name value).entries ++ entries := by
      rw [inserted, List.append_assoc, List.singleton_append]
    have goesOn := inductionHypothesis (dictionary.insert name value) (split ▸ ascending)
    simp only [split]
    exact goesOn

/-- A dictionary is made of its entries. -/
theorem Dictionary.ofList_entries (dictionary : Dictionary α) :
    Dictionary.ofList dictionary.entries = dictionary :=
  foldl_insert .empty dictionary.entries dictionary.ascending

namespace Json

mutual

theorem canonical_of_isCanonical : (value : Json) → IsCanonical value → value.canonical = value
  | .null, _ | .boolean _, _ | .number _, _ | .string _, _ => rfl
  | .array items, .array canonical => by
    rw [Json.canonical, canonicalItems_of_isCanonical items canonical]
  | .object members, .object ascending canonical => by
    rw [Json.canonical, canonicalMembers_of_isCanonical [] members ascending canonical,
      List.nil_append]

theorem canonicalItems_of_isCanonical :
    (items : List Json) → (∀ item ∈ items, IsCanonical item) → canonicalItems items = items
  | [], _ => rfl
  | item :: items, canonical => by
    rw [canonicalItems, canonical_of_isCanonical item (canonical item List.mem_cons_self),
      canonicalItems_of_isCanonical items fun other member =>
        canonical other (List.mem_cons_of_mem _ member)]

theorem canonicalMembers_of_isCanonical (sorted : List (String × Json)) :
    (members : List (String × Json)) → Ascending (sorted ++ members) →
      (∀ member ∈ members, IsCanonical member.2) →
        canonicalMembers sorted members = sorted ++ members
  | [], _, _ => (List.append_nil sorted).symm
  | (name, value) :: members, ascending, canonical => by
    have next := canonical_of_isCanonical value (canonical (name, value) List.mem_cons_self)
    have split : sorted ++ (name, value) :: members = (sorted ++ [(name, value)]) ++ members := by
      rw [List.append_assoc, List.singleton_append]
    rw [canonicalMembers, next, insertEntry_of_ascending ascending, split]
    exact canonicalMembers_of_isCanonical _ members (split ▸ ascending) fun other member =>
      canonical other (List.mem_cons_of_mem _ member)

end

theorem Canonical.of_value (body : Canonical) : Canonical.of body.value = body := by
  obtain ⟨value, isCanonical⟩ := body
  simp only [Canonical.of, canonical_of_isCanonical value isCanonical]

end Json

end HubRelay
