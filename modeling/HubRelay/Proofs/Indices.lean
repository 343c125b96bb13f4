/-!
Contract: lists whose entries keep their places.

Owns: looking up entries after one was changed or added, lists that are only added to, changing the
entries that are chosen, the places of these, and how the places change with the list.

Does not own: what the entries are.

Whatever was ever added to such a list stays at its place, so a place serves as a key.
-/

namespace HubRelay

variable {α β : Type} {entries others : List α} {entry last : α} {change : α → α} {index : Nat}

/-! ## Looking up -/

theorem entry_of_concat (found : (entries ++ [last])[index]? = some entry) :
    entries[index]? = some entry ∨ index = entries.length ∧ entry = last := by
  rw [List.getElem?_append] at found
  split at found
  · exact Or.inl found
  · right
    obtain ⟨within, value⟩ := List.getElem?_eq_some_iff.1 found
    rw [List.length_singleton] at within
    exact ⟨by omega, by simpa using value.symm⟩

theorem getElem?_concat_of_some (last : α) (found : entries[index]? = some entry) :
    (entries ++ [last])[index]? = some entry := by
  rw [List.getElem?_append_left (List.getElem?_eq_some_iff.1 found).1]
  exact found

theorem map_getElem?_concat {view : α → β} {value : β} (last : α)
    (known : entries[index]?.map view = some value) :
    (entries ++ [last])[index]?.map view = some value := by
  obtain ⟨entry, found, rfl⟩ := Option.map_eq_some_iff.1 known
  rw [getElem?_concat_of_some last found, Option.map_some]

theorem entry_of_modify {other : Nat} (found : (entries.modify index change)[other]? = some entry) :
    (index = other ∧ ∃ before, entries[other]? = some before ∧ entry = change before) ∨
      (index ≠ other ∧ entries[other]? = some entry) := by
  rw [List.getElem?_modify] at found
  obtain ⟨before, here, changed⟩ := Option.map_eq_some_iff.1 found
  by_cases same : index = other
  · exact Or.inl ⟨same, before, here, by simpa [same] using changed.symm⟩
  · rw [if_neg same] at changed
    exact Or.inr ⟨same, changed ▸ here⟩

theorem getElem?_modify_of_some (change : α → α) (found : entries[index]? = some entry) :
    (entries.modify index change)[index]? = some (change entry) := by
  rw [List.getElem?_modify_eq, found]
  rfl

/-- An entry that a change leaves alone stays, whichever entry is changed. -/
theorem getElem?_modify_of_fixed (fixed : change entry = entry)
    (found : entries[index]? = some entry) {other : Nat} :
    (entries.modify other change)[index]? = some entry := by
  rw [List.getElem?_modify, found]
  split
  · exact congrArg some fixed
  · rfl

/-- What rows of a part of their entries agree on, the entries agree on. -/
theorem entry_of_map_eq {view : α → β} (same : entries.map view = others.map view)
    (found : entries[index]? = some entry) :
    ∃ other, others[index]? = some other ∧ view other = view entry := by
  have row := congrArg (·[index]?) same
  simp only [List.getElem?_map, found, Option.map_some] at row
  exact Option.map_eq_some_iff.1 row.symm

/-- Changing one entry of a list shows at its place in a row of parts of the entries. -/
theorem map_modify_of_entry {view : α → β} {changeThere : β → β}
    (commutes : ∀ entry, entries[index]? = some entry →
      view (change entry) = changeThere (view entry)) :
    (entries.modify index change).map view = (entries.map view).modify index changeThere := by
  apply List.ext_getElem?
  intro position
  rw [List.getElem?_map, List.getElem?_modify, List.getElem?_modify, List.getElem?_map]
  by_cases here : index = position
  · subst here
    cases found : entries[index]? with
    | none => rfl
    | some entry => simp [commutes entry found]
  · cases entries[position]? <;> simp [here]

/-- It does not show in a row of what stays the same of the entries. -/
theorem map_modify_of_same (entries : List α) (index : Nat) (change : α → α) (view : α → β)
    (same : ∀ entry, entries[index]? = some entry → view (change entry) = view entry) :
    (entries.modify index change).map view = entries.map view := by
  have row : (entries.modify index change).map view = (entries.map view).modify index id :=
    map_modify_of_entry same
  rwa [List.modify_id] at row

/-! ## Lists that are only added to -/

/-- Nothing was done to a list but to add entries, each of which is as it should be. -/
def Extends (law : α → Prop) (before after : List α) : Prop :=
  ∃ added, after = before ++ added ∧ ∀ entry ∈ added, law entry

namespace Extends

variable {law lawLater : α → Prop} {first second third : List α}

theorem of_eq (same : second = first) : Extends law first second :=
  ⟨[], by rw [same, List.append_nil], fun _ none => nomatch none⟩

theorem trans (one : Extends law first second) (two : Extends lawLater second third)
    (weaker : ∀ entry, law entry → lawLater entry) : Extends lawLater first third := by
  obtain ⟨added, rfl, lawful⟩ := one
  obtain ⟨addedLater, rfl, lawfulLater⟩ := two
  refine ⟨added ++ addedLater, List.append_assoc _ _ _, fun entry among => ?_⟩
  exact (List.mem_append.1 among).elim (fun here => weaker entry (lawful entry here))
    (lawfulLater entry)

theorem getElem? (grown : Extends law first second) (found : first[index]? = some entry) :
    second[index]? = some entry := by
  obtain ⟨added, rfl, -⟩ := grown
  rw [List.getElem?_append_left (List.getElem?_eq_some_iff.1 found).1]
  exact found

theorem isPrefix (grown : Extends law first second) : first <+: second := by
  obtain ⟨added, rfl, -⟩ := grown
  exact List.prefix_append first added

theorem mem (grown : Extends law first second) (among : entry ∈ second) :
    entry ∈ first ∨ law entry := by
  obtain ⟨added, rfl, lawful⟩ := grown
  exact (List.mem_append.1 among).imp id (lawful entry)

/-- What is told from a row that was only added to stays the same. -/
theorem view {γ : Type} {rowLaw : β → Prop} {row : α → β} {shows : α → γ} {before after : List α}
    {value : γ} (grown : Extends rowLaw (before.map row) (after.map row))
    (told : ∀ one two, row one = row two → shows one = shows two)
    (known : before[index]?.map shows = some value) : after[index]?.map shows = some value := by
  obtain ⟨entry, found, rfl⟩ := Option.map_eq_some_iff.1 known
  have here : (before.map row)[index]? = some (row entry) := by
    rw [List.getElem?_map, found, Option.map_some]
  have there := grown.getElem? here
  rw [List.getElem?_map] at there
  obtain ⟨later, foundLater, same⟩ := Option.map_eq_some_iff.1 there
  rw [foundLater, Option.map_some, told later entry same]

/-- What is told from a row that was only added to was told before, and more may be told. -/
theorem map_prefix {γ : Type} {rowLaw : β → Prop} {row : α → β} {shows : α → γ}
    {before after : List α} (grown : Extends rowLaw (before.map row) (after.map row))
    (tells : β → γ) (told : ∀ entry, tells (row entry) = shows entry) :
    before.map shows <+: after.map shows := by
  have rows (entries : List α) : (entries.map row).map tells = entries.map shows := by
    rw [List.map_map]
    exact List.map_congr_left fun entry _ => told entry
  rw [← rows, ← rows]
  exact grown.isPrefix.map tells

end Extends

/-! ## Changing those that are chosen -/

section Chosen

variable {chosen other : Nat → α → Bool}

/-- It matters only who is chosen of those who would change. -/
theorem mapIdx_chosen_congr (same : ∀ index entry, entries[index]? = some entry →
      change entry = entry ∨ chosen index entry = other index entry) :
    (entries.mapIdx fun index entry => if chosen index entry then change entry else entry) =
      entries.mapIdx fun index entry => if other index entry then change entry else entry := by
  refine List.ext_getElem? fun index => ?_
  rw [List.getElem?_mapIdx, List.getElem?_mapIdx]
  refine Option.map_congr fun entry found => ?_
  rcases same index entry found with unchanged | agree
  · rw [unchanged, ite_self, ite_self]
  · rw [agree]

theorem mapIdx_of_nobody (nobody : ∀ index entry, entries[index]? = some entry →
      change entry = entry ∨ chosen index entry = false) :
    (entries.mapIdx fun index entry => if chosen index entry then change entry else entry) =
      entries := by
  refine (mapIdx_chosen_congr nobody).trans (List.ext_getElem? fun index => ?_)
  rw [List.getElem?_mapIdx]
  exact Option.map_id_apply

/-- Changing some and then others is changing all of them. -/
theorem mapIdx_mapIdx_of_apart
    (apart : ∀ index entry, chosen index entry = true → other index entry = false)
    (blind : ∀ index entry, other index (change entry) = other index entry) :
    ((entries.mapIdx fun index entry => if chosen index entry then change entry else entry).mapIdx
        fun index entry => if other index entry then change entry else entry) =
      entries.mapIdx fun index entry =>
        if chosen index entry || other index entry then change entry else entry := by
  refine List.ext_getElem? fun index => ?_
  rw [List.getElem?_mapIdx, List.getElem?_mapIdx, List.getElem?_mapIdx, Option.map_map]
  refine Option.map_congr fun entry _ => ?_
  cases first : chosen index entry with
  | true => simp [first, blind, apart index entry first]
  | false => simp [first]

/-- Changing one entry is changing those at its place. -/
theorem modify_eq_mapIdx {changeThere : α → α}
    (agrees : ∀ entry, entries[index]? = some entry → changeThere entry = change entry) :
    entries.modify index changeThere =
      entries.mapIdx fun position entry => if position == index then change entry else entry := by
  refine List.ext_getElem? fun position => ?_
  rw [List.getElem?_modify, List.getElem?_mapIdx]
  refine Option.map_congr fun entry found => ?_
  by_cases here : index = position
  · subst here
    rw [if_pos rfl, if_pos (beq_self_eq_true index), agrees entry found]
  · rw [if_neg here, if_neg (by simpa using Ne.symm here)]

end Chosen

/-! ## The places of chosen entries -/

/-- The places of the entries that are chosen, ascending. -/
def indices (entries : List α) (chosen : Nat → α → Bool) : List Nat :=
  (List.range entries.length).filter fun index => entries[index]?.any (chosen index)

variable {chosen other : Nat → α → Bool}

theorem mem_indices :
    index ∈ indices entries chosen ↔
      ∃ entry, entries[index]? = some entry ∧ chosen index entry = true := by
  rw [indices, List.mem_filter, List.mem_range, Option.any_eq_true]
  constructor
  · exact fun chosenHere => chosenHere.2
  · rintro ⟨entry, found, isChosen⟩
    exact ⟨(List.getElem?_eq_some_iff.1 found).1, entry, found, isChosen⟩

theorem nodup_indices (entries : List α) (chosen : Nat → α → Bool) :
    (indices entries chosen).Nodup :=
  List.nodup_range.filter _

theorem indices_congr
    (same : ∀ index entry, entries[index]? = some entry → other index entry = chosen index entry) :
    indices entries other = indices entries chosen := by
  refine List.filter_congr fun index _ => ?_
  cases found : entries[index]? with
  | none => rfl
  | some entry => exact same index entry found

theorem indices_eq_nil
    (nobody : ∀ index entry, entries[index]? = some entry → chosen index entry = false) :
    indices entries chosen = [] := by
  refine List.eq_nil_iff_forall_not_mem.2 fun index member => ?_
  obtain ⟨entry, found, isChosen⟩ := mem_indices.1 member
  rw [nobody index entry found] at isChosen
  contradiction

theorem indices_of_map_eq {view : α → β} (same : others.map view = entries.map view)
    (depends : ∀ index one two, view one = view two → chosen index one = chosen index two) :
    indices others chosen = indices entries chosen := by
  have counts : others.length = entries.length := by
    simpa using congrArg List.length same
  rw [indices, indices, counts]
  refine List.filter_congr fun index _ => ?_
  have row := congrArg (·[index]?) same
  simp only [List.getElem?_map] at row
  cases found : entries[index]? with
  | none =>
    rw [found, Option.map_none, Option.map_eq_none_iff] at row
    rw [row]
  | some entry =>
    rw [found] at row
    obtain ⟨other, here, agrees⟩ := Option.map_eq_some_iff.1 row
    rw [here]
    exact depends index other entry agrees

/-- Filtering places by what is there is choosing fewer of them. -/
theorem filter_indices {keep : Nat → Bool} {also : α → Bool}
    (agrees : ∀ index entry, entries[index]? = some entry → keep index = also entry) :
    (indices entries chosen).filter keep =
      indices entries fun index entry => chosen index entry && also entry := by
  rw [indices, indices, List.filter_filter]
  refine List.filter_congr fun index _ => ?_
  cases found : entries[index]? with
  | none => simp
  | some entry => simp [agrees index entry found, Bool.and_comm]

theorem indices_concat (entries : List α) (last : α) (chosen : Nat → α → Bool) :
    indices (entries ++ [last]) chosen =
      indices entries chosen ++ if chosen entries.length last then [entries.length] else [] := by
  rw [indices, List.length_append, List.length_singleton, List.range_succ, List.filter_append]
  congr 1
  · refine List.filter_congr fun index member => ?_
    rw [List.getElem?_append_left (List.mem_range.1 member)]
  · rw [List.filter_cons, List.getElem?_concat_length, Option.any_some, List.filter_nil]

/-- As many places are chosen as there are entries of the kind that is. -/
theorem length_indices (entries : List α) (chosen : α → Bool) :
    (indices entries fun _ => chosen).length = entries.countP chosen := by
  rw [indices, ← List.countP_eq_length_filter]
  induction entries with
  | nil => rfl
  | cons entry entries inductionHypothesis =>
    rw [List.length_cons, List.range_succ_eq_map, List.countP_cons, List.countP_map,
      List.countP_cons, ← inductionHypothesis]
    rfl

theorem indices_modify_of_dropped
    (dropped : ∀ entry, entries[index]? = some entry → other index (change entry) = false)
    (same : ∀ position entry, position ≠ index → other position entry = chosen position entry) :
    indices (entries.modify index change) other =
      (indices entries chosen).filter (· ≠ index) := by
  rw [indices, indices, List.length_modify, List.filter_filter]
  refine List.filter_congr fun position _ => ?_
  rw [List.getElem?_modify]
  by_cases here : index = position
  · subst here
    cases found : entries[index]? with
    | none => simp
    | some entry => simp [dropped entry found]
  · cases entries[position]? with
    | none => simp
    | some entry => simp [here, Ne.symm here, same position entry (Ne.symm here)]

end HubRelay
