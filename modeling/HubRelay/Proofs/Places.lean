import HubRelay.Proofs.Indices
import Mathlib.Logic.Function.Basic

/-!
Contract: lists cut down to the entries that are chosen.

Owns: the place that a chosen entry has among the chosen ones, looking up and changing an entry at
that place, adding entries, and giving every place of a list a new one.

Does not own: what is chosen.

A place is given once for a whole list.  It then fits every beginning of the list, so it need not
be followed while the list grows.
-/

namespace HubRelay

variable {α β : Type} {entries more : List α} {chosen : α → Bool} {place : Nat → Nat}
  {index other : Nat} {entry : α}

/-- How many entries are chosen before a place. -/
def rank (entries : List α) (chosen : α → Bool) (index : Nat) : Nat :=
  (entries.take index).countP chosen

theorem rank_length (entries : List α) (chosen : α → Bool) :
    rank entries chosen entries.length = (entries.filter chosen).length := by
  rw [rank, List.take_length, List.countP_eq_length_filter]

theorem rank_cons_succ (first : α) (entries : List α) (chosen : α → Bool) (index : Nat) :
    rank (first :: entries) chosen (index + 1) =
      rank entries chosen index + if chosen first then 1 else 0 := by
  rw [rank, List.take_succ_cons, List.countP_cons]
  rfl

theorem rank_append (within : index ≤ entries.length) (more : List α) :
    rank (entries ++ more) chosen index = rank entries chosen index := by
  rw [rank, List.take_append_of_le_length within, rank]

/-- A rank depends only on what is chosen. -/
theorem rank_map (view : β → α) (entries : List β) (chosen : α → Bool) (index : Nat) :
    rank (entries.map view) chosen index =
      rank entries (fun entry => chosen (view entry)) index := by
  rw [rank, ← List.map_take, List.countP_map]
  rfl

theorem rank_lt (found : entries[index]? = some entry) (isChosen : chosen entry = true)
    (below : index < other) : rank entries chosen index < rank entries chosen other := by
  induction entries generalizing index other with
  | nil => contradiction
  | cons first entries inductionHypothesis =>
    obtain ⟨other, rfl⟩ := Nat.exists_eq_add_of_lt below
    cases index with
    | zero =>
      obtain rfl : first = entry := Option.some.inj found
      rw [Nat.zero_add, rank_cons_succ, isChosen]
      exact Nat.succ_pos _
    | succ index =>
      rw [rank_cons_succ, rank_cons_succ]
      exact Nat.add_lt_add_right (inductionHypothesis found (by omega)) _

/-! ## Cutting down -/

theorem getElem?_filter_rank (found : entries[index]? = some entry)
    (isChosen : chosen entry = true) :
    (entries.filter chosen)[rank entries chosen index]? = some entry := by
  induction entries generalizing index with
  | nil => contradiction
  | cons first entries inductionHypothesis =>
    cases index with
    | zero =>
      obtain rfl : first = entry := Option.some.inj found
      rw [List.filter_cons_of_pos isChosen]
      rfl
    | succ index =>
      rw [rank_cons_succ]
      cases isFirst : chosen first with
      | true =>
        rw [List.filter_cons_of_pos isFirst]
        exact inductionHypothesis found
      | false =>
        rw [List.filter_cons_of_neg (by simp [isFirst])]
        exact inductionHypothesis found

/-- Changing an entry that is chosen and stays so. -/
theorem filter_modify_chosen {change : α → α} (found : entries[index]? = some entry)
    (isChosen : chosen entry = true) (stays : chosen (change entry) = true) :
    (entries.modify index change).filter chosen =
      (entries.filter chosen).modify (rank entries chosen index) change := by
  induction entries generalizing index with
  | nil => contradiction
  | cons first entries inductionHypothesis =>
    cases index with
    | zero =>
      obtain rfl : first = entry := Option.some.inj found
      rw [List.modify_zero_cons, List.filter_cons_of_pos stays, List.filter_cons_of_pos isChosen]
      rfl
    | succ index =>
      rw [List.modify_succ_cons, rank_cons_succ]
      cases isFirst : chosen first with
      | true =>
        rw [List.filter_cons_of_pos isFirst, List.filter_cons_of_pos isFirst,
          inductionHypothesis found]
        rfl
      | false =>
        have left : ¬ chosen first = true := by simp [isFirst]
        rw [List.filter_cons_of_neg left, List.filter_cons_of_neg left]
        exact inductionHypothesis found

/-- Changing an entry that is not chosen and stays so does not show. -/
theorem filter_modify_other {change : α → α}
    (left : ∀ entry, entries[index]? = some entry → chosen entry = false ∧
      chosen (change entry) = false) :
    (entries.modify index change).filter chosen = entries.filter chosen := by
  induction entries generalizing index with
  | nil => rw [List.modify_nil]
  | cons first entries inductionHypothesis =>
    cases index with
    | zero =>
      obtain ⟨before, after⟩ := left first rfl
      rw [List.modify_zero_cons, List.filter_cons_of_neg (by simp [after]),
        List.filter_cons_of_neg (by simp [before])]
    | succ index =>
      have rest := inductionHypothesis left
      rw [List.modify_succ_cons, List.filter_cons, List.filter_cons, rest]

/-! ## Places that fit -/

/-- Whether entries that are chosen have their places among the chosen ones. -/
def Fits (place : Nat → Nat) (entries : List α) (chosen : α → Bool) : Prop :=
  ∀ index entry, entries[index]? = some entry → chosen entry = true →
    place index = rank entries chosen index

namespace Fits

theorem getElem? (fits : Fits place entries chosen) (found : entries[index]? = some entry)
    (isChosen : chosen entry = true) :
    (entries.filter chosen)[place index]? = some entry := by
  rw [fits index entry found isChosen]
  exact getElem?_filter_rank found isChosen

theorem modify (fits : Fits place entries chosen) {change : α → α}
    (found : entries[index]? = some entry) (isChosen : chosen entry = true)
    (stays : chosen (change entry) = true) :
    (entries.modify index change).filter chosen =
      (entries.filter chosen).modify (place index) change := by
  rw [fits index entry found isChosen]
  exact filter_modify_chosen found isChosen stays

/-- A chosen entry that was added got the next place. -/
theorem concat {last : α} (fits : Fits place (entries ++ [last]) chosen)
    (isChosen : chosen last = true) : place entries.length = (entries.filter chosen).length := by
  rw [fits entries.length last List.getElem?_concat_length isChosen,
    rank_append (Nat.le_refl _), rank_length]

/-- What fits a list fits every list that chooses as the list begins. -/
theorem of_prefix {before : List β} {choose : β → Bool} (fits : Fits place entries chosen)
    (begins : before.map choose <+: entries.map chosen) : Fits place before choose := by
  obtain ⟨rest, grown⟩ := begins
  intro index entry found isChosen
  have within : index < before.length := (List.getElem?_eq_some_iff.1 found).1
  have row : (entries.map chosen)[index]? = some true := by
    rw [← grown, List.getElem?_append_left (by rwa [List.length_map]), List.getElem?_map, found,
      Option.map_some, isChosen]
  rw [List.getElem?_map] at row
  obtain ⟨same, here, alike⟩ := Option.map_eq_some_iff.1 row
  have ranks : rank (before.map choose ++ rest) id index = rank (before.map choose) id index :=
    rank_append (by rw [List.length_map]; exact Nat.le_of_lt within) rest
  rw [grown, rank_map, rank_map] at ranks
  rw [fits index same here alike]
  exact ranks

theorem congr {other : α → Bool} (fits : Fits place entries chosen)
    (same : ∀ entry ∈ entries, other entry = chosen entry) : Fits place entries other :=
  fits.of_prefix (List.map_congr_left same ▸ List.prefix_rfl)

end Fits

/-! ## Cutting down and renaming -/

/-- The entries that are chosen, under other names. -/
def cut (entries : List α) (chosen : α → Bool) (rename : α → β) : List β :=
  (entries.filter chosen).map rename

variable {rename : α → β} {last : α} {change : α → α} {changeThere : β → β}

theorem cut_append (entries more : List α) (chosen : α → Bool) (rename : α → β) :
    cut (entries ++ more) chosen rename = cut entries chosen rename ++ cut more chosen rename := by
  rw [cut, List.filter_append, List.map_append, cut, cut]

theorem cut_concat_chosen (entries : List α) (chosen : α → Bool) (rename : α → β)
    (isChosen : chosen last = true) :
    cut (entries ++ [last]) chosen rename = cut entries chosen rename ++ [rename last] := by
  rw [cut_append, cut, cut, List.filter_cons_of_pos isChosen]
  rfl

theorem cut_concat_other (entries : List α) (chosen : α → Bool) (rename : α → β)
    (isOther : chosen last = false) :
    cut (entries ++ [last]) chosen rename = cut entries chosen rename := by
  rw [cut_append, cut, cut, List.filter_cons_of_neg (by simp [isOther])]
  exact List.append_nil _

namespace Fits

theorem getElem?_cut (fits : Fits place entries chosen) (found : entries[index]? = some entry)
    (isChosen : chosen entry = true) (rename : α → β) :
    (cut entries chosen rename)[place index]? = some (rename entry) := by
  rw [cut, List.getElem?_map, fits.getElem? found isChosen, Option.map_some]

theorem cut_modify (fits : Fits place entries chosen) (found : entries[index]? = some entry)
    (isChosen : chosen entry = true) (stays : chosen (change entry) = true)
    (commutes : rename (change entry) = changeThere (rename entry)) :
    cut (entries.modify index change) chosen rename =
      (cut entries chosen rename).modify (place index) changeThere := by
  rw [cut, fits.modify found isChosen stays]
  refine map_modify_of_entry fun same here => ?_
  obtain rfl : entry = same := Option.some.inj ((fits.getElem? found isChosen).symm.trans here)
  exact commutes

theorem cut_length (fits : Fits place (entries ++ [last]) chosen) (isChosen : chosen last = true)
    (rename : α → β) : place entries.length = (cut entries chosen rename).length := by
  rw [fits.concat isChosen, cut, List.length_map]

end Fits

theorem cut_modify_other
    (left : ∀ entry, entries[index]? = some entry → chosen entry = false ∧
      chosen (change entry) = false) :
    cut (entries.modify index change) chosen rename = cut entries chosen rename := by
  rw [cut, filter_modify_other left, cut]

/-! ## Giving places -/

/-- The place among the chosen entries, and for anything else a place after all of them. -/
def placeAmong (entries : List α) (chosen : α → Bool) (index : Nat) : Nat :=
  if entries[index]?.any chosen then rank entries chosen index
  else (entries.filter chosen).length + index

theorem fits_placeAmong (entries : List α) (chosen : α → Bool) :
    Fits (placeAmong entries chosen) entries chosen := by
  intro index entry found isChosen
  rw [placeAmong, if_pos (by rw [found]; exact isChosen)]

theorem placeAmong_injective (entries : List α) (chosen : α → Bool) :
    Function.Injective (placeAmong entries chosen) := by
  have entryOf {index : Nat} (any : entries[index]?.any chosen = true) :
      ∃ entry, entries[index]? = some entry ∧ chosen entry = true :=
    (Option.any_eq_true _ _).1 any
  have small {index : Nat} (any : entries[index]?.any chosen = true) :
      rank entries chosen index < (entries.filter chosen).length := by
    obtain ⟨entry, found, isChosen⟩ := entryOf any
    rw [← rank_length]
    exact rank_lt found isChosen (List.getElem?_eq_some_iff.1 found).1
  have apart {one other : Nat} (any : entries[one]?.any chosen = true) (below : one < other) :
      rank entries chosen one ≠ rank entries chosen other := by
    obtain ⟨entry, found, isChosen⟩ := entryOf any
    exact Nat.ne_of_lt (rank_lt found isChosen below)
  intro one other same
  unfold placeAmong at same
  split at same
  · next isOne =>
    split at same
    · next isOther =>
      rcases Nat.lt_trichotomy one other with below | equal | above
      · exact absurd same (apart isOne below)
      · exact equal
      · exact absurd same.symm (apart isOther above)
    · have := small isOne
      omega
  · split at same
    · next isOther =>
      have := small isOther
      omega
    · omega

end HubRelay
