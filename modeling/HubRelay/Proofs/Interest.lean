import HubRelay.Envelope.Interest
import Mathlib.Data.List.Sort
import Mathlib.Data.List.TakeWhile
import Mathlib.Data.String.Basic
import Mathlib.Logic.Relation

/-!
Contract: the event names in a list are its pieces without the white space around them.

Owns: how a text is cut at commas, and what is left of a piece without white space; that names come
in ascending order, each once, and are those that the pieces of the text name; and which changes of
the pieces make no difference.

Does not own: who is registered for the names.

Names are put into order after everything else has been done to them, so all that counts is which
names there are.
-/

namespace HubRelay

/-! ## Pieces -/

namespace Text

theorem pieces_eq_splitOn (separator : Char) (text : List Char) :
    pieces separator text = text.splitOn separator := by
  induction text with
  | nil => rfl
  | cons character text inductionHypothesis =>
    rw [pieces, List.splitOn_cons_eq_if_modifyHead, inductionHypothesis]
    by_cases same : character = separator
    · rw [if_pos same, if_pos (beq_iff_eq.2 same)]
    · rw [if_neg same, if_neg (mt beq_iff_eq.1 same)]
      have some := List.splitOn_ne_nil separator text
      revert some
      cases List.splitOn separator text with
      | nil => exact fun some => absurd rfl some
      | cons piece others => exact fun _ => rfl

theorem not_mem_of_mem_pieces {separator : Char} {text piece : List Char}
    (among : piece ∈ pieces separator text) : separator ∉ piece := by
  induction text generalizing piece with
  | nil =>
    obtain rfl := List.mem_singleton.1 among
    exact List.not_mem_nil
  | cons character text inductionHypothesis =>
    rw [pieces] at among
    split at among
    · rcases List.mem_cons.1 among with rfl | among
      · exact List.not_mem_nil
      · exact inductionHypothesis among
    · next different =>
      have first : separator ∉ [character] := by simpa using Ne.symm different
      cases cut : pieces separator text with
      | nil =>
        rw [cut] at among
        obtain rfl := List.mem_singleton.1 among
        exact first
      | cons front others =>
        rw [cut] at among inductionHypothesis
        rcases List.mem_cons.1 among with rfl | among
        · have rest := inductionHypothesis List.mem_cons_self
          exact fun within => (List.mem_cons.1 within).elim (Ne.symm different) rest
        · exact inductionHypothesis (List.mem_cons_of_mem _ among)

end Text

/-! ## White space around a piece -/

namespace Text.Blank

/-- A name is what is left of a piece without the white space around it. -/
structure Trims (piece name : String) : Prop where
  around : ∃ before after : List Char, piece.toList = before ++ name.toList ++ after ∧
    (∀ character ∈ before, isBlank character = true) ∧
    ∀ character ∈ after, isBlank character = true
  first : ∀ character ∈ name.toList.head?, isBlank character = false
  last : ∀ character ∈ name.toList.getLast?, isBlank character = false

variable {before middle after text : List Char} {piece name : String}

theorem head?_dropWhile (text : List Char) :
    ∀ character ∈ (text.dropWhile isBlank).head?, isBlank character = false := by
  intro character first
  have known := List.head?_dropWhile_not isBlank text
  rw [first] at known
  exact known

/-- White space at the front is dropped, up to what is none. -/
theorem dropWhile_blank (blank : ∀ character ∈ before, isBlank character = true)
    (first : ∀ character ∈ text.head?, isBlank character = false) :
    (before ++ text).dropWhile isBlank = text := by
  rw [List.dropWhile_append_of_pos blank]
  cases text with
  | nil => rfl
  | cons character text =>
    have visible : ¬ isBlank character = true := by
      rw [first character rfl]
      exact Bool.false_ne_true
    exact List.dropWhile_cons_of_neg visible

/-- What is trimmed is what stands between the white space. -/
theorem trimChars_eq (blankBefore : ∀ character ∈ before, isBlank character = true)
    (blankAfter : ∀ character ∈ after, isBlank character = true)
    (first : ∀ character ∈ middle.head?, isBlank character = false)
    (last : ∀ character ∈ middle.getLast?, isBlank character = false) :
    trimChars (before ++ middle ++ after) = middle := by
  have lastFirst : ∀ character ∈ middle.reverse.head?, isBlank character = false := by
    rw [List.head?_reverse]
    exact last
  have blankReverse : ∀ character ∈ after.reverse, isBlank character = true :=
    fun character among => blankAfter character (List.mem_reverse.1 among)
  unfold trimChars
  cases middle with
  | nil =>
    have blank : ∀ character ∈ before ++ after, isBlank character = true :=
      List.forall_mem_append.2 ⟨blankBefore, blankAfter⟩
    have nothing : ∀ character ∈ ([] : List Char).head?, isBlank character = false := nofun
    have dropped := dropWhile_blank blank nothing
    rw [List.append_nil] at dropped
    rw [List.append_nil, dropped]
    rfl
  | cons character middle =>
    have firstOfAll : ∀ other ∈ (character :: middle ++ after).head?, isBlank other = false := first
    rw [List.append_assoc, dropWhile_blank blankBefore firstOfAll, List.reverse_append,
      dropWhile_blank blankReverse lastFirst, List.reverse_reverse]

theorem trims_iff : Trims piece name ↔ name = trim piece := by
  rw [trim, ← String.toList_inj, String.toList_ofList]
  constructor
  · rintro ⟨⟨before, after, same, blankBefore, blankAfter⟩, first, last⟩
    rw [same, trimChars_eq blankBefore blankAfter first last]
  · intro same
    let rest := piece.toList.dropWhile isBlank
    let after := (rest.reverse.takeWhile isBlank).reverse
    have whole : rest = name.toList ++ after := by
      rw [same, trimChars, ← List.reverse_append, List.takeWhile_append_dropWhile,
        List.reverse_reverse]
    refine ⟨⟨piece.toList.takeWhile isBlank, after, ?_, ?_, ?_⟩, ?_, ?_⟩
    · rw [List.append_assoc, ← whole, List.takeWhile_append_dropWhile]
    · exact fun character among => List.mem_takeWhile_imp among
    · exact fun character among => List.mem_takeWhile_imp (List.mem_reverse.1 among)
    · intro character first
      apply head?_dropWhile piece.toList
      show character ∈ rest.head?
      rw [whole, List.head?_append, first]
      rfl
    · intro character last
      rw [same, trimChars, List.getLast?_reverse] at last
      exact head?_dropWhile _ character last

end Text.Blank

/-! ## Sorting -/

namespace Interest

theorem mem_insertName {name other : String} {names : List String} :
    other ∈ insertName name names ↔ other = name ∨ other ∈ names := by
  induction names with
  | nil => simp [insertName]
  | cons head rest inductionHypothesis =>
    unfold insertName
    split
    · simp
    · split
      · next same => simp [same]
      · simp only [List.mem_cons, inductionHypothesis]
        exact or_left_comm

/-- Putting names into order loses none and adds none. -/
theorem mem_sortNames {name : String} {names : List String} :
    name ∈ sortNames names ↔ name ∈ names := by
  have all (sorted : List String) :
      name ∈ names.foldl (fun sorted name => insertName name sorted) sorted ↔
        name ∈ names ∨ name ∈ sorted := by
    induction names generalizing sorted with
    | nil => simp
    | cons head rest inductionHypothesis =>
      rw [List.foldl_cons, inductionHypothesis, mem_insertName, List.mem_cons]
      exact or_left_comm.trans or_assoc.symm
  rw [sortNames, all]
  simp only [List.not_mem_nil, or_false]

theorem ascending_insertName (name : String) {names : List String}
    (ascending : names.Pairwise (· < ·)) : (insertName name names).Pairwise (· < ·) := by
  induction names with
  | nil => exact List.pairwise_singleton _ _
  | cons head rest inductionHypothesis =>
    obtain ⟨below, restAscending⟩ := List.pairwise_cons.1 ascending
    rw [insertName]
    split
    · next less =>
      refine List.pairwise_cons.2 ⟨?_, ascending⟩
      exact List.forall_mem_cons.2 ⟨less, fun other among => less.trans (below other among)⟩
    · next notLess =>
      split
      · exact ascending
      · next different =>
        have above : head < name := lt_of_le_of_ne (not_lt.1 notLess) (Ne.symm different)
        refine List.pairwise_cons.2 ⟨?_, inductionHypothesis restAscending⟩
        intro other among
        rcases mem_insertName.1 among with rfl | among
        · exact above
        · exact below other among

/-- Names are put into order, each once. -/
theorem ascending_sortNames (names : List String) : (sortNames names).Pairwise (· < ·) := by
  have all (sorted : List String) (ascending : sorted.Pairwise (· < ·)) :
      (names.foldl (fun sorted name => insertName name sorted) sorted).Pairwise (· < ·) := by
    induction names generalizing sorted with
    | nil => exact ascending
    | cons name names inductionHypothesis =>
      exact inductionHypothesis _ (ascending_insertName name ascending)
  exact all [] .nil

/-- Ascending lists of the same names are the same. -/
theorem eq_of_ascending {names others : List String} (ascending : names.Pairwise (· < ·))
    (ascendingOther : others.Pairwise (· < ·)) (same : ∀ name, name ∈ names ↔ name ∈ others) :
    names = others :=
  ascending.eq_of_mem_iff ascendingOther same

/-! ## The names in a list -/

/-- A text cut at commas: the pieces hold none, and with commas between them they make up the
text. -/
structure IsCut (events : String) (cut : List String) : Prop where
  some : cut ≠ []
  plain : ∀ piece ∈ cut, ',' ∉ piece.toList
  whole : ",".intercalate cut = events

/-- Whether a name is what is left of one of some pieces, and is not empty. -/
def Named (cut : List String) (name : String) : Prop :=
  name ≠ "" ∧ ∃ piece ∈ cut, Text.Blank.Trims piece name

/-- A change of pieces that makes no difference. -/
inductive Edits : List String → List String → Prop
  /-- Pieces may change places. -/
  | permute {cut other : List String} (same : cut.Perm other) : Edits cut other
  /-- A piece may be repeated. -/
  | again {piece : String} {cut : List String} (among : piece ∈ cut) : Edits cut (piece :: cut)
  /-- Pieces of white space may be added. -/
  | blank {piece : String} {cut : List String}
      (blank : ∀ character ∈ piece.toList, Text.Blank.isBlank character = true) :
      Edits cut (piece :: cut)
  /-- White space may be added around a piece. -/
  | pad {piece padded : String} {cut : List String} {before after : List Char}
      (around : padded.toList = before ++ piece.toList ++ after)
      (blankBefore : ∀ character ∈ before, Text.Blank.isBlank character = true)
      (blankAfter : ∀ character ∈ after, Text.Blank.isBlank character = true) :
      Edits (piece :: cut) (padded :: cut)

variable {events name : String} {cut other : List String}

theorem isCut_iff :
    IsCut events cut ↔ cut = (Text.pieces ',' events.toList).map String.ofList := by
  have lists (cut : List (List Char)) : (cut.map String.ofList).map String.toList = cut := by
    rw [List.map_map]
    exact (List.map_congr_left fun piece _ => String.toList_ofList).trans (List.map_id cut)
  constructor
  · rintro ⟨some, plain, rfl⟩
    have splits := @List.splitOn_intercalate _ (cut.map String.toList) _ _ ','
      (by simpa using plain) (by simpa using some)
    have texts : (cut.map String.toList).map String.ofList = cut := by
      rw [List.map_map]
      exact (List.map_congr_left fun piece _ => String.ofList_toList).trans (List.map_id cut)
    rw [Text.pieces_eq_splitOn, String.toList_intercalate]
    show cut = (List.splitOn ',' (List.intercalate [','] _)).map String.ofList
    rw [splits, texts]
  · rintro rfl
    have pieces := Text.pieces_eq_splitOn ',' events.toList
    refine ⟨?_, ?_, ?_⟩
    · rw [pieces]
      exact fun none => List.splitOn_ne_nil ',' events.toList (List.map_eq_nil_iff.1 none)
    · rw [List.forall_mem_map]
      intro piece among
      rw [String.toList_ofList]
      exact Text.not_mem_of_mem_pieces among
    · rw [← String.toList_inj, String.toList_intercalate, lists, pieces]
      exact List.intercalate_splitOn ','

/-- The names in a list are those that its pieces name. -/
theorem mem_namesIn_iff (isCut : IsCut events cut) : name ∈ namesIn events ↔ Named cut name := by
  have trimmed : (Text.pieces ',' events.toList).map (fun piece =>
      String.ofList (Text.Blank.trimChars piece)) = cut.map Text.Blank.trim := by
    rw [isCut_iff.1 isCut, List.map_map]
    refine List.map_congr_left fun piece _ => ?_
    rw [Function.comp_apply, Text.Blank.trim, String.toList_ofList]
  have filled : (!name.isEmpty) = true ↔ name ≠ "" := by
    rw [Bool.not_eq_true', ← Bool.not_eq_true, String.isEmpty_iff]
  rw [namesIn, mem_sortNames, trimmed, List.mem_filter, filled, List.mem_map, Named, and_comm]
  simp only [Text.Blank.trims_iff, eq_comm]

/-- Every text can be cut. -/
theorem exists_isCut (events : String) : ∃ cut, IsCut events cut :=
  ⟨_, isCut_iff.2 rfl⟩

/-- The names are the same for pieces of which there may be none. -/
theorem mem_namesIn_intercalate (plain : ∀ piece ∈ cut, ',' ∉ piece.toList) :
    name ∈ namesIn (",".intercalate cut) ↔ Named cut name := by
  by_cases some : cut = []
  · subst some
    have nothing : namesIn (",".intercalate []) = [] := by decide
    rw [nothing]
    exact ⟨nofun, fun ⟨_, piece, among, _⟩ => absurd among List.not_mem_nil⟩
  · exact mem_namesIn_iff ⟨some, plain, rfl⟩

theorem ascending_namesIn (events : String) : (namesIn events).Pairwise (· < ·) :=
  ascending_sortNames _

/-! ## Changes that make no difference -/

theorem trims_blank {piece : String}
    (blank : ∀ character ∈ piece.toList, Text.Blank.isBlank character = true) :
    Text.Blank.Trims piece name ↔ name = "" := by
  have empty : Text.Blank.Trims piece "" := by
    refine ⟨⟨piece.toList, [], ?_, blank, nofun⟩, nofun, nofun⟩
    rw [String.toList_empty, List.append_nil, List.append_nil]
  rw [Text.Blank.trims_iff] at empty ⊢
  rw [← empty]

theorem trims_pad {piece padded : String} {before after : List Char}
    (around : padded.toList = before ++ piece.toList ++ after)
    (blankBefore : ∀ character ∈ before, Text.Blank.isBlank character = true)
    (blankAfter : ∀ character ∈ after, Text.Blank.isBlank character = true) :
    Text.Blank.Trims padded name ↔ Text.Blank.Trims piece name := by
  have padding {name : String} (trims : Text.Blank.Trims piece name) :
      Text.Blank.Trims padded name := by
    obtain ⟨⟨front, back, same, blankFront, blankBack⟩, first, last⟩ := trims
    refine ⟨⟨before ++ front, back ++ after, ?_, ?_, ?_⟩, first, last⟩
    · rw [around, same]
      simp only [List.append_assoc]
    · exact List.forall_mem_append.2 ⟨blankBefore, blankFront⟩
    · exact List.forall_mem_append.2 ⟨blankBack, blankAfter⟩
  have same := padding (Text.Blank.trims_iff.2 rfl)
  rw [Text.Blank.trims_iff] at same
  rw [Text.Blank.trims_iff, Text.Blank.trims_iff, same]

theorem comma_not_blank {text : List Char}
    (blank : ∀ character ∈ text, Text.Blank.isBlank character = true) : ',' ∉ text := by
  intro among
  have comma : Text.Blank.isBlank ',' = false := by decide
  rw [blank ',' among] at comma
  cases comma

/-- No change makes a difference to what is named. -/
theorem Edits.named_iff (edits : Edits cut other) (name : String) :
    Named cut name ↔ Named other name := by
  refine and_congr_right fun some => ?_
  cases edits with
  | permute same => simp only [same.mem_iff]
  | @again piece cut among =>
    rw [List.exists_mem_cons_iff]
    exact (or_iff_right_of_imp fun trims => ⟨piece, among, trims⟩).symm
  | blank blank =>
    rw [List.exists_mem_cons_iff, trims_blank blank]
    exact (or_iff_right some).symm
  | pad around blankBefore blankAfter =>
    rw [List.exists_mem_cons_iff, List.exists_mem_cons_iff,
      trims_pad around blankBefore blankAfter]

/-- No change puts a comma into a piece or takes one out of it. -/
theorem Edits.plain_iff (edits : Edits cut other) :
    (∀ piece ∈ cut, ',' ∉ piece.toList) ↔ ∀ piece ∈ other, ',' ∉ piece.toList := by
  cases edits with
  | permute same => simp only [same.mem_iff]
  | @again piece cut among =>
    rw [List.forall_mem_cons]
    exact (and_iff_right_of_imp fun plain => plain piece among).symm
  | blank blank =>
    rw [List.forall_mem_cons]
    exact (and_iff_right (comma_not_blank blank)).symm
  | pad around blankBefore blankAfter =>
    rw [List.forall_mem_cons, List.forall_mem_cons, around, List.mem_append, List.mem_append,
      or_iff_left (comma_not_blank blankAfter), or_iff_right (comma_not_blank blankBefore)]

/-- So no changes do. -/
theorem namesIn_edited (isCut : IsCut events cut) (edited : Relation.EqvGen Edits cut other) :
    namesIn (",".intercalate other) = namesIn events := by
  have same : (∀ name, Named cut name ↔ Named other name) ∧
      ((∀ piece ∈ cut, ',' ∉ piece.toList) ↔ ∀ piece ∈ other, ',' ∉ piece.toList) := by
    clear isCut
    induction edited with
    | rel _ _ edits => exact ⟨edits.named_iff, edits.plain_iff⟩
    | refl _ => exact ⟨fun _ => .rfl, .rfl⟩
    | symm _ _ _ back => exact ⟨fun name => (back.1 name).symm, back.2.symm⟩
    | trans _ _ _ _ _ first second =>
      exact ⟨fun name => (first.1 name).trans (second.1 name), first.2.trans second.2⟩
  apply eq_of_ascending (ascending_namesIn _) (ascending_namesIn _)
  intro name
  rw [mem_namesIn_intercalate (same.2.1 isCut.plain), mem_namesIn_iff isCut, same.1 name]

/-! ## Names between commas -/

/-- A name that comes from a piece is a piece that names itself and nothing else. -/
theorem trims_self {piece other : String} (trims : Text.Blank.Trims piece name) :
    Text.Blank.Trims name other ↔ other = name := by
  have self : Text.Blank.Trims name name := by
    refine ⟨⟨[], [], ?_, nofun, nofun⟩, trims.first, trims.last⟩
    rw [List.nil_append, List.append_nil]
  rw [Text.Blank.trims_iff] at self ⊢
  rw [← self]

/-- The names in a list, between commas, are the names in the list. -/
theorem namesIn_intercalate_namesIn (events : String) :
    namesIn (",".intercalate (namesIn events)) = namesIn events := by
  obtain ⟨cut, isCut⟩ := exists_isCut events
  have comes {name : String} (among : name ∈ namesIn events) :
      name ≠ "" ∧ ∃ piece ∈ cut, Text.Blank.Trims piece name :=
    (mem_namesIn_iff isCut).1 among
  have plain : ∀ name ∈ namesIn events, ',' ∉ name.toList := by
    intro name among comma
    obtain ⟨-, piece, within, trims⟩ := comes among
    obtain ⟨before, after, same, -⟩ := trims.around
    apply isCut.plain piece within
    rw [same]
    exact List.mem_append_left _ (List.mem_append_right _ comma)
  apply eq_of_ascending (ascending_namesIn _) (ascending_namesIn _)
  intro name
  rw [mem_namesIn_intercalate plain]
  constructor
  · rintro ⟨-, other, among, itself⟩
    obtain ⟨-, piece, -, trims⟩ := comes among
    rw [(trims_self trims).1 itself]
    exact among
  · intro among
    obtain ⟨some, piece, -, trims⟩ := comes among
    exact ⟨some, name, among, (trims_self trims).2 rfl⟩

end Interest

end HubRelay
