import HubRelay.Selection
import Mathlib.Data.List.Rotate
import Mathlib.Data.List.Nodup
import Mathlib.Data.Nat.ModEq

/-!
Contract: the turns of one selection that rotates, call after call.

Owns: how many turns some calls take, whom every call picks, that nobody to pick takes no turn, and
whom as many calls in a row as there are candidates reach, also where the counter starts over.

Does not own: who the candidates are, and which calls a hub makes.

A call sees the counter only through what it leaves modulo the number of candidates, so calls with
other numbers in between matter by the turns that they take and by nothing else.  Where the counter
starts over, a lap goes on undisturbed exactly if its length divides the range of the counter.
-/

namespace HubRelay

namespace Selection

variable {α : Type} {turn size place : Nat} {candidates : List α}

/-! ## Calls one after the other -/

/-- The number of turns that calls with so many candidates each take: one for each that has somebody
to pick. -/
def turnsTaken (counts : List Nat) : Nat :=
  counts.countP (· ≠ 0)

/-- A selection after calls with so many candidates each. -/
def afterPicks (selection : Selection) (counts : List Nat) : Selection :=
  counts.foldl (fun selection count => (selection.pick count).2) selection

/-- Whom calls with the given candidates choose. -/
def choices (selection : Selection) : List (List α) → List (Option α)
  | [] => []
  | candidates :: rows =>
    (selection.choose candidates).1 :: (selection.choose candidates).2.choices rows

/-- A selection that rotates and has taken so many turns. -/
def atTurn (turn : Nat) : Selection :=
  .roundRobin (UInt64.ofNat turn)

@[simp] theorem turnsTaken_nil : turnsTaken [] = 0 :=
  rfl

theorem turnsTaken_cons (count : Nat) (counts : List Nat) :
    turnsTaken (count :: counts) = turnsTaken [count] + turnsTaken counts := by
  simp only [turnsTaken, List.countP_cons, List.countP_nil]
  omega

theorem turnsTaken_of_pos {count : Nat} (somebody : count ≠ 0) : turnsTaken [count] = 1 := by
  simp [turnsTaken, somebody]

/-- What one call yields, and the turns taken after it. -/
theorem pick_atTurn (turn count : Nat) :
    (atTurn turn).pick count =
      (if count = 0 then none else some (turn % 2 ^ 64 % count),
        atTurn (turn + turnsTaken [count])) := by
  by_cases nobody : count = 0
  · subst nobody
    rfl
  · rw [turnsTaken_of_pos nobody, atTurn, atTurn, UInt64.ofNat_add]
    simp only [pick, if_neg nobody, UInt64.toNat_ofNat']
    rfl

theorem choose_atTurn (turn : Nat) (candidates : List α) :
    (atTurn turn).choose candidates =
      (candidates[turn % 2 ^ 64 % candidates.length]?,
        atTurn (turn + turnsTaken [candidates.length])) := by
  rw [choose, pick_atTurn]
  by_cases nobody : candidates.length = 0
  · have empty : candidates = [] := List.eq_nil_of_length_eq_zero nobody
    subst empty
    rfl
  · simp only [if_neg nobody, Option.bind_some]

theorem afterPicks_atTurn (turn : Nat) (counts : List Nat) :
    (atTurn turn).afterPicks counts = atTurn (turn + turnsTaken counts) := by
  induction counts generalizing turn with
  | nil => rfl
  | cons count counts inductionHypothesis =>
    have first : (atTurn turn).afterPicks (count :: counts) =
        ((atTurn turn).pick count).2.afterPicks counts := rfl
    rw [first, pick_atTurn, inductionHypothesis, turnsTaken_cons count counts, Nat.add_assoc]

theorem choices_append (selection : Selection) (rows more : List (List α)) :
    selection.choices (rows ++ more) =
      selection.choices rows ++ (selection.afterPicks (rows.map List.length)).choices more := by
  induction rows generalizing selection with
  | nil => rfl
  | cons candidates rows inductionHypothesis =>
    rw [List.cons_append, choices, choices, inductionHypothesis]
    rfl

theorem choices_length (selection : Selection) (rows : List (List α)) :
    (selection.choices rows).length = rows.length := by
  induction rows generalizing selection with
  | nil => rfl
  | cons candidates rows inductionHypothesis =>
    rw [choices, List.length_cons, List.length_cons, inductionHypothesis]

/-- What calls yield after earlier ones, which took so many turns. -/
theorem choices_after (earlier more : List (List α)) :
    (atTurn 0).choices (earlier ++ more) = (atTurn 0).choices earlier ++
      (atTurn (turnsTaken (earlier.map List.length))).choices more := by
  rw [choices_append, afterPicks_atTurn, Nat.zero_add]

/-- Every call yields the index whose turn it is after all turns taken before. -/
theorem picks_atTurn (turn : Nat) (counts : List Nat) :
    (atTurn turn).picks counts = counts.mapIdx fun place count =>
      if count = 0 then none
      else some ((turn + turnsTaken (counts.take place)) % 2 ^ 64 % count) := by
  induction counts generalizing turn with
  | nil => rfl
  | cons count counts inductionHypothesis =>
    rw [picks, pick_atTurn, inductionHypothesis, List.mapIdx_cons]
    simp only [List.take_zero, turnsTaken_nil, Nat.add_zero, List.take_succ_cons,
      turnsTaken_cons count (counts.take _), Nat.add_assoc]

theorem choices_atTurn (turn : Nat) (rows : List (List α)) :
    (atTurn turn).choices rows = rows.mapIdx fun place candidates =>
      candidates[(turn + turnsTaken ((rows.take place).map List.length)) % 2 ^ 64 %
        candidates.length]? := by
  induction rows generalizing turn with
  | nil => rfl
  | cons candidates rows inductionHypothesis =>
    rw [choices, choose_atTurn, inductionHypothesis, List.mapIdx_cons]
    simp only [List.take_zero, List.map_nil, turnsTaken_nil, Nat.add_zero, List.take_succ_cons,
      List.map_cons, turnsTaken_cons candidates.length (List.map _ _), Nat.add_assoc]

/-- An index never leaves the candidates, wherever the counter is. -/
theorem exists_mem_choices (turn : Nat) {rows : List (List α)}
    (here : rows[place]? = some candidates) (somebody : candidates ≠ []) :
    ∃ chosen ∈ candidates, ((atTurn turn).choices rows)[place]? = some (some chosen) := by
  have positive : 0 < candidates.length := List.length_pos_iff.2 somebody
  rw [choices_atTurn, List.getElem?_mapIdx, here, Option.map_some]
  have inRange := Nat.mod_lt
    ((turn + turnsTaken ((rows.take place).map List.length)) % 2 ^ 64) positive
  rw [List.getElem?_eq_getElem inRange]
  exact ⟨_, List.getElem_mem inRange, rfl⟩

/-- Calls with nobody to pick may be left out, whatever the policy. -/
theorem picks_skip (selection : Selection) (counts : List Nat) :
    (selection.picks counts).filter Option.isSome = selection.picks (counts.filter (· ≠ 0)) := by
  induction counts generalizing selection with
  | nil => rfl
  | cons count counts inductionHypothesis =>
    by_cases nobody : count = 0
    · subst nobody
      have still : selection.pick 0 = (none, selection) := by
        cases selection <;> rfl
      rw [picks, still, List.filter_cons_of_neg (by simp), List.filter_cons_of_neg (by simp)]
      exact inductionHypothesis selection
    · have picked : (selection.pick count).1.isSome = true := by
        cases selection <;> simp [pick, nobody]
      rw [picks, List.filter_cons_of_pos picked, List.filter_cons_of_pos (by simpa using nobody),
        picks, inductionHypothesis]

/-! ## A lap -/

/-- A lap of so many turns, from a turn on, is not broken: the counter does not start over before
its end, or the range of the counter is made of such laps. -/
def Unbroken (turn size : Nat) : Prop :=
  turn % 2 ^ 64 + size ≤ 2 ^ 64 ∨ size ∣ 2 ^ 64

/-- In a lap that is not broken the turns are those of a counter without end. -/
theorem turn_of_unbroken (unbroken : Unbroken turn size) (within : place < size) :
    (turn + place) % 2 ^ 64 % size = (turn % 2 ^ 64 + place) % size := by
  have same : (turn + place) % 2 ^ 64 = (turn % 2 ^ 64 + place) % 2 ^ 64 :=
    (Nat.mod_add_mod turn (2 ^ 64) place).symm
  rw [same]
  rcases unbroken with ahead | divides
  · rw [Nat.mod_eq_of_lt (by omega : turn % 2 ^ 64 + place < 2 ^ 64)]
  · exact Nat.mod_mod_of_dvd _ divides

/-- In a lap that is broken somebody has two turns. -/
theorem same_turn_of_broken (broken : ¬ Unbroken turn size) :
    ∃ one other, one < other ∧ other < size ∧
      (turn + one) % 2 ^ 64 % size = (turn + other) % 2 ^ 64 % size := by
  simp only [Unbroken, not_or, Nat.not_le, Nat.dvd_iff_mod_eq_zero] at broken
  obtain ⟨exceeds, apart⟩ := broken
  simp only [← Nat.mod_add_mod turn (2 ^ 64)]
  have low : turn % 2 ^ 64 < 2 ^ 64 := Nat.mod_lt _ (by decide)
  generalize turn % 2 ^ 64 = first at exceeds low
  by_cases long : 2 ^ 64 < size
  · -- the counter comes round within one lap
    exact ⟨0, 2 ^ 64, by decide, long, by rw [Nat.add_zero, Nat.add_mod_right]⟩
  · -- the last turns before the counter starts over belong to a lap that it does not finish
    have positive : 0 < size := by omega
    have short : 2 ^ 64 % size < size := Nat.mod_lt _ positive
    have laps : size * (2 ^ 64 / size) + 2 ^ 64 % size = 2 ^ 64 := Nat.div_add_mod _ _
    generalize 2 ^ 64 % size = rest at apart short laps
    by_cases later : 2 ^ 64 - first ≤ rest
    · refine ⟨0, rest, by omega, short, ?_⟩
      have before : first = first + rest - 2 ^ 64 + size * (2 ^ 64 / size) := by omega
      have after : (first + rest) % 2 ^ 64 = first + rest - 2 ^ 64 := by
        rw [Nat.mod_eq_sub_mod (by omega), Nat.mod_eq_of_lt (by omega)]
      rw [after, Nat.add_zero, Nat.mod_eq_of_lt low]
      conv_lhs => rw [before]
      exact Nat.add_mul_mod_self_left _ _ _
    · refine ⟨2 ^ 64 - first - rest, 2 ^ 64 - first, by omega, by omega, ?_⟩
      have before : first + (2 ^ 64 - first - rest) = size * (2 ^ 64 / size) := by omega
      have below : size * (2 ^ 64 / size) < 2 ^ 64 := by omega
      have after : first + (2 ^ 64 - first) = 2 ^ 64 := by omega
      rw [before, after, Nat.mod_eq_of_lt below, Nat.mul_mod_right, Nat.mod_self, Nat.zero_mod]

/-- Calls with the same candidates take one turn after the other. -/
theorem choices_replicate (somebody : candidates.length ≠ 0) (turn times : Nat) :
    (atTurn turn).choices (List.replicate times candidates) =
      (List.range times).map fun place =>
        candidates[(turn + place) % 2 ^ 64 % candidates.length]? := by
  induction times generalizing turn with
  | zero => rfl
  | succ times inductionHypothesis =>
    rw [List.replicate_succ, choices, choose_atTurn, turnsTaken_of_pos somebody,
      inductionHypothesis, List.range_succ_eq_map, List.map_cons, List.map_map]
    simp only [Nat.add_zero, Nat.add_assoc, Nat.add_comm 1]
    rfl

/-- A lap that is not broken reaches everybody in the order of registration, from whose turn it is
around. -/
theorem choices_lap (unbroken : Unbroken turn candidates.length) :
    (atTurn turn).choices (List.replicate candidates.length candidates) =
      (candidates.rotate (turn % 2 ^ 64)).map some := by
  by_cases nobody : candidates.length = 0
  · have empty : candidates = [] := List.eq_nil_of_length_eq_zero nobody
    subst empty
    rfl
  · rw [choices_replicate nobody]
    apply List.ext_getElem
    · simp
    · intro place here there
      have within : place < candidates.length := by simpa using here
      have inRange : (turn % 2 ^ 64 + place) % candidates.length < candidates.length :=
        Nat.mod_lt _ (by omega)
      rw [List.getElem_map, List.getElem_range, turn_of_unbroken unbroken within,
        List.getElem?_eq_getElem inRange, List.getElem_map, List.getElem_rotate]
      simp only [Nat.add_comm place]

/-- As many calls with the same candidates as there are reach each of them once exactly if the lap
is not broken. -/
theorem choices_lap_perm_iff (distinct : candidates.Nodup) (turn : Nat) :
    ((atTurn turn).choices (List.replicate candidates.length candidates)).Perm
      (candidates.map some) ↔ Unbroken turn candidates.length := by
  constructor
  · intro all
    by_contra broken
    obtain ⟨one, other, before, within, same⟩ := same_turn_of_broken broken
    have once := all.nodup_iff.2 (distinct.map fun _ _ => Option.some.inj)
    rw [choices_replicate (by omega)] at once
    have equal : one = other := by
      apply List.inj_on_of_nodup_map once
      · exact List.mem_range.2 (by omega)
      · exact List.mem_range.2 within
      · simp only [same]
    omega
  · intro unbroken
    rw [choices_lap unbroken]
    exact (List.rotate_perm _ _).map some

-- From the last turn before the counter starts over, a lap of three reaches the first candidate
-- twice, but a lap of two reaches both.
example : (atTurn (2 ^ 64 - 1)).choices [["a", "b", "c"], ["a", "b", "c"], ["a", "b", "c"]] =
      [some "a", some "a", some "b"] ∧
    (atTurn (2 ^ 64 - 1)).choices [["a", "b"], ["a", "b"]] = [some "b", some "a"] := by
  decide +kernel

/-! ## Rotation -/

/-- How a selection rotates, whatever it is asked to pick from. -/
structure Rotates (selection : Selection) : Prop where
  /-- A call yields nothing exactly if there is nobody, and otherwise the index whose turn it is:
  the number of earlier calls that had somebody, as far as the counter reaches, modulo the number
  of candidates. -/
  picks : ∀ (counts : List Nat) (place : Nat),
    (selection.picks counts)[place]? = counts[place]?.map fun count =>
      if count = 0 then none else some (turnsTaken (counts.take place) % 2 ^ 64 % count)
  /-- A call with nobody to pick takes no turn: leaving it out changes no other answer. -/
  skips : ∀ counts : List Nat,
    (selection.picks counts).filter Option.isSome = selection.picks (counts.filter (· ≠ 0))
  /-- The candidate at this index is chosen. -/
  chooses : ∀ {α : Type} (rows : List (List α)) (place : Nat),
    (selection.choices rows)[place]? = rows[place]?.map fun candidates =>
      candidates[turnsTaken ((rows.take place).map List.length) % 2 ^ 64 % candidates.length]?
  /-- Where there is somebody, somebody is chosen, however often the counter has started over. -/
  inRange : ∀ {α : Type} (rows : List (List α)) (place : Nat) (candidates : List α),
    rows[place]? = some candidates → candidates ≠ [] →
    ∃ chosen ∈ candidates, (selection.choices rows)[place]? = some (some chosen)
  /-- As many calls in a row with the same candidates as there are, after whatever calls, reach them
  all in the order of registration, from whose turn it is around, if the lap is not broken. -/
  laps : ∀ {α : Type} (earlier later : List (List α)) (candidates : List α),
    Unbroken (turnsTaken (earlier.map List.length)) candidates.length →
    selection.choices earlier ++
        (candidates.rotate (turnsTaken (earlier.map List.length) % 2 ^ 64)).map some <+:
      selection.choices (earlier ++ List.replicate candidates.length candidates ++ later)
  /-- If it is broken, they do not reach each of them once. -/
  breaks : ∀ {α : Type} (earlier later : List (List α)) (candidates : List α)
    (reached : List (Option α)), candidates.Nodup → reached.length = candidates.length →
    selection.choices earlier ++ reached <+:
      selection.choices (earlier ++ List.replicate candidates.length candidates ++ later) →
    (reached.Perm (candidates.map some) ↔
      Unbroken (turnsTaken (earlier.map List.length)) candidates.length)

/-- A selection that starts with the policy that rotates rotates. -/
theorem start_rotates : (start .roundRobin).Rotates := by
  have fresh : start .roundRobin = atTurn 0 := rfl
  rw [fresh]
  constructor
  case picks =>
    intro counts place
    rw [picks_atTurn, List.getElem?_mapIdx]
    simp only [Nat.zero_add]
  case skips => exact picks_skip (atTurn 0)
  case chooses =>
    intro α rows place
    rw [choices_atTurn, List.getElem?_mapIdx]
    simp only [Nat.zero_add]
  case inRange =>
    intro α rows place candidates here somebody
    exact exists_mem_choices 0 here somebody
  case laps =>
    intro α earlier later candidates unbroken
    rw [choices_append, choices_after, choices_lap unbroken]
    exact List.prefix_append _ _
  case breaks =>
    intro α earlier later candidates reached distinct long follows
    rw [choices_append, choices_after, List.append_assoc, List.prefix_append_right_inj] at follows
    have same := List.prefix_of_prefix_length_le follows (List.prefix_append _ _)
      (by rw [choices_length, List.length_replicate, long])
    have reachedAll := same.eq_of_length (by rw [choices_length, List.length_replicate, long])
    rw [reachedAll]
    exact choices_lap_perm_iff distinct _

-- Three candidates in turn, one call with nobody among them.
example : (start .roundRobin).choices [["a", "b", "c"], ["a", "b", "c"], [], ["a", "b", "c"],
    ["a", "b", "c"]] = [some "a", some "b", none, some "c", some "a"] := by
  decide +kernel

end Selection

end HubRelay
