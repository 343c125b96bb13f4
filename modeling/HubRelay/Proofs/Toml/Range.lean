import HubRelay.Toml.Document

/-!
Contract: the integers that a TOML text can give.

Owns: values of which all integers fit into 64 bits, with a sign, and that whatever a text is read
as is made of them.

Does not own: what those who look a value up make of it.

All integers come from one place, which checks them.  From there on values are only put into lists
and tables, and tables into tables.
-/

namespace HubRelay.Toml

/-! ## Values -/

/-- Whether all integers in a value fit into 64 bits, with a sign. -/
inductive Value.InRange : Value → Prop
  | text (value : String) : InRange (.text value)
  | integer {value : Int} (low : -0x8000000000000000 ≤ value) (high : value < 0x8000000000000000) :
      InRange (.integer value)
  | float : InRange .float
  | boolean (value : Bool) : InRange (.boolean value)
  | moment : InRange .moment
  | list {items : List Value} (inside : ∀ item ∈ items, InRange item) : InRange (.list items)
  | table {entries : List (String × Value)} (inside : ∀ entry ∈ entries, InRange entry.2) :
      InRange (.table entries)

/-- The same for what is under construction. -/
inductive Node.InRange : Node → Prop
  | value {value : Value} (inside : value.InRange) : InRange (.value value)
  | table {origin : TableOrigin} {entries : Entries} (inside : ∀ entry ∈ entries, InRange entry.2) :
      InRange (.table origin entries)
  | tables {earlier : List Entries} {latest : Entries}
      (before : ∀ entries ∈ earlier, ∀ entry ∈ entries, InRange entry.2)
      (inside : ∀ entry ∈ latest, InRange entry.2) : InRange (.tables earlier latest)

def Entries.InRange (entries : Entries) : Prop :=
  ∀ entry ∈ entries, entry.2.InRange

theorem finishEntries_eq_map (entries : Entries) :
    finishEntries entries = entries.map fun entry => (entry.1, entry.2.finish) := by
  induction entries with
  | nil => rfl
  | cons entry entries inductionHypothesis =>
    rw [finishEntries, inductionHypothesis, List.map_cons]

theorem finishTables_eq_map (tables : List Entries) :
    finishTables tables = tables.map fun entries => .table (finishEntries entries) := by
  induction tables with
  | nil => rfl
  | cons entries tables inductionHypothesis =>
    rw [finishTables, inductionHypothesis, List.map_cons]

theorem inRange_table {entries : Entries} (inside : ∀ entry ∈ entries, entry.2.finish.InRange) :
    (Value.table (finishEntries entries)).InRange := by
  refine .table ?_
  rw [finishEntries_eq_map]
  exact List.forall_mem_map.mpr inside

theorem Node.InRange.finish {node : Node} (inside : node.InRange) : node.finish.InRange := by
  induction inside with
  | value inside => exact inside
  | table _ inductionHypothesis => exact inRange_table inductionHypothesis
  | tables _ _ before latest =>
    refine .list ?_
    rw [finishTables_eq_map, List.forall_mem_append]
    exact ⟨List.forall_mem_map.mpr fun entries among => inRange_table (before entries among),
      List.forall_mem_singleton.mpr (inRange_table latest)⟩

/-! ## Words -/

variable {value : Value} {text rest : List Char}

theorem inRange_integer? {number : Int} (fits : integer? number = some value) : value.InRange := by
  unfold integer? at fits
  split at fits
  case isTrue bounds =>
    obtain rfl := Option.some.inj fits
    exact .integer bounds.1 bounds.2
  case isFalse => cases fits

theorem inRange_takeBased {base : Nat} (taken : takeBased base text = some (value, rest)) :
    value.InRange := by
  simp only [takeBased, Option.bind_eq_bind, Option.bind_eq_some_iff, Option.some.injEq,
    Prod.mk.injEq] at taken
  obtain ⟨_, -, _, fits, rfl, -⟩ := taken
  exact inRange_integer? fits

theorem inRange_takeInteger (taken : takeInteger text = some (value, rest)) : value.InRange := by
  unfold takeInteger at taken
  split at taken
  · exact inRange_takeBased taken
  · exact inRange_takeBased taken
  · exact inRange_takeBased taken
  · simp only [Option.bind_eq_bind, Option.bind_eq_some_iff, Option.some.injEq,
      Prod.mk.injEq] at taken
    obtain ⟨_, -, _, fits, rfl, -⟩ := taken
    exact inRange_integer? fits

theorem inRange_takeDecimal (taken : takeDecimal text = some (value, rest)) : value.InRange := by
  simp only [takeDecimal, Option.bind_eq_bind, Option.bind_eq_some_iff] at taken
  obtain ⟨_, -, taken⟩ := taken
  -- the rest is the same with a fraction and without one
  split at taken
  all_goals
    simp only [Option.bind_eq_some_iff] at taken
    obtain ⟨_, -, _, -, taken⟩ := taken
    split at taken
    · cases taken
    · split at taken
      · cases taken
      · cases taken
        exact .float

theorem inRange_takeFloat (taken : takeFloat text = some (value, rest)) : value.InRange := by
  simp only [takeFloat, Option.or_eq_some_iff, Option.map_eq_some_iff, Prod.mk.injEq] at taken
  obtain isDecimal | ⟨-, _, -, rfl, -⟩ := taken
  · exact inRange_takeDecimal isDecimal
  · exact .float

theorem inRange_takeMoment (taken : takeMoment text = some (value, rest)) : value.InRange := by
  simp only [takeMoment, Option.map_eq_some_iff, Prod.mk.injEq] at taken
  obtain ⟨_, -, rfl, -⟩ := taken
  exact .moment

theorem inRange_takeQuantity (taken : takeQuantity text = some (value, rest)) :
    value.InRange := by
  simp only [takeQuantity, Option.or_eq_some_iff] at taken
  obtain isMoment | ⟨-, isFloat | ⟨-, isInteger⟩⟩ := taken
  · exact inRange_takeMoment isMoment
  · exact inRange_takeFloat isFloat
  · exact inRange_takeInteger isInteger

/-! ## Tables under construction -/

namespace Entries

variable {entries entries' : Entries} {name : String} {node : Node}

theorem InRange.nil : InRange [] :=
  nofun

theorem InRange.node? (inside : entries.InRange) (found : entries.node? name = some node) :
    node.InRange := by
  simp only [Entries.node?, Option.map_eq_some_iff] at found
  obtain ⟨entry, found, rfl⟩ := found
  exact inside entry (List.mem_of_find?_eq_some found)

theorem InRange.add (inside : entries.InRange) (also : node.InRange) :
    (entries.add name node).InRange :=
  List.forall_mem_append.mpr ⟨inside, List.forall_mem_singleton.mpr also⟩

theorem InRange.replace (inside : entries.InRange) (also : node.InRange) :
    (entries.replace name node).InRange := by
  refine List.forall_mem_map.mpr fun entry among => ?_
  split
  · exact also
  · exact inside entry among

/-- What keeps to the range at the end of a path keeps to it as a whole. -/
theorem InRange.change {dotted : Bool} {act : TableOrigin → Entries → Option Entries}
    (keeps : ∀ {origin entries entries'}, InRange entries → act origin entries = some entries' →
      InRange entries') {path : List String} {origin : TableOrigin} (inside : entries.InRange)
    (changed : Entries.change dotted act path origin entries = some entries') :
    entries'.InRange := by
  induction path generalizing origin entries entries' with
  | nil => exact keeps inside changed
  | cons name path inductionHypothesis =>
    rw [Entries.change] at changed
    split at changed
    · simp only [Option.bind_eq_bind, Option.bind_eq_some_iff, Option.some.injEq] at changed
      obtain ⟨inner, changed, rfl⟩ := changed
      exact inside.add (.table (inductionHypothesis .nil changed))
    · cases changed
    case h_3 found =>
      simp only [Option.bind_eq_bind, Option.bind_eq_some_iff, Option.some.injEq] at changed
      obtain ⟨inner, changed, rfl⟩ := changed
      cases inside.node? found with
      | tables before latest =>
        exact inside.replace (.tables before (inductionHypothesis latest changed))
    case h_4 found =>
      split at changed
      · cases changed
      · simp only [Option.bind_eq_bind, Option.bind_eq_some_iff, Option.some.injEq] at changed
        obtain ⟨inner, changed, rfl⟩ := changed
        cases inside.node? found with
        | table within => exact inside.replace (.table (inductionHypothesis within changed))

theorem InRange.assign {path : List String} {value : Value} {origin : TableOrigin}
    (also : value.InRange) (inside : entries.InRange)
    (assigned : Entries.assign path name value origin entries = some entries') :
    entries'.InRange := by
  refine inside.change (fun {_ entries _} inside acted => ?_) assigned
  split at acted
  · cases acted
  · split at acted
    · cases acted
    · cases acted
      exact inside.add (.value also)

theorem InRange.openTable (inside : entries.InRange)
    (opened : Entries.openTable name entries = some entries') : entries'.InRange := by
  unfold Entries.openTable at opened
  split at opened
  · cases opened
    exact inside.add (.table InRange.nil)
  case h_2 found =>
    cases opened
    cases inside.node? found with
    | table within => exact inside.replace (.table within)
  · cases opened

theorem InRange.openNext (inside : entries.InRange)
    (opened : Entries.openNext name entries = some entries') : entries'.InRange := by
  unfold Entries.openNext at opened
  split at opened
  · cases opened
    exact inside.add (.tables nofun InRange.nil)
  case h_2 found =>
    cases opened
    cases inside.node? found with
    | tables before latest =>
      exact inside.replace (.tables (List.forall_mem_append.mpr
        ⟨before, List.forall_mem_singleton.mpr latest⟩) InRange.nil)
  · cases opened

end Entries

/-! ## Nested values -/

/-- Whether all that is taken with some fuel keeps to the range. -/
structure TakesInRange (fuel : Nat) : Prop where
  value : ∀ {depth : Nat} {text : List Char} {value : Value} {rest : List Char},
    takeValue fuel depth text = some (value, rest) → value.InRange
  items : ∀ {depth : Nat} {items : List Value} {text : List Char} {value : Value}
    {rest : List Char}, (∀ item ∈ items, item.InRange) →
      takeItems fuel depth items text = some (value, rest) → value.InRange
  pairs : ∀ {depth : Nat} {entries : Entries} {text : List Char} {value : Value}
    {rest : List Char}, entries.InRange →
      takePairs fuel depth entries text = some (value, rest) → value.InRange

namespace TakesInRange

variable {fuel depth : Nat} (below : TakesInRange fuel)
include below

theorem takeValue (taken : takeValue (fuel + 1) depth text = some (value, rest)) :
    value.InRange := by
  rw [Toml.takeValue.eq_def] at taken
  dsimp only at taken
  split at taken
  case h_1 | h_2 =>
    simp only [Option.map_eq_some_iff, Prod.mk.injEq] at taken
    obtain ⟨_, -, rfl, -⟩ := taken
    exact .text _
  case h_3 =>
    split at taken
    · cases taken
    · exact below.items (List.forall_mem_nil _) taken
  case h_4 =>
    split at taken
    · cases taken
    · split at taken
      · cases taken
        exact .table nofun
      · exact below.pairs .nil taken
  case h_5 | h_6 =>
    simp only [Option.map_eq_some_iff, Prod.mk.injEq] at taken
    obtain ⟨_, -, rfl, -⟩ := taken
    exact .boolean _
  case h_7 => exact inRange_takeQuantity taken

theorem takeItems {items : List Value} (inside : ∀ item ∈ items, item.InRange)
    (taken : takeItems (fuel + 1) depth items text = some (value, rest)) : value.InRange := by
  rw [Toml.takeItems] at taken
  split at taken
  · cases taken
    exact .list fun item among => inside item (List.mem_reverse.mp among)
  · simp only [Option.bind_eq_bind, Option.bind_eq_some_iff] at taken
    obtain ⟨⟨item, after⟩, first, taken⟩ := taken
    have more : ∀ item' ∈ item :: items, item'.InRange :=
      List.forall_mem_cons.mpr ⟨below.value first, inside⟩
    split at taken
    · exact below.items more taken
    · cases taken
      exact .list fun item among => more item (List.mem_reverse.mp among)
    · cases taken

theorem takePairs {entries : Entries} (inside : entries.InRange)
    (taken : takePairs (fuel + 1) depth entries text = some (value, rest)) : value.InRange := by
  rw [Toml.takePairs] at taken
  simp only [Option.bind_eq_bind, Option.bind_eq_some_iff] at taken
  obtain ⟨_, -, _, -, ⟨given, after⟩, first, more, assigned, taken⟩ := taken
  have inside := Entries.InRange.assign (below.value first) inside assigned
  split at taken
  · exact below.pairs inside taken
  · cases taken
    exact inRange_table fun entry among => (inside entry among).finish
  · cases taken

end TakesInRange

theorem takesInRange (fuel : Nat) : TakesInRange fuel := by
  induction fuel with
  | zero =>
    constructor
    case value =>
      intro _ _ _ _ taken
      rw [takeValue] at taken
      cases taken
    case items =>
      intro _ _ _ _ _ _ taken
      rw [takeItems] at taken
      cases taken
    case pairs =>
      intro _ _ _ _ _ _ taken
      rw [takePairs] at taken
      cases taken
  | succ fuel below => exact ⟨below.takeValue, below.takeItems, below.takePairs⟩

/-! ## Texts -/

variable {state state' : State}

theorem inRange_readPair (inside : state.entries.InRange)
    (isRead : readPair state text = some (state', rest)) : state'.entries.InRange := by
  simp only [readPair, Option.bind_eq_bind, Option.bind_eq_some_iff, Option.some.injEq,
    Prod.mk.injEq] at isRead
  obtain ⟨_, -, _, -, ⟨value, after⟩, taken, entries, changed, rfl, -⟩ := isRead
  have also : value.InRange := (takesInRange _).value taken
  exact inside.change (fun inside assigned => .assign also inside assigned) changed

theorem inRange_readHeader (inside : state.entries.InRange)
    (isRead : readHeader state text = some (state', rest)) : state'.entries.InRange := by
  simp only [readHeader, Option.bind_eq_bind, Option.bind_eq_some_iff] at isRead
  obtain ⟨_, -, _, -, isRead⟩ := isRead
  split at isRead
  all_goals
    simp only [if_true, Bool.false_eq_true, if_false, Option.bind_some, Option.bind_eq_some_iff,
      Option.some.injEq, Prod.mk.injEq] at isRead
  case h_1 =>
    obtain ⟨_, -, _, changed, rfl, -⟩ := isRead
    exact inside.change (fun inside opened => inside.openNext opened) changed
  case h_2 =>
    obtain ⟨_, changed, rfl, -⟩ := isRead
    exact inside.change (fun inside opened => inside.openTable opened) changed

theorem inRange_readLine (inside : state.entries.InRange)
    (isRead : readLine state text = some (state', rest)) : state'.entries.InRange := by
  simp only [readLine, Option.bind_eq_bind] at isRead
  split at isRead
  all_goals
    simp only [Option.bind_eq_some_iff, Option.some.injEq, Prod.mk.injEq] at isRead
    obtain ⟨⟨after, more⟩, isLine, _, -, rfl, -⟩ := isRead
  case h_1 | h_2 | h_3 =>
    cases isLine
    exact inside
  case h_4 => exact inRange_readHeader inside isLine
  case h_5 => exact inRange_readPair inside isLine

theorem inRange_readLines {fuel : Nat} (inside : state.entries.InRange)
    (isRead : readLines fuel state text = some state') : state'.entries.InRange := by
  induction fuel generalizing state text with
  | zero => cases isRead
  | succ fuel inductionHypothesis =>
    rw [readLines] at isRead
    split at isRead
    · cases isRead
      exact inside
    · simp only [Option.bind_eq_bind, Option.bind_eq_some_iff] at isRead
      obtain ⟨_, line, isRead⟩ := isRead
      exact inductionHypothesis (inRange_readLine inside line) isRead

/-- All integers in a text that is read fit into 64 bits. -/
theorem inRange_read {entries : List (String × Value)} (isRead : read text = some entries) :
    ∀ entry ∈ entries, entry.2.InRange := by
  simp only [read, Option.map_eq_some_iff] at isRead
  obtain ⟨state, lines, rfl⟩ := isRead
  rw [finishEntries_eq_map]
  exact List.forall_mem_map.mpr fun entry among =>
    (inRange_readLines .nil lines entry among).finish

end HubRelay.Toml
