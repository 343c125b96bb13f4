import HubRelay.Json.Record
import HubRelay.Proofs.Json.Values
import Mathlib.Data.List.Duplicate
import Mathlib.Data.List.Pairwise
import Mathlib.Data.List.Perm.Basic
import Mathlib.Tactic.MkIffOfInductiveProp

/-!
Contract: a record does not depend on the order in which its members are written.

Owns: what it takes for a record that the order of members, and members of unknown names, do not
matter and that no member may be repeated; and that every record does so whose fields are kept
apart.

Does not own: which records these are.

Whether a record is read, and as what, is told from what one member after the other makes of a
draft.  If two members make the same of every draft in either order, so do all orders of any
members, and the induction on the order needs nothing else.  Only why a text is refused depends on
the order.
-/

namespace HubRelay.Json

open Document

/-! ## Steps in any order -/

/-- Steps of which two come to the same in either order come to the same in every order. -/
theorem foldlM_perm {α σ : Type} {step : σ → α → Option σ}
    (commutes : ∀ draft one other,
      (step draft one).bind (step · other) = (step draft other).bind (step · one))
    {members others : List α} (same : members.Perm others) (draft : σ) :
    members.foldlM step draft = others.foldlM step draft := by
  induction same generalizing draft with
  | nil => rfl
  | cons member _ inductionHypothesis =>
    rw [List.foldlM_cons, List.foldlM_cons]
    exact congrArg _ (funext inductionHypothesis)
  | swap one other members =>
    simp only [List.foldlM_cons, Option.bind_eq_bind, ← Option.bind_assoc, commutes draft one other]
  | trans _ _ first second => exact (first draft).trans (second draft)

/-! ## Records, one member after the other -/

/-- One of some names is the name of two members of an object. -/
def Repeats (known : List String) (members : List (StringSpelling × Document)) : Prop :=
  ∃ name ∈ known, (members.map (·.1)).Duplicate (.text name)

namespace Record

variable {σ α : Type} {record : Record σ α} {origin : Origin} {draft : σ} {name : String}
  {document : Document}

theorem readMembers_unknown (unknown : record.slot draft name = .unknown)
    (members : List (StringSpelling × Document)) :
    record.readMembers origin draft ((.text name, document) :: members) =
      document.pass >>= fun _ => record.readMembers origin draft members := by
  simp only [readMembers, nameText, bind, Except.bind, unknown]

theorem readMembers_filled (filled : record.slot draft name = .filled)
    (members : List (StringSpelling × Document)) :
    record.readMembers origin draft ((.text name, document) :: members) = .error .data := by
  simp only [readMembers, nameText, bind, Except.bind, filled]

theorem readMembers_reader {reader : Reader σ} (vacant : record.slot draft name = .vacant reader)
    (members : List (StringSpelling × Document)) :
    record.readMembers origin draft ((.text name, document) :: members) =
      reader origin document >>= fun draft => record.readMembers origin draft members := by
  simp only [readMembers, nameText, bind, Except.bind, vacant]

theorem toOption_pass (document : Document) :
    document.pass.toOption = if document.isWhole then some () else none := by
  rw [Document.pass]
  cases document.isWhole <;> rfl

/-- What one member makes of a draft, unless it is refused. -/
def step (record : Record σ α) (origin : Origin) (draft : σ)
    (member : StringSpelling × Document) : Option σ :=
  (record.readMembers origin draft [member]).toOption

theorem step_unpaired : record.step origin draft (.unpaired, document) = none :=
  rfl

theorem step_unknown (unknown : record.slot draft name = .unknown) :
    record.step origin draft (.text name, document) =
      if document.isWhole then some draft else none := by
  rw [step, readMembers_unknown unknown, toOption_bind, toOption_pass]
  cases document.isWhole <;> rfl

theorem step_filled (filled : record.slot draft name = .filled) :
    record.step origin draft (.text name, document) = none := by
  rw [step, readMembers_filled filled]
  rfl

theorem step_vacant {reader : Reader σ} (vacant : record.slot draft name = .vacant reader) :
    record.step origin draft (.text name, document) = (reader origin document).toOption := by
  rw [step, readMembers_reader vacant]
  cases reader origin document <;> rfl

theorem toOption_readMembers (record : Record σ α) (origin : Origin)
    (members : List (StringSpelling × Document)) (draft : σ) :
    (record.readMembers origin draft members).toOption =
      members.foldlM (record.step origin) draft := by
  induction members generalizing draft with
  | nil => rfl
  | cons member members inductionHypothesis =>
    obtain ⟨spelling, document⟩ := member
    rw [List.foldlM_cons]
    cases spelling with
    | unpaired => rfl
    | text name =>
      cases slot : record.slot draft name with
      | unknown =>
        rw [step_unknown slot, readMembers_unknown slot, toOption_bind, toOption_pass]
        cases document.isWhole with
        | false => rfl
        | true => exact inductionHypothesis draft
      | filled =>
        rw [step_filled slot, readMembers_filled slot]
        rfl
      | vacant reader =>
        rw [step_vacant slot, readMembers_reader slot, toOption_bind]
        exact congrArg _ (funext inductionHypothesis)

theorem toOption_read_object (record : Record σ α) (origin : Origin)
    (members : List (StringSpelling × Document)) :
    (record.read origin (.object members true)).toOption =
      origin.enter.toOption.bind fun inner =>
        (members.foldlM (record.step inner) record.blank).bind record.complete? := by
  show (record.readObject origin members true).toOption = _
  rw [readObject, toOption_bind]
  refine congrArg _ (funext fun inner => ?_)
  rw [toOption_bind, toOption_readMembers]
  refine congrArg _ (funext fun draft => ?_)
  simp only [if_true, complete]
  cases record.complete? draft <;> rfl

theorem closed_of_read {members : List (StringSpelling × Document)} {closed : Bool} {value : α}
    (read : record.read origin (.object members closed) = .ok value) : closed = true := by
  obtain ⟨inner, -, membersRead⟩ := eq_ok_of_bind read
  obtain ⟨draft, -, ends⟩ := eq_ok_of_bind membersRead
  cases closed with
  | true => rfl
  | false => cases ends

/-! ## Records in any order -/

/-- The order of members does not matter to a record, members of names that it does not know
neither, and those that it knows may not be repeated. -/
structure Orderless (record : Record σ α) (known : List String) : Prop where
  commutes : ∀ origin draft one other,
    (record.step origin draft one).bind (record.step origin · other) =
      (record.step origin draft other).bind (record.step origin · one)
  once : ∀ name ∈ known, ∀ origin draft document again,
    (record.step origin draft (.text name, document)).bind
      (record.step origin · (.text name, again)) = none
  ignores : ∀ name ∉ known, ∀ draft, record.slot draft name = .unknown

namespace Orderless

variable {known : List String}

/-- Only the order of different members that a record knows can matter. -/
theorem of_known
    (swaps : ∀ one ∈ known, ∀ other ∈ known, one ≠ other → ∀ origin draft document again,
      (record.step origin draft (.text one, document)).bind
          (record.step origin · (.text other, again)) =
        (record.step origin draft (.text other, again)).bind
          (record.step origin · (.text one, document)))
    (once : ∀ name ∈ known, ∀ origin draft document again,
      (record.step origin draft (.text name, document)).bind
        (record.step origin · (.text name, again)) = none)
    (ignores : ∀ name ∉ known, ∀ draft, record.slot draft name = .unknown) :
    record.Orderless known where
  commutes := by
    rintro origin draft ⟨one, document⟩ ⟨other, again⟩
    have unknown {name : String} (unknown : name ∉ known) (draft : σ) (document : Document) :
        record.step origin draft (.text name, document) =
          if document.isWhole then some draft else none :=
      step_unknown (ignores name unknown draft)
    cases one with
    | unpaired => simp only [step_unpaired, Option.bind_none, Option.bind_fun_none]
    | text one =>
    cases other with
    | unpaired => simp only [step_unpaired, Option.bind_none, Option.bind_fun_none]
    | text other =>
    by_cases knowsOne : one ∈ known
    · by_cases knowsOther : other ∈ known
      · by_cases same : one = other
        · subst same
          rw [once one knowsOne, once one knowsOne]
        · exact swaps one knowsOne other knowsOther same origin draft document again
      · simp only [unknown knowsOther]
        cases again.isWhole <;> simp
    · simp only [unknown knowsOne]
      cases document.isWhole <;> simp
  once := once
  ignores := ignores

variable (orderless : record.Orderless known) {members fields extra : List (String × Json)}
  {value : α}

include orderless

theorem read_perm {others : List (StringSpelling × Document)}
    {members : List (StringSpelling × Document)} (same : members.Perm others) (origin : Origin) :
    (record.read origin (.object members true)).toOption =
      (record.read origin (.object others true)).toOption := by
  rw [toOption_read_object, toOption_read_object]
  refine congrArg _ (funext fun inner => ?_)
  rw [foldlM_perm (orderless.commutes inner) same]

theorem steps_extra (unknown : ∀ member ∈ extra, member.1 ∉ known) (origin : Origin) (draft : σ) :
    (ofMembers extra).foldlM (record.step origin) draft = some draft := by
  induction extra with
  | nil => rfl
  | cons member extra inductionHypothesis =>
    obtain ⟨name, value⟩ := member
    have ignored := orderless.ignores name (unknown _ List.mem_cons_self) draft
    rw [ofMembers, List.foldlM_cons, step_unknown ignored, isWhole_ofValue, if_pos rfl]
    exact inductionHypothesis fun other among => unknown other (List.mem_cons_of_mem _ among)

/-- A record is read as if its fields alone stood there, in any other order. -/
theorem read_listed (listed : members.Perm (fields ++ extra))
    (unknown : ∀ member ∈ extra, member.1 ∉ known) (origin : Origin) :
    (record.read origin (ofValue (.object members))).toOption =
      (record.read origin (ofValue (.object fields))).toOption := by
  have same : (ofMembers members).Perm (ofMembers fields ++ ofMembers extra) := by
    rw [← ofMembers_append, ofMembers_eq_map, ofMembers_eq_map]
    exact listed.map _
  rw [ofValue, ofValue, orderless.read_perm same, toOption_read_object, toOption_read_object]
  refine congrArg _ (funext fun inner => ?_)
  rw [List.foldlM_append]
  have through : ∀ draft, (ofMembers extra).foldlM (record.step inner) draft = some draft :=
    orderless.steps_extra unknown inner
  cases (ofMembers fields).foldlM (record.step inner) record.blank with
  | none => rfl
  | some draft => exact congrArg (Option.bind · record.complete?) (through draft)

/-- A record of which a known member is repeated is refused. -/
theorem not_read_of_repeats {members : List (StringSpelling × Document)}
    (repeats : Repeats known members) (origin : Origin) (closed : Bool) (value : α) :
    record.read origin (.object members closed) ≠ .ok value := by
  intro read
  obtain rfl := closed_of_read read
  obtain ⟨name, knows, repeated⟩ := repeats
  obtain ⟨pair, within, names⟩ := List.sublist_map_iff.1 (List.duplicate_iff_sublist.1 repeated)
  obtain ⟨rest, same⟩ := within.exists_perm_append
  rcases pair with _ | ⟨⟨first, document⟩, _ | ⟨⟨second, again⟩, _ | ⟨third, more⟩⟩⟩
  case nil | cons.nil | cons.cons.cons => simp at names
  obtain ⟨rfl, rfl, -⟩ : first = .text name ∧ second = .text name ∧ True := by
    simpa [eq_comm] using names
  refine toOption_eq_none_iff.1 ?_ value read
  rw [orderless.read_perm same, toOption_read_object]
  cases origin.enter with
  | error fault => rfl
  | ok inner =>
    have refused := orderless.once name knows inner record.blank document again
    show (List.foldlM (record.step inner) record.blank
      ((.text name, document) :: (.text name, again) :: rest)).bind record.complete? = none
    rw [List.foldlM_cons]
    show ((record.step inner record.blank (.text name, document)).bind fun draft =>
      (record.step inner draft (.text name, again)).bind fun draft =>
        rest.foldlM (record.step inner) draft).bind _ = none
    rw [← Option.bind_assoc, refused]
    rfl

/-- Whoever reads a record can read each of its members first. -/
theorem reads_member {members : List (StringSpelling × Document)} {closed : Bool}
    {member : StringSpelling × Document}
    (read : record.read origin (.object members closed) = .ok value) (among : member ∈ members) :
    ∃ inner draft, origin.enter = .ok inner ∧
      record.step inner record.blank member = some draft := by
  obtain rfl := closed_of_read read
  obtain ⟨before, after, rfl⟩ := List.append_of_mem among
  have first := toOption_eq_some_iff.2 read
  rw [orderless.read_perm List.perm_middle, toOption_read_object] at first
  obtain ⟨inner, enters, reads⟩ := Option.bind_eq_some_iff.1 first
  obtain ⟨draft, steps, -⟩ := Option.bind_eq_some_iff.1 reads
  rw [List.foldlM_cons] at steps
  obtain ⟨next, step, -⟩ := Option.bind_eq_some_iff.1 steps
  exact ⟨inner, next, toOption_eq_some_iff.1 enters, step⟩

/-- So the value of each field has been read by the reader of the field. -/
theorem reads_field {β : Type} {members : List (StringSpelling × Document)} {closed : Bool}
    {field : Reader β} {store : β → σ}
    (read : record.read origin (.object members closed) = .ok value)
    (among : (.text name, document) ∈ members)
    (slot : record.slot record.blank name = .of none field store) :
    ∃ inner found, field inner document = .ok found := by
  obtain ⟨inner, draft, -, step⟩ := orderless.reads_member read among
  rw [step_vacant slot, toOption_map] at step
  obtain ⟨found, ok, -⟩ := Option.map_eq_some_iff.1 step
  exact ⟨inner, found, toOption_eq_some_iff.1 ok⟩

end Orderless

end Record

/-! ## Fields that are kept apart -/

/-- A field of a draft, with its name and how it is read and kept. -/
structure Field (σ : Type) where
  name : String
  Value : Type
  reader : Reader Value
  get : σ → Option Value
  put : Value → σ → σ

namespace Field

variable {σ : Type}

/-- What is taken from a member of its name, unless the field has been read. -/
def taken (field : Field σ) (origin : Origin) (draft : σ) (document : Document) :
    Option field.Value :=
  match field.get draft with
  | some _ => none
  | none => (field.reader origin document).toOption

/-- What a member of its name makes of a draft. -/
def step (field : Field σ) (origin : Origin) (draft : σ) (document : Document) : Option σ :=
  (field.taken origin draft document).map (field.put · draft)

/-- Two fields of which neither shows in the other. -/
@[mk_iff]
structure Apart (one other : Field σ) : Prop where
  first : ∀ value draft, one.get (other.put value draft) = one.get draft
  second : ∀ value draft, other.get (one.put value draft) = other.get draft
  swaps : ∀ value again draft,
    one.put value (other.put again draft) = other.put again (one.put value draft)

instance : Std.Symm (@Apart σ) where
  symm _ _ apart :=
    ⟨apart.second, apart.first, fun value again draft => (apart.swaps again value draft).symm⟩

theorem Apart.step {one other : Field σ} (apart : one.Apart other) (origin : Origin) (draft : σ)
    (document again : Document) :
    (one.step origin draft document).bind (other.step origin · again) =
      (other.step origin draft again).bind (one.step origin · document) := by
  have afterOne (value : one.Value) :
      other.taken origin (one.put value draft) again = other.taken origin draft again := by
    rw [taken, taken, apart.second]
  have afterOther (value : other.Value) :
      one.taken origin (other.put value draft) document = one.taken origin draft document := by
    rw [taken, taken, apart.first]
  simp only [Field.step, Option.bind_map, Function.comp_def, afterOne, afterOther]
  cases one.taken origin draft document with
  | none => cases other.taken origin draft again <;> rfl
  | some value =>
    cases other.taken origin draft again with
    | none => rfl
    | some found => exact congrArg some (apart.swaps value found draft).symm

/-- A field that has been read is not read again. -/
theorem step_twice {field : Field σ}
    (kept : ∀ value draft, field.get (field.put value draft) = some value) (origin : Origin)
    (draft : σ) (document again : Document) :
    (field.step origin draft document).bind (field.step origin · again) = none := by
  have filled (value : field.Value) : field.taken origin (field.put value draft) again = none := by
    rw [taken, kept]
  simp only [Field.step, Option.bind_map, Function.comp_def, filled, Option.map_none,
    Option.bind_fun_none]

end Field

namespace Record

variable {σ α : Type} {record : Record σ α} {fields : List (Field σ)}

/-- A record of some fields. -/
structure HasFields (record : Record σ α) (fields : List (Field σ)) : Prop where
  slot : ∀ draft name, record.slot draft name =
    match fields.find? (·.name == name) with
    | some field => .of (field.get draft) field.reader (field.put · draft)
    | none => .unknown
  kept : ∀ field ∈ fields, ∀ value draft, field.get (field.put value draft) = some value
  apart : fields.Pairwise Field.Apart

namespace HasFields

variable (table : record.HasFields fields)

include table

theorem step_eq (origin : Origin) (draft : σ) (name : String) (document : Document) :
    record.step origin draft (.text name, document) =
      match fields.find? (·.name == name) with
      | some field => field.step origin draft document
      | none => if document.isWhole then some draft else none := by
  have slot := table.slot draft name
  cases found : fields.find? (·.name == name) with
  | none =>
    rw [found] at slot
    exact step_unknown slot
  | some field =>
    rw [found] at slot
    simp only at slot ⊢
    simp only [Field.step, Field.taken]
    cases kept : field.get draft with
    | some value =>
      rw [kept] at slot
      exact step_filled slot
    | none =>
      rw [kept] at slot
      exact (step_vacant slot).trans (toOption_map _ _)

theorem step_known {name : String} (knows : name ∈ fields.map (·.name)) :
    ∃ field ∈ fields, field.name = name ∧ ∀ origin draft document,
      record.step origin draft (.text name, document) = field.step origin draft document := by
  cases found : fields.find? (·.name == name) with
  | none =>
    obtain ⟨field, among, rfl⟩ := List.mem_map.1 knows
    exact absurd (beq_self_eq_true field.name) (List.find?_eq_none.1 found field among)
  | some field =>
    have named := List.find?_some found
    refine ⟨field, List.mem_of_find?_eq_some found, beq_iff_eq.1 named, ?_⟩
    intro origin draft document
    rw [table.step_eq, found]

/-- A record of fields that are kept apart may have its members in any order. -/
theorem orderless : record.Orderless (fields.map (·.name)) := by
  refine .of_known ?swaps ?once ?ignores
  case swaps =>
    intro one knowsOne other knowsOther differ origin draft document again
    obtain ⟨first, amongFirst, rfl, firstSteps⟩ := table.step_known knowsOne
    obtain ⟨second, amongSecond, rfl, secondSteps⟩ := table.step_known knowsOther
    simp only [firstSteps, secondSteps]
    have apart : first.Apart second :=
      table.apart.forall amongFirst amongSecond fun same => differ (congrArg Field.name same)
    exact apart.step origin draft document again
  case once =>
    intro name knows origin draft document again
    obtain ⟨field, among, -, steps⟩ := table.step_known knows
    simp only [steps]
    exact Field.step_twice (table.kept field among) origin draft document again
  case ignores =>
    intro name unknown draft
    have slot := table.slot draft name
    rwa [List.find?_eq_none.2] at slot
    intro field among named
    exact unknown (beq_iff_eq.1 named ▸ List.mem_map_of_mem among)

end HasFields

end Record

/-! ## Fields, one after the other -/

namespace Record

variable {σ α β : Type} {record : Record σ α} {origin inner : Origin} {draft next : σ}
  {name : String} {document : Document} {members : List (StringSpelling × Document)}
  {reader : Reader σ} {value : α}

/-- A member that is read by its slot. -/
theorem readMembers_vacant (slot : record.slot draft name = .vacant reader)
    (read : reader origin document = .ok next) :
    record.readMembers origin draft ((.text name, document) :: members) =
      record.readMembers origin next members := by
  rw [readMembers_reader slot, read]
  rfl

/-- A field that has not been read yet. -/
theorem readMembers_field {field : Reader β} {store : β → σ} {found : β}
    (slot : record.slot draft name = .of none field store)
    (read : field origin document = .ok found) :
    record.readMembers origin draft ((.text name, document) :: members) =
      record.readMembers origin (store found) members := by
  refine readMembers_vacant slot ?_
  show (field origin document).map store = _
  rw [read]
  rfl

theorem read_object (enters : origin.enter = .ok inner)
    (reads : record.readMembers inner record.blank members = .ok draft)
    (complete : record.complete? draft = some value) :
    record.read origin (.object members true) = .ok value := by
  show record.readObject origin members true = _
  rw [readObject, enters]
  show (record.readMembers inner record.blank members >>= fun draft =>
    if true then record.complete draft else _) = _
  rw [reads]
  show record.complete draft = _
  rw [Record.complete, complete]

end Record

/-- The fields with which a value is written that may be left out if it is the usual one. -/
inductive Given {α : Type} (name : String) (usual : α) (writes : α → Json → Prop) :
    α → List (String × Json) → Prop
  | leftOut : Given name usual writes usual []
  | written {value : α} {written : Json} (wrote : writes value written) :
      Given name usual writes value [(name, written)]

/-- The members of an object are the fields of a record in any order, with members of other names
anywhere among them. -/
def Lists (known : List String) (fields members : List (String × Json)) : Prop :=
  ∃ extra, members.Perm (fields ++ extra) ∧ ∀ member ∈ extra, member.1 ∉ known

theorem Lists.of_fields (known : List String) (fields : List (String × Json)) :
    Lists known fields fields :=
  ⟨[], by rw [List.append_nil], nofun⟩

theorem Lists.mem {known : List String} {fields members : List (String × Json)}
    (lists : Lists known fields members) {member : String × Json} (among : member ∈ fields) :
    member ∈ members := by
  obtain ⟨extra, same, -⟩ := lists
  exact same.mem_iff.2 (List.mem_append_left extra among)

namespace Record

variable {σ α : Type} {record : Record σ α} {known : List String}

/-- A field that may be left out is read if it is not. -/
theorem readMembers_given (record : Record σ α) {β : Type} (put : Option β → σ) {name : String}
    {usual value : β} {writes : β → Json → Prop} {fields : List (String × Json)} {origin : Origin}
    {field : Reader β} (given : Given name usual writes value fields)
    (slot : record.slot (put none) name = .of none field fun found => put (some found))
    (reads : ∀ written, (name, written) ∈ fields → writes value written →
      field origin (ofValue written) = .ok value) (rest : List (String × Json)) :
    ∃ found : Option β, found.getD usual = value ∧
      record.readMembers origin (put none) (ofMembers (fields ++ rest)) =
        record.readMembers origin (put found) (ofMembers rest) := by
  cases given with
  | leftOut => exact ⟨none, rfl, rfl⟩
  | @written value written wrote =>
    refine ⟨some value, rfl, ?_⟩
    have read := reads written List.mem_cons_self wrote
    show record.readMembers origin (put none) ((.text name, ofValue written) :: ofMembers rest) = _
    exact (readMembers_field slot read).trans rfl

/-- A record is read from its members if it is read from its fields. -/
theorem Orderless.read_ok {fields members : List (String × Json)} {origin : Origin} {value : α}
    (orderless : record.Orderless known) (lists : Lists known fields members)
    (read : record.read origin (ofValue (.object fields)) = .ok value) :
    record.read origin (ofValue (.object members)) = .ok value := by
  obtain ⟨extra, same, unknown⟩ := lists
  rw [← toOption_eq_some_iff] at read ⊢
  rw [orderless.read_listed same unknown, read]

end Record

end HubRelay.Json
