import HubRelay.Http.Message
import HubRelay.Proofs.Utf8.Lossy
import Mathlib.Data.List.Sort

/-!
Contract: the context of a connection holds all headers of the request.

Owns: the values of the headers of one name; what lossy texts of byte strings are, and that joining
them with commas and telling them commute; and that the context has one entry for every name, with
all values of the name in order of arrival.

Does not own: what becomes of a context.

The bytes of a header end where the next header begins, so a character that is cut short there is
not completed by it.  A comma does the same, for it is a character of its own.
-/

namespace HubRelay

/-- A dictionary is known from what is looked up in it. -/
theorem Dictionary.eq_of_get? {α : Type} {one other : Dictionary α}
    (same : ∀ name, one.get? name = other.get? name) : one = other := by
  have entries : one.entries = other.entries := by
    have irreflexive : Std.Irrefl fun earlier later : String × α => earlier.1 < later.1 :=
      ⟨fun entry => String.lt_irrefl entry.1⟩
    have antisymmetric : Std.Antisymm fun earlier later : String × α => earlier.1 < later.1 :=
      ⟨fun _ _ below above => absurd (String.lt_trans below above) (String.lt_irrefl _)⟩
    apply one.ascending.eq_of_mem_iff other.ascending
    rintro ⟨name, value⟩
    rw [mem_entries_iff, mem_entries_iff, same]
  obtain ⟨_, _⟩ := one
  obtain ⟨_, _⟩ := other
  cases entries
  rfl

/-! ## Lossy texts -/

namespace Text.Utf8

/-- A text tells bytes as well as a text can: for every ill-formed piece there is a replacement
character. -/
def Approximates (text : String) (bytes : List UInt8) : Prop :=
  ∃ pieces, Consists bytes pieces ∧ text.toList = pieces.map Piece.replaced

/-- The text that tells bytes. -/
def told (bytes : List UInt8) : String :=
  String.ofList (decodeLossy bytes)

theorem approximates_iff {text : String} {bytes : List UInt8} :
    Approximates text bytes ↔ text = told bytes := by
  rw [Approximates, told, ← String.toList_inj, String.toList_ofList]
  constructor
  · rintro ⟨found, consists, same⟩
    rw [same, decodeLossy, consists_iff.1 consists]
  · exact fun same => ⟨pieces bytes, consists_pieces bytes, same⟩

/-- The bytes of a text are told by the text alone. -/
theorem approximates_encodeString (text : String) : Approximates text (encodeString text) := by
  refine ⟨text.toList.map .scalar, consists_iff.2 (pieces_encode text.toList), ?_⟩
  rw [List.map_map]
  exact (List.map_id _).symm

/-- What stands around a comma is told on its own. -/
theorem decodeLossy_comma (before after : List UInt8) :
    decodeLossy (before ++ 0x2C :: after) = decodeLossy before ++ ',' :: decodeLossy after := by
  have comma : String.utf8EncodeChar ',' = [0x2C] := by decide
  have first : pieces (0x2C :: after) = .scalar ',' :: pieces after := by
    rw [← pieces_utf8EncodeChar, comma]
    rfl
  rw [decodeLossy, pieces_append_cons (by decide), first, List.map_append]
  rfl

/-- Byte strings between commas are told between commas. -/
theorem decodeLossy_intercalate (values : List (List UInt8)) :
    decodeLossy (List.intercalate [0x2C] values) =
      List.intercalate [','] (values.map decodeLossy) := by
  induction values with
  | nil => rfl
  | cons value values inductionHypothesis =>
    cases values with
    | nil => rw [List.intercalate_singleton, List.map_singleton, List.intercalate_singleton]
    | cons second values =>
      rw [List.intercalate_cons_cons, List.append_assoc, List.singleton_append, decodeLossy_comma,
        inductionHypothesis, List.map_cons, List.map_cons, List.map_cons,
        @List.intercalate_cons_cons _ [','] (decodeLossy value), List.append_assoc,
        List.singleton_append]

theorem told_intercalate (values : List (List UInt8)) :
    told (List.intercalate [0x2C] values) = ",".intercalate (values.map told) := by
  have each : (values.map told).map String.toList = values.map decodeLossy := by
    rw [List.map_map]
    exact List.map_congr_left fun value _ => String.toList_ofList
  rw [told, ← String.toList_inj, String.toList_ofList, String.toList_intercalate,
    decodeLossy_intercalate, each]
  rfl

theorem forall₂_approximates_iff {texts : List String} {values : List (List UInt8)} :
    List.Forall₂ Approximates texts values ↔ texts = values.map told := by
  have each : Approximates = fun text value => text = told value :=
    funext fun text => funext fun value => propext approximates_iff
  rw [each, ← List.forall₂_map_right_iff, List.forall₂_eq_eq_eq]

end Text.Utf8

namespace Http

open Text.Utf8

/-! ## The values of a name -/

namespace Header

variable {headers : List Header} {name : String}

/-- The values of the headers of a name, in order of arrival. -/
def valuesOf (headers : List Header) (name : String) : List (List UInt8) :=
  (headers.filter (·.key = name)).map (·.value)

/-- What is noted for a name that has some values: all of them between commas. -/
def joined? (values : List (List UInt8)) : Option String :=
  if values = [] then none else some (",".intercalate (values.map told))

theorem valuesOf_concat (headers : List Header) (header : Header) (name : String) :
    valuesOf (headers ++ [header]) name =
      if header.key = name then valuesOf headers name ++ [header.value]
      else valuesOf headers name := by
  rw [valuesOf, List.filter_append, List.map_append, ← valuesOf, List.filter_singleton]
  by_cases same : header.key = name
  · simp [same]
  · simp [same]

theorem valuesOf_ne_nil_iff :
    valuesOf headers name ≠ [] ↔ ∃ header ∈ headers, header.key = name := by
  simp only [ne_eq, valuesOf, List.map_eq_nil_iff, List.filter_eq_nil_iff, decide_eq_true_eq,
    not_forall, not_not, exists_prop]

theorem joined?_concat (values : List (List UInt8)) (value : List UInt8) :
    joined? (values ++ [value]) = match joined? values with
      | none => some (told value)
      | some earlier => some (earlier ++ "," ++ told value) := by
  rw [joined?, if_neg (by simp), joined?, List.map_append, List.map_singleton]
  by_cases first : values = []
  · rw [if_pos first, first, List.map_nil, List.nil_append, String.intercalate_singleton]
  · rw [if_neg first, String.intercalate_append_of_ne_nil (by simpa using first) (by simp),
      String.intercalate_singleton]

/-- Noting a header changes what is noted for its name, and nothing else. -/
theorem get?_note (noted : Dictionary String) (header : Header) (name : String) :
    (note noted header).get? name =
      if header.key = name then
        match noted.get? name with
        | none => some (told header.value)
        | some earlier => some (earlier ++ "," ++ told header.value)
      else noted.get? name := by
  rw [note]
  by_cases same : header.key = name
  · subst same
    rw [if_pos rfl]
    cases noted.get? header.key with
    | none => exact Dictionary.get?_insert_self _ _ _
    | some earlier => exact Dictionary.get?_insert_self _ _ _
  · rw [if_neg same]
    cases noted.get? header.key with
    | none => exact Dictionary.get?_insert_of_ne _ _ (Ne.symm same)
    | some earlier => exact Dictionary.get?_insert_of_ne _ _ (Ne.symm same)

/-- Once all headers are noted, every name has all its values. -/
theorem get?_foldl_note (headers : List Header) (name : String) :
    (headers.foldl note .empty).get? name = joined? (valuesOf headers name) := by
  induction headers using List.reverseRecOn with
  | nil => rfl
  | append_singleton headers header inductionHypothesis =>
    rw [List.foldl_append, List.foldl_cons, List.foldl_nil, get?_note, valuesOf_concat,
      inductionHypothesis]
    by_cases same : header.key = name
    · rw [if_pos same, if_pos same, joined?_concat]
    · rw [if_neg same, if_neg same]

theorem joined?_eq_some_iff {values : List (List UInt8)} {text : String} :
    joined? values = some text ↔ values ≠ [] ∧ text = ",".intercalate (values.map told) := by
  rw [joined?]
  by_cases empty : values = []
  · simp [empty]
  · simp [empty, eq_comm]

end Header

/-! ## Contexts -/

/-- The context of a connection is what the headers of its request say, name by name. -/
structure Captures (headers : List Header) (context : Context) : Prop where
  /-- There is an entry for the names of all headers in lower case, and for no other name. -/
  names : ∀ name, name ∈ context.headers.names ↔
    ∃ header ∈ headers, header.name.map Char.toLower = name
  /-- No name has two entries. -/
  once : context.headers.names.Nodup
  /-- The entry of a name has its values between commas, in order of arrival, each told as well as a
  text can. -/
  joins : ∀ name text, (name, text) ∈ context.headers.entries ↔
    Header.valuesOf headers name ≠ [] ∧ ∃ texts,
      List.Forall₂ Text.Utf8.Approximates texts (Header.valuesOf headers name) ∧
        text = ",".intercalate texts
  /-- That is to say, the bytes of all values between commas are told as well as a text can. -/
  whole : ∀ name text, (name, text) ∈ context.headers.entries ↔
    Header.valuesOf headers name ≠ [] ∧
      Text.Utf8.Approximates text (List.intercalate [0x2C] (Header.valuesOf headers name))
  /-- Among these, a value that is a text is told unchanged, whatever the others are. -/
  unchanged : ∀ name texts,
    List.Forall₂ Text.Utf8.Approximates texts (Header.valuesOf headers name) →
      ∀ (place : Nat) (text : String),
        (Header.valuesOf headers name)[place]? = some (Text.Utf8.encodeString text) →
          texts[place]? = some text
  /-- The context of other headers is the same, if every name has the same values in the same
  order. -/
  interleaving : ∀ others, Header.valuesOf others = Header.valuesOf headers →
    captureContext others = context
  /-- Nothing is said of a user. -/
  noUser : context.userId = none

theorem captures (headers : List Header) : Captures headers (captureContext headers) := by
  have found (name : String) : (captureContext headers).headers.get? name =
      Header.joined? (Header.valuesOf headers name) := Header.get?_foldl_note headers name
  have entry (name text : String) : (name, text) ∈ (captureContext headers).headers.entries ↔
      Header.valuesOf headers name ≠ [] ∧
        text = ",".intercalate ((Header.valuesOf headers name).map told) := by
    rw [Dictionary.mem_entries_iff, found, Header.joined?_eq_some_iff]
  constructor
  case names =>
    intro name
    have some : Header.valuesOf headers name ≠ [] ↔ _ := Header.valuesOf_ne_nil_iff
    rw [Dictionary.mem_names_iff]
    simp only [found, Header.joined?_eq_some_iff, exists_and_left, exists_eq, and_true]
    exact some
  case once => exact (captureContext headers).headers.nodup_names
  case joins =>
    intro name text
    simp only [entry, forall₂_approximates_iff, exists_eq_left]
  case whole =>
    intro name text
    rw [entry, approximates_iff, told_intercalate]
  case unchanged =>
    intro name texts approximate place text isText
    rw [forall₂_approximates_iff.1 approximate, List.getElem?_map, isText, Option.map_some,
      ← approximates_iff.1 (approximates_encodeString text)]
  case interleaving =>
    intro others same
    have headersSame : (captureContext others).headers = (captureContext headers).headers := by
      apply Dictionary.eq_of_get?
      intro name
      exact (Header.get?_foldl_note others name).trans (by rw [same, found])
    exact congrArg (Context.mk · none) headersSame
  case noUser => rfl

-- The first two bytes of a euro sign are not completed by the third one in the next value.
example : captureContext [⟨"A", [0xE2, 0x82]⟩, ⟨"B", [0x61]⟩, ⟨"a", [0xAC]⟩] =
    ⟨.ofList [("b", "a"), ("a", "\uFFFD,\uFFFD")], none⟩ := by
  cbv

end Http

end HubRelay
