import HubRelay.Proofs.Utf8
import Mathlib.Data.String.Basic

/-!
Contract: texts and their bytes are in the same order.

Owns: that the bytes of one character are below those of another exactly if the character is, and
that texts are compared as their bytes are.

Does not own: what is sorted by this order.

Characters of more bytes have higher first bytes, and those of equally many bytes differ first where
their numbers do.
-/

namespace HubRelay.Text.Utf8

/-- Whether the first byte in which two byte lists differ is lower in the first one. -/
inductive Precedes : List UInt8 → List UInt8 → Prop
  | here {low high : UInt8} {bytes others : List UInt8} (less : low < high) :
      Precedes (low :: bytes) (high :: others)
  | later {byte : UInt8} {bytes others : List UInt8} (further : Precedes bytes others) :
      Precedes (byte :: bytes) (byte :: others)

variable {bytes others : List UInt8} {low high number other : Nat}

/-- What follows does not matter then. -/
theorem Precedes.append_lt (precedes : Precedes bytes others) (rest more : List UInt8) :
    bytes ++ rest < others ++ more := by
  induction precedes with
  | here less => exact List.cons_lt_cons_iff.2 (.inl less)
  | later further inductionHypothesis =>
    exact List.cons_lt_cons_iff.2 (.inr ⟨rfl, inductionHypothesis⟩)

/-- One byte is compared, and if it is the same, so are the others. -/
theorem precedes_cons (upTo : low ≤ high) (small : high < 256)
    (further : low = high → Precedes bytes others) :
    Precedes (UInt8.ofNat low :: bytes) (UInt8.ofNat high :: others) := by
  rcases Nat.lt_or_eq_of_le upTo with less | rfl
  · apply Precedes.here
    rw [UInt8.lt_iff_toNat_lt, toNat_byte low (by omega), toNat_byte high small]
    exact less
  · exact .later (further rfl)

theorem precedes_first (less : low < high) (small : high < 256) :
    Precedes (UInt8.ofNat low :: bytes) (UInt8.ofNat high :: others) :=
  precedes_cons (Nat.le_of_lt less) small fun same => absurd same (Nat.ne_of_lt less)

/-- The bytes of a lower number come first. -/
theorem precedes_spell (less : number < other) (small : other < 0x110000) :
    Precedes (spell number) (spell other) := by
  unfold spell
  by_cases one : other ≤ 0x7F
  · rw [if_pos (by omega), if_pos one]
    exact precedes_first less (by omega)
  rw [if_neg one]
  by_cases two : other ≤ 0x7FF
  · rw [if_pos two]
    by_cases fewer : number ≤ 0x7F
    · rw [if_pos fewer]
      exact precedes_first (by omega) (by omega)
    · rw [if_neg fewer, if_pos (by omega)]
      apply precedes_cons (by omega) (by omega)
      intro same
      exact precedes_first (by omega) (by omega)
  rw [if_neg two]
  by_cases three : other ≤ 0xFFFF
  · rw [if_pos three]
    by_cases fewer : number ≤ 0x7FF
    · split
      · exact precedes_first (by omega) (by omega)
      · exact precedes_first (by omega) (by omega)
    · rw [if_neg (by omega), if_neg fewer, if_pos (by omega)]
      apply precedes_cons (by omega) (by omega)
      intro same
      apply precedes_cons (by omega) (by omega)
      intro sameSecond
      exact precedes_first (by omega) (by omega)
  rw [if_neg three]
  by_cases fewer : number ≤ 0xFFFF
  · split
    · exact precedes_first (by omega) (by omega)
    · split
      · exact precedes_first (by omega) (by omega)
      · exact precedes_first (by omega) (by omega)
  · rw [if_neg (by omega), if_neg (by omega), if_neg fewer]
    apply precedes_cons (by omega) (by omega)
    intro same
    apply precedes_cons (by omega) (by omega)
    intro sameSecond
    apply precedes_cons (by omega) (by omega)
    intro sameThird
    exact precedes_first (by omega) (by omega)

theorem precedes_utf8EncodeChar {one another : Char} (less : one < another) :
    Precedes (String.utf8EncodeChar one) (String.utf8EncodeChar another) := by
  have small : another.val.toNat < 0x110000 := by
    have valid := another.valid
    unfold UInt32.isValidChar Nat.isValidChar at valid
    omega
  rw [utf8EncodeChar_eq, utf8EncodeChar_eq]
  exact precedes_spell less small

theorem encode_lt_of_lt {text other : List Char} (less : text < other) :
    encode text < encode other := by
  induction text generalizing other with
  | nil =>
    cases other with
    | nil => exact absurd less (List.not_lt_nil [])
    | cons character other =>
      obtain ⟨lead, tail, spelled, -⟩ := formed_spell character.valid
      rw [encode, encode, List.flatMap_cons, utf8EncodeChar_eq, spelled]
      exact List.nil_lt_cons _ _
  | cons character text inductionHypothesis =>
    cases other with
    | nil => exact absurd less (List.not_lt_nil _)
    | cons another other =>
      rw [encode, encode, List.flatMap_cons, List.flatMap_cons]
      rcases List.cons_lt_cons_iff.1 less with first | ⟨rfl, rest⟩
      · exact (precedes_utf8EncodeChar first).append_lt _ _
      · exact List.append_left_lt (inductionHypothesis rest)

/-- Texts are compared as their bytes are. -/
theorem lt_iff_encodeString_lt (text other : String) :
    text < other ↔ encodeString text < encodeString other := by
  constructor
  · exact fun less => encode_lt_of_lt (String.lt_iff.1 less)
  · intro less
    rcases lt_trichotomy text other with below | rfl | above
    · exact below
    · exact absurd less (List.lt_irrefl _)
    · exact absurd less (List.lt_asymm (encode_lt_of_lt (String.lt_iff.1 above)))

end HubRelay.Text.Utf8
