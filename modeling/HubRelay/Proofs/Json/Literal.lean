import HubRelay.Json.Literal
import HubRelay.Json.Printer

/-!
Contract: the parts of strings and integers are read back as they are written.

Owns: what a character that stands for itself and one that is escaped by a letter add to a string;
that every integer comes back from the values of its digits; and where a number ends.

Does not own: which texts spell strings and numbers.

The digits of an integer are read from the first one on, while the number is cut at the last one; so
what is known of a number is known of the number without its last digit first.
-/

namespace HubRelay.Json

/-! ## Strings -/

namespace StringReader

/-- A reader that has met nothing but characters that count, the latest first. -/
def after (characters : List Char) : StringReader :=
  ⟨characters, true, none, .plain⟩

variable {characters rest : List Char} {character : Char}

/-- A letter after a backslash. -/
theorem run_letter {letter : Char} (meant : escaped? letter = some character)
    (noUnit : letter ≠ 'u') :
    (after characters).run ('\\' :: letter :: rest) =
      (after (character :: characters)).run rest := by
  rw [run, after]
  simp only [if_neg (show '\\' ≠ '"' by decide), if_pos]
  rw [run]
  simp only [if_neg noUnit, meant]
  rfl

theorem run_plain (noQuote : character ≠ '"') (noEscape : character ≠ '\\')
    (printable : ¬ character.toNat < 0x20) :
    (after characters).run (character :: rest) = (after (character :: characters)).run rest := by
  rw [run, after]
  simp only [if_neg noQuote, if_neg noEscape, if_neg printable]
  rfl

end StringReader

/-! ## Integers -/

/-- The values of the digits of a number. -/
def valuesOf (number : Nat) : List Nat :=
  (Decimal.digitsOf number).filterMap digitValue?

theorem digitValue?_digitChar {value : Nat} (small : value < 10) :
    digitValue? value.digitChar = some value := by
  have all : ∀ value : Fin 10, digitValue? value.val.digitChar = some value.val := by decide
  exact all ⟨value, small⟩

theorem valuesOf_of_lt {number : Nat} (small : number < 10) : valuesOf number = [number] := by
  rw [valuesOf, Decimal.digitsOf, Nat.toDigits_of_lt_base small]
  simp [digitValue?_digitChar small]

theorem valuesOf_of_le {number : Nat} (large : 10 ≤ number) :
    valuesOf number = valuesOf (number / 10) ++ [number % 10] := by
  rw [valuesOf, Decimal.digitsOf, Nat.toDigits_of_base_le (by decide) large, List.filterMap_append]
  simp [digitValue?_digitChar (Nat.mod_lt number (show 0 < 10 by decide)), valuesOf,
    Decimal.digitsOf]

/-- No number but zero starts with the digit zero. -/
theorem valuesOf_pos (number : Nat) (positive : 0 < number) :
    ∃ first rest, valuesOf number = first :: rest ∧ 0 < first := by
  induction number using Nat.strongRecOn with
  | ind number inductionHypothesis =>
    rcases Nat.lt_or_ge number 10 with small | large
    · exact ⟨number, [], valuesOf_of_lt small, positive⟩
    · obtain ⟨first, rest, found, above⟩ := inductionHypothesis (number / 10) (by omega) (by omega)
      exact ⟨first, rest ++ [number % 10], by rw [valuesOf_of_le large, found]; rfl, above⟩

namespace NumberSpelling

theorem addWhole_concat {significand number digit : Nat} {digits : List Nat}
    (read : addWhole significand digits = (number, 0))
    (fits : number * 10 + digit < 0x10000000000000000) :
    addWhole significand (digits ++ [digit]) = (number * 10 + digit, 0) := by
  induction digits generalizing significand with
  | nil =>
    obtain rfl : significand = number := congrArg Prod.fst read
    rw [List.nil_append, addWhole, if_pos fits, addWhole]
  | cons head digits inductionHypothesis =>
    rw [addWhole] at read
    split at read
    · next below =>
      rw [List.cons_append, addWhole, if_pos below]
      exact inductionHypothesis read
    · exact absurd (congrArg Prod.snd read) (Nat.succ_ne_zero _)

/-- A number that fits 64 bits comes back from the values of its digits. -/
theorem addWhole_valuesOf (number : Nat) (fits : number < 0x10000000000000000) :
    addWhole 0 (valuesOf number) = (number, 0) := by
  induction number using Nat.strongRecOn with
  | ind number inductionHypothesis =>
    rcases Nat.lt_or_ge number 10 with small | large
    · rw [valuesOf_of_lt small, addWhole, if_pos (by omega), addWhole, Nat.zero_mul, Nat.zero_add]
    · have whole : number / 10 * 10 + number % 10 = number := by omega
      have read := inductionHypothesis (number / 10) (by omega) (by omega)
      rw [valuesOf_of_le large, addWhole_concat read (by omega), whole]

/-- An integer comes back from its sign and its significand. -/
theorem integer_eq {value : Int}
    (inRange : -0x8000000000000000 ≤ value ∧ value < 0x10000000000000000) :
    integer (decide (value < 0)) value.natAbs = some (.integer value inRange) := by
  unfold integer
  split
  · next negative =>
    have below := of_decide_eq_true negative
    rw [dif_pos (by omega)]
    congr 2
    omega
  · next positive =>
    have above : ¬ value < 0 := by simpa using positive
    rw [Number.ofNat?, dif_pos (by omega)]
    congr 2
    omega

end NumberSpelling

/-- Whether nothing that a number could go on with stands in front of a text. -/
def EndsNumber (text : List Char) : Prop :=
  ∀ character ∈ text.head?,
    character.isDigit = false ∧ character ≠ '.' ∧ character ≠ 'e' ∧ character ≠ 'E'

theorem isDigit_of_mem_digitsOf {number : Nat} {character : Char}
    (member : character ∈ Decimal.digitsOf number) : character.isDigit = true :=
  Nat.isDigit_of_mem_toDigits (by decide) (by decide) member

theorem takeExponent_of_ends {rest : List Char} (ends : EndsNumber rest) :
    takeExponent rest = some (none, rest) := by
  cases rest with
  | nil => rfl
  | cons character rest =>
    obtain ⟨-, -, noSmall, noLarge⟩ := ends character rfl
    unfold takeExponent
    exact if_neg (not_or.2 ⟨noSmall, noLarge⟩)

theorem number?_valuesOf (negative : Bool) {number : Nat} (fits : number < 0x10000000000000000) :
    NumberSpelling.number? ⟨negative, valuesOf number, [], none⟩ =
      NumberSpelling.integer negative number := by
  simp only [NumberSpelling.number?, NumberSpelling.addWhole_valuesOf number fits]
  exact if_pos (by decide)

end HubRelay.Json
