import HubRelay.Proofs.Base64
import Mathlib.Algebra.Group.Nat.Defs

/-!
Contract: the text of a byte string is the standard one.

Owns: the bits of numbers, bytes and digits; the standard text of a byte string, told from its bits
alone; that this is the text that is written; that each byte string has only one; and the rules by
which a text is known to be the standard text of some byte string.

Does not own: reading texts.

The bits of a byte are cut where a group of digits cuts it, which is all the arithmetic there is.
After that a text is a row of bits, and rows of bits determine digits and bytes.
-/

namespace HubRelay.Base64

/-! ## The bits of a number -/

/-- The bits of a number, so many of them, the highest first. -/
def bits : Nat → Nat → List Bool
  | 0, _ => []
  | width + 1, value => value.testBit width :: bits width value

theorem length_bits (width value : Nat) : (bits width value).length = width := by
  induction width with
  | zero => rfl
  | succ width inductionHypothesis => rw [bits, List.length_cons, inductionHypothesis]

theorem bits_congr {width value other : Nat}
    (same : ∀ place < width, value.testBit place = other.testBit place) :
    bits width value = bits width other := by
  induction width with
  | zero => rfl
  | succ width inductionHypothesis =>
    rw [bits, bits, same width (Nat.lt_succ_self width),
      inductionHypothesis fun place below => same place (Nat.lt_succ_of_lt below)]

theorem testBit_of_bits {width value other : Nat} (same : bits width value = bits width other)
    {place : Nat} (below : place < width) : value.testBit place = other.testBit place := by
  induction width with
  | zero => exact absurd below (Nat.not_lt_zero place)
  | succ width inductionHypothesis =>
    obtain ⟨first, rest⟩ := List.cons.inj same
    rcases Nat.lt_succ_iff_lt_or_eq.1 below with earlier | rfl
    · exact inductionHypothesis rest earlier
    · exact first

/-- Different numbers have different bits, if there are enough of them. -/
theorem bits_injective {width value other : Nat} (small : value < 2 ^ width)
    (smallOther : other < 2 ^ width) (same : bits width value = bits width other) :
    value = other := by
  refine Nat.eq_of_testBit_eq fun place => ?_
  by_cases below : place < width
  · exact testBit_of_bits same below
  · have high : 2 ^ width ≤ 2 ^ place := Nat.pow_le_pow_right (by decide) (Nat.le_of_not_lt below)
    rw [Nat.testBit_lt_two_pow (Nat.lt_of_lt_of_le small high),
      Nat.testBit_lt_two_pow (Nat.lt_of_lt_of_le smallOther high)]

theorem bits_zero (width : Nat) : bits width 0 = List.replicate width false := by
  induction width with
  | zero => rfl
  | succ width inductionHypothesis =>
    rw [bits, inductionHypothesis, Nat.zero_testBit, List.replicate_succ]

theorem bits_mod (width value : Nat) : bits width (value % 2 ^ width) = bits width value := by
  refine bits_congr fun place below => ?_
  rw [Nat.testBit_mod_two_pow, decide_eq_true below, Bool.true_and]

/-- The bits of a number, cut in two. -/
theorem bits_cut (width more : Nat) {unit : Nat} (power : 2 ^ more = unit) (value : Nat) :
    bits (width + more) value = bits width (value / unit) ++ bits more (value % unit) := by
  subst power
  rw [bits_mod]
  induction width with
  | zero => rw [Nat.zero_add, bits, List.nil_append]
  | succ width inductionHypothesis =>
    rw [Nat.succ_add, bits, bits, inductionHypothesis, Nat.testBit_div_two_pow, List.cons_append]

/-- The bits of a number that is made of two parts. -/
theorem bits_parts (width more : Nat) {unit : Nat} (power : 2 ^ more = unit) (high : Nat)
    {low : Nat} (small : low < unit) :
    bits (width + more) (high * unit + low) = bits width high ++ bits more low := by
  have upper : (high * unit + low) / unit = high := by
    rw [Nat.mul_comm, Nat.mul_add_div (by omega), Nat.div_eq_of_lt small, Nat.add_zero]
  rw [bits_cut width more power, upper, Nat.mul_add_mod_self_right, Nat.mod_eq_of_lt small]

theorem bits_shifted (width more : Nat) {unit : Nat} (power : 2 ^ more = unit) (high : Nat) :
    bits (width + more) (high * unit) = bits width high ++ List.replicate more false := by
  have positive : 0 < unit := power ▸ Nat.two_pow_pos more
  rw [← bits_zero, ← bits_parts width more power high positive, Nat.add_zero]

/-- Every row of bits is that of a number. -/
theorem exists_bits (row : List Bool) : ∃ value < 2 ^ row.length, bits row.length value = row := by
  induction row with
  | nil => exact ⟨0, by decide, rfl⟩
  | cons bit row inductionHypothesis =>
    obtain ⟨value, small, same⟩ := inductionHypothesis
    have one := Nat.mul_le_mul_right (2 ^ row.length) bit.toNat_le
    refine ⟨bit.toNat * 2 ^ row.length + value, ?_, ?_⟩
    · rw [List.length_cons, Nat.pow_succ]
      omega
    · rw [List.length_cons, Nat.add_comm, bits_parts 1 row.length rfl bit.toNat small, same]
      cases bit <;> rfl

/-! ## The standard form -/

/-- The digits in the order of their values. -/
def alphabet : List Char :=
  "ABCDEFGHIJKLMNOPQRSTUVWXYZabcdefghijklmnopqrstuvwxyz0123456789+/".toList

/-- The bits that a row of digits stands for, six to a digit. -/
def digitBits (digits : List Char) : List Bool :=
  digits.flatMap fun digit => bits 6 (alphabet.idxOf digit)

/-- The bits of a row of digits that come after the last whole byte. -/
def unusedBits (digits : List Char) : List Bool :=
  (digitBits digits).drop (6 * digits.length / 8 * 8)

def byteBits (bytes : List UInt8) : List Bool :=
  bytes.flatMap fun byte => bits 8 byte.toNat

/-- The standard text of a byte string: digits that stand for its bits, with zeros up to the end of
the last digit, and padding up to four places. -/
inductive IsStandard (bytes : List UInt8) : List Char → Prop
  | mk (digits : List Char) (zeros padding : Nat) (known : ∀ digit ∈ digits, digit ∈ alphabet)
      (carries : digitBits digits = byteBits bytes ++ List.replicate zeros false) (few : zeros < 6)
      (fills : 4 ∣ digits.length + padding) (short : padding < 4) :
      IsStandard bytes (digits ++ List.replicate padding '=')

/-- A text that follows all rules of a standard one: it consists of digits and padding, in groups of
four, at most the last two of which are padding, and the bits after the last whole byte are zero. -/
inductive IsWellFormed : List Char → Prop
  | mk (digits : List Char) (padding : Nat) (known : ∀ digit ∈ digits, digit ∈ alphabet)
      (fills : 4 ∣ digits.length + padding) (short : padding ≤ 2)
      (unused : ∀ bit ∈ unusedBits digits, bit = false) :
      IsWellFormed (digits ++ List.replicate padding '=')

variable {value : Nat} {bytes : List UInt8} {digits text : List Char}

theorem length_flatMap_bits {α : Type} (width : Nat) (value : α → Nat) (entries : List α) :
    (entries.flatMap fun entry => bits width (value entry)).length = width * entries.length := by
  simp only [List.length_flatMap, length_bits, List.map_const', List.sum_replicate_nat,
    Nat.mul_comm]

theorem length_digitBits (digits : List Char) : (digitBits digits).length = 6 * digits.length :=
  length_flatMap_bits 6 _ digits

theorem length_byteBits (bytes : List UInt8) : (byteBits bytes).length = 8 * bytes.length :=
  length_flatMap_bits 8 _ bytes

/-- The place of a digit in the alphabet is its value. -/
theorem idxOf_digit (small : value < 64) : alphabet.idxOf (digit value) = value := by
  have all : ∀ value : Fin 64, alphabet.idxOf (digit value.val) = value.val := by decide +kernel
  exact all ⟨value, small⟩

theorem digit_mem_alphabet (small : value < 64) : digit value ∈ alphabet := by
  apply List.idxOf_lt_length_iff.1
  rw [idxOf_digit small]
  exact small

/-! ## The text of a byte string is standard -/

theorem digitBits_one (first : UInt8) :
    digitBits [digit (first.toNat / 4), digit (first.toNat % 4 * 16)] =
      byteBits [first] ++ List.replicate 4 false := by
  have small := first.toNat_lt
  have byte : bits 8 first.toNat = bits 6 (first.toNat / 4) ++ bits 2 (first.toNat % 4) :=
    bits_cut 6 2 rfl first.toNat
  have last : bits 6 (first.toNat % 4 * 16) = _ := bits_shifted 2 4 rfl (first.toNat % 4)
  simp only [digitBits, byteBits, List.flatMap_cons, List.flatMap_nil, List.append_nil]
  rw [idxOf_digit (by omega), idxOf_digit (by omega), byte, last, List.append_assoc]

theorem digitBits_two (first second : UInt8) :
    digitBits [digit (first.toNat / 4), digit (first.toNat % 4 * 16 + second.toNat / 16),
        digit (second.toNat % 16 * 4)] =
      byteBits [first, second] ++ List.replicate 2 false := by
  have small := first.toNat_lt
  have smallSecond := second.toNat_lt
  have byte : bits 8 first.toNat = bits 6 (first.toNat / 4) ++ bits 2 (first.toNat % 4) :=
    bits_cut 6 2 rfl first.toNat
  have next : bits 8 second.toNat = bits 4 (second.toNat / 16) ++ bits 4 (second.toNat % 16) :=
    bits_cut 4 4 rfl second.toNat
  have high : second.toNat / 16 < 16 := by omega
  have middle : bits 6 (first.toNat % 4 * 16 + second.toNat / 16) = _ :=
    bits_parts 2 4 rfl (first.toNat % 4) high
  have last : bits 6 (second.toNat % 16 * 4) = _ := bits_shifted 4 2 rfl (second.toNat % 16)
  simp only [digitBits, byteBits, List.flatMap_cons, List.flatMap_nil, List.append_nil]
  rw [idxOf_digit (by omega), idxOf_digit (by omega), idxOf_digit (by omega), byte, next, middle,
    last]
  simp only [List.append_assoc]

theorem digitBits_three (first second third : UInt8) :
    digitBits (encodeThree first.toNat second.toNat third.toNat) =
      byteBits [first, second, third] := by
  have small := first.toNat_lt
  have smallSecond := second.toNat_lt
  have smallThird := third.toNat_lt
  have byte : bits 8 first.toNat = bits 6 (first.toNat / 4) ++ bits 2 (first.toNat % 4) :=
    bits_cut 6 2 rfl first.toNat
  have next : bits 8 second.toNat = bits 4 (second.toNat / 16) ++ bits 4 (second.toNat % 16) :=
    bits_cut 4 4 rfl second.toNat
  have final : bits 8 third.toNat = bits 2 (third.toNat / 64) ++ bits 6 (third.toNat % 64) :=
    bits_cut 2 6 rfl third.toNat
  have high : second.toNat / 16 < 16 := by omega
  have highThird : third.toNat / 64 < 4 := by omega
  have middle : bits 6 (first.toNat % 4 * 16 + second.toNat / 16) = _ :=
    bits_parts 2 4 rfl (first.toNat % 4) high
  have last : bits 6 (second.toNat % 16 * 4 + third.toNat / 64) = _ :=
    bits_parts 4 2 rfl (second.toNat % 16) highThird
  simp only [encodeThree, digitBits, byteBits, List.flatMap_cons, List.flatMap_nil,
    List.append_nil]
  rw [idxOf_digit (by omega), idxOf_digit (by omega), idxOf_digit (by omega),
    idxOf_digit (by omega), byte, next, final, middle, last]
  simp only [List.append_assoc]

theorem digitBits_append (digits more : List Char) :
    digitBits (digits ++ more) = digitBits digits ++ digitBits more :=
  List.flatMap_append

theorem byteBits_append (bytes more : List UInt8) :
    byteBits (bytes ++ more) = byteBits bytes ++ byteBits more :=
  List.flatMap_append

theorem encodeThree_mem_alphabet (first second third : UInt8) :
    ∀ digit ∈ encodeThree first.toNat second.toNat third.toNat, digit ∈ alphabet := by
  have small := first.toNat_lt
  have smallSecond := second.toNat_lt
  have smallThird := third.toNat_lt
  simp only [encodeThree, List.forall_mem_cons]
  exact ⟨digit_mem_alphabet (by omega), digit_mem_alphabet (by omega),
    digit_mem_alphabet (by omega), digit_mem_alphabet (by omega), List.forall_mem_nil _⟩

/-- The text that is written for a byte string is the standard one. -/
theorem isStandard_encode (bytes : List UInt8) : IsStandard bytes (encode bytes) := by
  induction bytes using encode.induct with
  | case1 => exact .mk [] 0 0 (List.forall_mem_nil _) rfl (by decide) (by decide) (by decide)
  | case2 first =>
    have small := first.toNat_lt
    refine .mk _ 4 2 ?_ (digitBits_one first) (by decide) ⟨1, rfl⟩ (by decide)
    simp only [List.forall_mem_cons]
    exact ⟨digit_mem_alphabet (by omega), digit_mem_alphabet (by omega), List.forall_mem_nil _⟩
  | case3 first second =>
    have small := first.toNat_lt
    have smallSecond := second.toNat_lt
    refine .mk _ 2 1 ?_ (digitBits_two first second) (by decide) ⟨1, rfl⟩ (by decide)
    simp only [List.forall_mem_cons]
    exact ⟨digit_mem_alphabet (by omega), digit_mem_alphabet (by omega),
      digit_mem_alphabet (by omega), List.forall_mem_nil _⟩
  | case4 first second third rest inductionHypothesis =>
    rw [encode]
    generalize encode rest = text at inductionHypothesis
    obtain ⟨digits, zeros, padding, known, carries, few, fills, short⟩ := inductionHypothesis
    rw [← List.append_assoc]
    refine .mk _ zeros padding ?_ ?_ few ?_ short
    · exact List.forall_mem_append.2 ⟨encodeThree_mem_alphabet first second third, known⟩
    · rw [digitBits_append, digitBits_three, carries, ← List.append_assoc, ← byteBits_append]
      rfl
    · rw [encodeThree, List.length_append]
      simp only [List.length_cons, List.length_nil]
      omega

/-! ## It is the only one -/

theorem length_of_carries {zeros : Nat}
    (carries : digitBits digits = byteBits bytes ++ List.replicate zeros false) :
    6 * digits.length = 8 * bytes.length + zeros := by
  rw [← length_digitBits, carries, List.length_append, length_byteBits, List.length_replicate]

/-- Digits that stand for the same bits are the same. -/
theorem digitBits_injective {digits others : List Char} (known : ∀ digit ∈ digits, digit ∈ alphabet)
    (knownOthers : ∀ digit ∈ others, digit ∈ alphabet)
    (same : digitBits digits = digitBits others) : digits = others := by
  induction digits generalizing others with
  | nil =>
    have lengths := congrArg List.length same
    rw [length_digitBits, length_digitBits, List.length_nil] at lengths
    exact (List.length_eq_zero_iff.1 (by omega)).symm
  | cons digit digits inductionHypothesis =>
    cases others with
    | nil =>
      have lengths := congrArg List.length same
      rw [length_digitBits, length_digitBits, List.length_nil, List.length_cons] at lengths
      omega
    | cons other others =>
      have row : (bits 6 (alphabet.idxOf digit)).length =
          (bits 6 (alphabet.idxOf other)).length := by
        rw [length_bits, length_bits]
      obtain ⟨first, rest⟩ := List.append_inj same row
      have within {digit : Char} (among : digit ∈ alphabet) : alphabet.idxOf digit < 2 ^ 6 :=
        List.idxOf_lt_length_iff.2 among
      have knows := known digit List.mem_cons_self
      have knowsOther := knownOthers other List.mem_cons_self
      have place := bits_injective (within knows) (within knowsOther) first
      rw [(List.idxOf_inj knows).1 place, inductionHypothesis
        (fun digit among => known digit (List.mem_cons_of_mem _ among))
        (fun digit among => knownOthers digit (List.mem_cons_of_mem _ among)) rest]

/-- Every byte string has one standard text. -/
theorem IsStandard.unique {other : List Char} (standard : IsStandard bytes text)
    (standardOther : IsStandard bytes other) : text = other := by
  obtain ⟨digits, zeros, padding, known, carries, few, fills, short⟩ := standard
  obtain ⟨others, zerosOther, paddingOther, knownOthers, carriesOther, fewOther, fillsOther,
    shortOther⟩ := standardOther
  have lengths := length_of_carries carries
  have lengthsOther := length_of_carries carriesOther
  obtain rfl : zeros = zerosOther := by omega
  obtain rfl := digitBits_injective known knownOthers (carries.trans carriesOther.symm)
  obtain rfl : padding = paddingOther := by omega
  rfl

theorem isStandard_iff : IsStandard bytes text ↔ text = encode bytes := by
  constructor
  · exact fun standard => standard.unique (isStandard_encode bytes)
  · rintro rfl
    exact isStandard_encode bytes

/-! ## The rules of standard texts -/

/-- Every row of whole bytes is that of a byte string. -/
theorem exists_byteBits (count : Nat) (row : List Bool) (whole : row.length = count * 8) :
    ∃ bytes : List UInt8, byteBits bytes = row := by
  induction count generalizing row with
  | zero =>
    rw [Nat.zero_mul] at whole
    exact ⟨[], (List.length_eq_zero_iff.1 whole).symm⟩
  | succ count inductionHypothesis =>
    have front : (row.take 8).length = 8 := by rw [List.length_take]; omega
    have back : (row.drop 8).length = count * 8 := by rw [List.length_drop]; omega
    obtain ⟨value, small, first⟩ := exists_bits (row.take 8)
    obtain ⟨bytes, rest⟩ := inductionHypothesis (row.drop 8) back
    rw [front] at small first
    refine ⟨UInt8.ofNat value :: bytes, ?_⟩
    rw [byteBits, List.flatMap_cons, ← byteBits, Text.Utf8.toNat_byte value small, first, rest,
      List.take_append_drop]

/-- The standard texts are those that follow the rules. -/
theorem exists_isStandard_iff : (∃ bytes, IsStandard bytes text) ↔ IsWellFormed text := by
  constructor
  · rintro ⟨bytes, digits, zeros, padding, known, carries, few, fills, short⟩
    have lengths := length_of_carries carries
    refine .mk digits padding known fills (by omega) ?_
    have cut : 6 * digits.length / 8 * 8 = (byteBits bytes).length := by
      rw [length_byteBits]
      omega
    rw [unusedBits, carries, cut, List.drop_left]
    exact fun bit among => List.eq_of_mem_replicate among
  · rintro ⟨digits, padding, known, fills, short, unused⟩
    have length := length_digitBits digits
    have whole : ((digitBits digits).take (6 * digits.length / 8 * 8)).length =
        6 * digits.length / 8 * 8 := by
      rw [List.length_take]
      omega
    have rest : (unusedBits digits).length = 6 * digits.length - 6 * digits.length / 8 * 8 := by
      rw [unusedBits, List.length_drop, length]
    obtain ⟨bytes, same⟩ := exists_byteBits _ _ whole
    have few : (unusedBits digits).length < 6 := by
      rcases (by omega : padding = 0 ∨ padding = 1 ∨ padding = 2) with rfl | rfl | rfl <;> omega
    refine ⟨bytes, .mk digits _ padding known ?_ few fills (by omega)⟩
    rw [same, ← List.eq_replicate_of_mem unused, unusedBits, List.take_append_drop]

end HubRelay.Base64
