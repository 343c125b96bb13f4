import HubRelay.Base64
import HubRelay.Proofs.Utf8

/-!
Contract: byte strings come back from their text.

Owns: that digits stand for their values, that the text of a byte string decodes to it, and that
nothing else decodes to it.

Does not own: that the text is the standard one.
-/

namespace HubRelay.Base64

open Text.Utf8 (ofNat_eq toNat_byte)

variable {value : Nat} {one two three four : Char} {bytes : List UInt8} {text : List Char}

/-- The digit of six bits has their value. -/
theorem value?_digit (small : value < 64) : value? (digit value) = some value := by
  have all : ∀ value : Fin 64, value? (digit value.val) = some value.val := by decide
  exact all ⟨value, small⟩

/-- No digit is the padding. -/
theorem digit_ne_padding (small : value < 64) : digit value ≠ '=' := by
  have all : ∀ value : Fin 64, digit value.val ≠ '=' := by decide
  exact all ⟨value, small⟩

/-- The digits of a group stand for its bytes. -/
theorem decodeOne_digits (first : UInt8) :
    decodeOne (digit (first.toNat / 4)) (digit (first.toNat % 4 * 16)) = some [first] := by
  have one := first.toNat_lt
  rw [decodeOne, value?_digit (by omega), value?_digit (by omega)]
  simp only [Option.bind_eq_bind, Option.bind_some]
  rw [if_pos (by omega), ofNat_eq first (by omega)]

theorem decodeTwo_digits (first second : UInt8) :
    decodeTwo (digit (first.toNat / 4)) (digit (first.toNat % 4 * 16 + second.toNat / 16))
      (digit (second.toNat % 16 * 4)) = some [first, second] := by
  have one := first.toNat_lt
  have two := second.toNat_lt
  rw [decodeTwo, value?_digit (by omega), value?_digit (by omega), value?_digit (by omega)]
  simp only [Option.bind_eq_bind, Option.bind_some]
  rw [if_pos (by omega), ofNat_eq first (by omega), ofNat_eq second (by omega)]

theorem decodeThree_digits (first second third : UInt8) :
    decodeThree (digit (first.toNat / 4)) (digit (first.toNat % 4 * 16 + second.toNat / 16))
      (digit (second.toNat % 16 * 4 + third.toNat / 64)) (digit (third.toNat % 64)) =
        some [first, second, third] := by
  have one := first.toNat_lt
  have two := second.toNat_lt
  have three := third.toNat_lt
  rw [decodeThree, value?_digit (by omega), value?_digit (by omega), value?_digit (by omega),
    value?_digit (by omega)]
  simp only [Option.bind_eq_bind, Option.bind_some]
  rw [ofNat_eq first (by omega), ofNat_eq second (by omega), ofNat_eq third (by omega)]

/-- A group whose third place is no padding is not one of a single byte. -/
theorem decode_two (one two : Char) {three : Char} (unpadded : three ≠ '=') :
    decode [one, two, three, '='] = decodeTwo one two three := by
  rw [decode]
  exact fun same => absurd same unpadded

/-- A group whose last place is no padding is one of three bytes. -/
theorem decode_three (one two three : Char) {four : Char} (rest : List Char)
    (unpadded : four ≠ '=') : decode (one :: two :: three :: four :: rest) =
      (decodeThree one two three four).bind fun group =>
        (decode rest).bind fun bytes => some (group ++ bytes) := by
  rw [decode]
  · rfl
  · exact fun _ same => absurd same unpadded
  · exact fun same => absurd same unpadded

/-- Every byte string comes back from its text. -/
theorem decode_encode (bytes : List UInt8) : decode (encode bytes) = some bytes := by
  induction bytes using encode.induct with
  | case1 => rfl
  | case2 first => exact decodeOne_digits first
  | case3 first second =>
    have two := second.toNat_lt
    rw [encode, decode_two _ _ (digit_ne_padding (by omega)), decodeTwo_digits]
  | case4 first second third rest inductionHypothesis =>
    have three := third.toNat_lt
    rw [encode, encodeThree, List.cons_append, List.cons_append, List.cons_append, List.cons_append,
      List.nil_append, decode_three _ _ _ _ (digit_ne_padding (by omega)), decodeThree_digits,
      inductionHypothesis]
    rfl

/-! ## Only what was written is read -/

theorem le_iff_toNat_le {low high : Char} : low ≤ high ↔ low.toNat ≤ high.toNat :=
  Char.le_def.trans UInt32.le_iff_toNat_le

/-- Only the digit of a value has the value. -/
theorem digit_of_value? {character : Char} (read : value? character = some value) :
    value < 64 ∧ digit value = character := by
  -- a digit of a range is found by counting from the first one
  have counted {first last : Char} (range : first ≤ character ∧ character ≤ last) :
      character.toNat - first.toNat ≤ last.toNat - first.toNat ∧
        Char.ofNat (first.toNat + (character.toNat - first.toNat)) = character := by
    have low := le_iff_toNat_le.1 range.1
    have high := le_iff_toNat_le.1 range.2
    refine ⟨by omega, ?_⟩
    rw [Nat.add_sub_cancel' low, Char.ofNat_toNat]
  unfold value? at read
  split at read
  · next capital =>
    obtain rfl := Option.some.inj read
    obtain ⟨few, same⟩ := counted capital
    simp only [Char.reduceToNat] at few
    refine ⟨by simp only [Char.reduceToNat]; omega, ?_⟩
    rw [digit, if_pos (by simp only [Char.reduceToNat]; omega), same]
  · split at read
    · next small =>
      obtain rfl := Option.some.inj read
      obtain ⟨few, same⟩ := counted small
      simp only [Char.reduceToNat] at few
      refine ⟨by simp only [Char.reduceToNat]; omega, ?_⟩
      rw [digit, if_neg (by omega), if_pos (by simp only [Char.reduceToNat]; omega),
        Nat.add_sub_cancel, same]
    · split at read
      · next decimal =>
        obtain rfl := Option.some.inj read
        obtain ⟨few, same⟩ := counted decimal
        simp only [Char.reduceToNat] at few
        refine ⟨by simp only [Char.reduceToNat]; omega, ?_⟩
        rw [digit, if_neg (by omega), if_neg (by omega),
          if_pos (by simp only [Char.reduceToNat]; omega), Nat.add_sub_cancel, same]
      · split at read
        · next plus =>
          obtain rfl := Option.some.inj read
          exact ⟨by decide, plus.symm⟩
        · split at read
          · next slash =>
            obtain rfl := Option.some.inj read
            exact ⟨by decide, slash.symm⟩
          · contradiction

theorem decodeOne_eq_some (read : decodeOne one two = some bytes) :
    ∃ first : UInt8, bytes = [first] ∧
      [one, two] = [digit (first.toNat / 4), digit (first.toNat % 4 * 16)] := by
  simp only [decodeOne, Option.bind_eq_bind, Option.bind_eq_some_iff] at read
  obtain ⟨a, readOne, b, readTwo, read⟩ := read
  obtain ⟨smallOne, rfl⟩ := digit_of_value? readOne
  obtain ⟨smallTwo, rfl⟩ := digit_of_value? readTwo
  split at read
  · refine ⟨_, (Option.some.inj read).symm, ?_⟩
    rw [toNat_byte _ (by omega), show (a * 4 + b / 16) / 4 = a by omega,
      show (a * 4 + b / 16) % 4 * 16 = b by omega]
  · contradiction

theorem decodeTwo_eq_some (read : decodeTwo one two three = some bytes) :
    ∃ first second : UInt8, bytes = [first, second] ∧
      [one, two, three] = [digit (first.toNat / 4),
        digit (first.toNat % 4 * 16 + second.toNat / 16), digit (second.toNat % 16 * 4)] := by
  simp only [decodeTwo, Option.bind_eq_bind, Option.bind_eq_some_iff] at read
  obtain ⟨a, readOne, b, readTwo, c, readThree, read⟩ := read
  obtain ⟨smallOne, rfl⟩ := digit_of_value? readOne
  obtain ⟨smallTwo, rfl⟩ := digit_of_value? readTwo
  obtain ⟨smallThree, rfl⟩ := digit_of_value? readThree
  split at read
  · refine ⟨_, _, (Option.some.inj read).symm, ?_⟩
    rw [toNat_byte _ (by omega), toNat_byte _ (by omega),
      show (a * 4 + b / 16) / 4 = a by omega,
      show (a * 4 + b / 16) % 4 * 16 + (b % 16 * 16 + c / 4) / 16 = b by omega,
      show (b % 16 * 16 + c / 4) % 16 * 4 = c by omega]
  · contradiction

theorem decodeThree_eq_some (read : decodeThree one two three four = some bytes) :
    ∃ first second third : UInt8, bytes = [first, second, third] ∧
      [one, two, three, four] = encodeThree first.toNat second.toNat third.toNat := by
  simp only [decodeThree, Option.bind_eq_bind, Option.bind_eq_some_iff] at read
  obtain ⟨a, readOne, b, readTwo, c, readThree, d, readFour, read⟩ := read
  obtain ⟨smallOne, rfl⟩ := digit_of_value? readOne
  obtain ⟨smallTwo, rfl⟩ := digit_of_value? readTwo
  obtain ⟨smallThree, rfl⟩ := digit_of_value? readThree
  obtain ⟨smallFour, rfl⟩ := digit_of_value? readFour
  refine ⟨_, _, _, (Option.some.inj read).symm, ?_⟩
  rw [encodeThree, toNat_byte _ (by omega), toNat_byte _ (by omega), toNat_byte _ (by omega),
    show (a * 4 + b / 16) / 4 = a by omega,
    show (a * 4 + b / 16) % 4 * 16 + (b % 16 * 16 + c / 4) / 16 = b by omega,
    show (b % 16 * 16 + c / 4) % 16 * 4 + (c % 4 * 64 + d) / 64 = c by omega,
    show (c % 4 * 64 + d) % 64 = d by omega]

/-- Nothing but the text of a byte string decodes to it. -/
theorem encode_of_decode (decoded : decode text = some bytes) : encode bytes = text := by
  induction text using decode.induct generalizing bytes with
  | case1 =>
    obtain rfl := Option.some.inj decoded
    rfl
  | case2 one two =>
    obtain ⟨first, rfl, same⟩ := decodeOne_eq_some decoded
    exact congrArg (· ++ ['=', '=']) same.symm
  | case3 one two three unpadded =>
    rw [decode_two one two unpadded] at decoded
    obtain ⟨first, second, rfl, same⟩ := decodeTwo_eq_some decoded
    exact congrArg (· ++ ['=']) same.symm
  | case4 one two three four rest notOne notTwo inductionHypothesis =>
    rw [decode.eq_4 one two three four rest notOne notTwo] at decoded
    simp only [Option.bind_eq_bind, Option.bind_eq_some_iff] at decoded
    obtain ⟨group, groupDecoded, others, restDecoded, same⟩ := decoded
    obtain ⟨first, second, third, rfl, digits⟩ := decodeThree_eq_some groupDecoded
    obtain rfl := Option.some.inj same
    rw [List.cons_append, List.cons_append, List.cons_append, List.nil_append, encode,
      ← digits, inductionHypothesis restDecoded]
    rfl
  | case5 text notEmpty notOne notTwo notThree =>
    rw [decode.eq_5 text notEmpty notOne notTwo notThree] at decoded
    contradiction

/-- The text of a byte string decodes to it, and nothing else does. -/
theorem decode_eq_some_iff : decode text = some bytes ↔ text = encode bytes := by
  constructor
  · exact fun decoded => (encode_of_decode decoded).symm
  · rintro rfl
    exact decode_encode bytes

end HubRelay.Base64
