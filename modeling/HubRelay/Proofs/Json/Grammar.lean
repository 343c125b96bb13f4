import HubRelay.Proofs.Json.Literal
import HubRelay.Proofs.Json.Values

/-!
Contract: every text of JSON is read as the value that it spells.

Owns: which texts spell a string, a number and a value, with blanks wherever they may stand, every
escape and every layout of numbers; that such a text is read as the tree of its value; and that
what is printed is such a text.

Does not own: what is read from texts that spell nothing.

The grammar says nothing about how a text is read.  The induction is on the value, and its cases are
those of the grammar.  A text that spells a number must not go on with what could belong to the
number, and nothing that may stand behind a value does.
-/

namespace HubRelay.Json

open Document

/-! ## Strings -/

/-- A text between quotes spells some characters: each of them stands for itself, or is escaped by
a letter, by its code unit, or by a pair of surrogates. -/
inductive SpellsText : List Char → List Char → Prop
  | nil : SpellsText [] []
  | plain {character : Char} {body meant : List Char} (noQuote : character ≠ '"')
      (noEscape : character ≠ '\\') (printable : ¬ character.toNat < 0x20)
      (later : SpellsText body meant) : SpellsText (character :: body) (character :: meant)
  | letter {letter character : Char} {body meant : List Char}
      (means : StringReader.escaped? letter = some character) (later : SpellsText body meant) :
      SpellsText ('\\' :: letter :: body) (character :: meant)
  | unit {one two three four : Char} {unit : Nat} {body meant : List Char}
      (digits : Text.Hex.number? [one, two, three, four] = some unit)
      (noFirst : StringReader.isFirstHalf unit = false)
      (noSecond : StringReader.isSecondHalf unit = false) (later : SpellsText body meant) :
      SpellsText ('\\' :: 'u' :: one :: two :: three :: four :: body) (Char.ofNat unit :: meant)
  | pair {one two three four five six seven eight : Char} {first second : Nat}
      {body meant : List Char} (digits : Text.Hex.number? [one, two, three, four] = some first)
      (moreDigits : Text.Hex.number? [five, six, seven, eight] = some second)
      (isFirst : StringReader.isFirstHalf first = true)
      (isSecond : StringReader.isSecondHalf second = true) (later : SpellsText body meant) :
      SpellsText ('\\' :: 'u' :: one :: two :: three :: four :: '\\' :: 'u' :: five :: six ::
        seven :: eight :: body) (StringReader.pairCharacter first second :: meant)

namespace StringReader

variable {characters rest : List Char} {half : Option Nat}

/-- A digit of a code unit, but for the last one. -/
theorem run_digit {digits value digit : Nat} {character : Char}
    (means : Text.Hex.value? character = some digit) (more : digits ≠ 3) :
    run ⟨characters, true, half, .unit digits value⟩ (character :: rest) =
      run ⟨characters, true, half, .unit (digits + 1) (value * 16 + digit)⟩ rest := by
  rw [run]
  simp only [means, if_neg more]

theorem run_lastDigit {value digit : Nat} {character : Char}
    (means : Text.Hex.value? character = some digit) :
    run ⟨characters, true, half, .unit 3 value⟩ (character :: rest) =
      run (addUnit ⟨characters, true, half, .plain⟩ (value * 16 + digit)) rest := by
  rw [run]
  simp only [means, if_pos]
  cases half <;> rfl

/-- The digits of a code unit are read after the letter that announces them. -/
theorem run_digits {one two three four : Char} {unit : Nat}
    (digits : Text.Hex.number? [one, two, three, four] = some unit) :
    run ⟨characters, true, half, .plain⟩ ('\\' :: 'u' :: one :: two :: three :: four :: rest) =
      run (addUnit ⟨characters, true, half, .plain⟩ unit) rest := by
  simp only [Text.Hex.number?, List.foldlM_cons, List.foldlM_nil, Option.bind_eq_bind,
    Option.bind_eq_some_iff, Option.map_eq_some_iff, Option.pure_def] at digits
  obtain ⟨_, ⟨first, readFirst, rfl⟩, _, ⟨second, readSecond, rfl⟩, _, ⟨third, readThird, rfl⟩, _,
    ⟨fourth, readFourth, rfl⟩, same⟩ := digits
  obtain rfl := Option.some.inj same
  rw [run]
  simp only [if_neg (show '\\' ≠ '"' by decide), if_pos]
  rw [run]
  simp only [if_pos]
  rw [run_digit readFirst (by decide), run_digit readSecond (by decide),
    run_digit readThird (by decide), run_lastDigit readFourth]

/-- Every text comes back from what spells it, up to the closing quote. -/
theorem run_spelled {body meant : List Char} (spelled : SpellsText body meant) :
    ∀ characters, (after characters).run (body ++ '"' :: rest) =
      some (.text (String.ofList (characters.reverse ++ meant)), rest) := by
  induction spelled with
  | nil =>
    intro characters
    rw [List.nil_append, run, after]
    simp only [if_pos, finish, Option.isNone_none, Bool.and_true, List.append_nil]
  | @plain character body meant noQuote noEscape printable later inductionHypothesis =>
    intro characters
    rw [List.cons_append, run_plain noQuote noEscape printable, inductionHypothesis,
      List.reverse_cons, List.append_assoc]
    rfl
  | @letter letter character body meant means later inductionHypothesis =>
    intro characters
    have noUnit : letter ≠ 'u' := by
      rintro rfl
      contradiction
    rw [List.cons_append, List.cons_append, run_letter means noUnit, inductionHypothesis,
      List.reverse_cons, List.append_assoc]
    rfl
  | @unit one two three four unit body meant digits noFirst noSecond later inductionHypothesis =>
    intro characters
    have read := inductionHypothesis (Char.ofNat unit :: characters)
    simp only [List.cons_append]
    rw [after, run_digits digits, addUnit]
    simp only [noFirst, noSecond]
    rw [List.reverse_cons, List.append_assoc] at read
    exact read
  | @pair one two three four five six seven eight first second body meant digits moreDigits isFirst
      isSecond later inductionHypothesis =>
    intro characters
    have read := inductionHypothesis (pairCharacter first second :: characters)
    simp only [List.cons_append]
    rw [after, run_digits digits, addUnit]
    simp only [isFirst, if_true]
    rw [run_digits moreDigits, addUnit]
    simp only [isSecond, if_true]
    rw [List.reverse_cons, List.append_assoc] at read
    exact read

end StringReader

theorem takeString_spelled {body : List Char} {text : String}
    (spelled : SpellsText body text.toList) (rest : List Char) :
    takeString (body ++ '"' :: rest) = some (.text text, rest) := by
  have read := @StringReader.run_spelled rest _ _ spelled []
  rwa [List.reverse_nil, List.nil_append, String.ofList_toList] at read

/-! ## Numbers -/

/-- One digit or more. -/
structure Digits (text : List Char) : Prop where
  some : text ≠ []
  all : ∀ character ∈ text, character.isDigit = true

/-- The values of digits. -/
def digitValues (text : List Char) : List Nat :=
  text.filterMap digitValue?

/-- A point with the digits after it, or nothing. -/
inductive SpellsFraction : List Nat → List Char → Prop
  | none : SpellsFraction [] []
  | some {digits : List Char} (digit : Digits digits) :
      SpellsFraction (digitValues digits) ('.' :: digits)

/-- The sign of an exponent, which is below zero after a minus only. -/
inductive SpellsSign : Bool → List Char → Prop
  | none : SpellsSign false []
  | plus : SpellsSign false ['+']
  | minus : SpellsSign true ['-']

/-- A mark with the signed exponent after it, or nothing. -/
inductive SpellsExponent : Option (Bool × List Nat) → List Char → Prop
  | none : SpellsExponent none []
  | some {mark : Char} {below : Bool} {sign digits : List Char} (marks : mark = 'e' ∨ mark = 'E')
      (signed : SpellsSign below sign) (digit : Digits digits) :
      SpellsExponent (some (below, digitValues digits)) (mark :: (sign ++ digits))

/-- A text spells a number in parts; no zero stands in front of other digits of the whole part. -/
inductive SpellsNumber : NumberSpelling → List Char → Prop
  | mk {negative : Bool} {whole fractionText exponentText : List Char} {fraction : List Nat}
      {exponent : Option (Bool × List Nat)} (digit : Digits whole)
      (noZero : whole = ['0'] ∨ whole.head? ≠ some '0')
      (fractioned : SpellsFraction fraction fractionText)
      (raised : SpellsExponent exponent exponentText) :
      SpellsNumber ⟨negative, digitValues whole, fraction, exponent⟩
        ((if negative then ['-'] else []) ++ (whole ++ (fractionText ++ exponentText)))

theorem digitValue?_of_isDigit {character : Char} (digit : character.isDigit = true) :
    digitValue? character = some (character.toNat - '0'.toNat) := by
  rw [Char.isDigit, Bool.and_eq_true] at digit
  rw [digitValue?, if_pos]
  exact ⟨of_decide_eq_true digit.1, of_decide_eq_true digit.2⟩

theorem takeDigits_append {digits rest : List Char}
    (all : ∀ character ∈ digits, character.isDigit = true)
    (ends : ∀ character ∈ rest.head?, character.isDigit = false) :
    takeDigits (digits ++ rest) = (digitValues digits, rest) := by
  have none : rest.takeWhile Char.isDigit = [] ∧ rest.dropWhile Char.isDigit = rest := by
    cases rest with
    | nil => exact ⟨rfl, rfl⟩
    | cons character rest =>
      have noDigit := ends character rfl
      simp [List.takeWhile, List.dropWhile, noDigit]
  rw [takeDigits, List.takeWhile_append_of_pos all, List.dropWhile_append_of_pos all, none.1,
    none.2, List.append_nil, digitValues]

theorem Digits.values {digits : List Char} (digit : Digits digits) :
    ∃ character more, digits = character :: more ∧
      digitValues digits = (character.toNat - '0'.toNat) :: digitValues more := by
  obtain ⟨character, more, rfl⟩ := List.exists_cons_of_ne_nil digit.some
  refine ⟨character, more, rfl, ?_⟩
  rw [digitValues, List.filterMap_cons_some
    (digitValue?_of_isDigit (digit.all character List.mem_cons_self))]
  rfl

theorem takeDigitsPlus_append {digits rest : List Char} (digit : Digits digits)
    (ends : ∀ character ∈ rest.head?, character.isDigit = false) :
    takeDigitsPlus (digits ++ rest) = some (digitValues digits, rest) := by
  obtain ⟨character, more, -, values⟩ := digit.values
  rw [takeDigitsPlus, takeDigits_append digit.all ends, values]

/-- A digit other than zero has another value than zero. -/
theorem digit_pos {character : Char} (digit : character.isDigit = true)
    (different : character ≠ '0') : character.toNat - '0'.toNat ≠ 0 := by
  intro zero
  rw [Char.isDigit, Bool.and_eq_true] at digit
  have least : '0'.toNat ≤ character.toNat := of_decide_eq_true digit.1
  refine different (Char.ext (UInt32.toNat_inj.1 ?_))
  show character.toNat = '0'.toNat
  omega

theorem takeWhole_append {whole rest : List Char} (digit : Digits whole)
    (noZero : whole = ['0'] ∨ whole.head? ≠ some '0')
    (ends : ∀ character ∈ rest.head?, character.isDigit = false) :
    takeWhole (whole ++ rest) = some (digitValues whole, rest) := by
  rw [takeWhole, takeDigits_append digit.all ends]
  rcases noZero with rfl | noZero
  · rfl
  · obtain ⟨character, more, rfl, values⟩ := digit.values
    have positive := digit_pos (digit.all character List.mem_cons_self)
      fun same => noZero (congrArg some same)
    rw [values]
    cases first : character.toNat - '0'.toNat with
    | zero => exact absurd first positive
    | succ number => rfl

theorem takeFraction_append {fraction : List Nat} {text rest : List Char}
    (spelled : SpellsFraction fraction text)
    (ends : ∀ character ∈ rest.head?, character.isDigit = false ∧ character ≠ '.') :
    takeFraction (text ++ rest) = some (fraction, rest) := by
  cases spelled with
  | none =>
    rw [List.nil_append]
    cases rest with
    | nil => rfl
    | cons character rest =>
      rw [takeFraction]
      rintro _ same
      exact (ends character rfl).2 (List.cons.inj same).1
  | some digit => exact takeDigitsPlus_append digit fun character first => (ends character first).1

theorem takeExponent_append {exponent : Option (Bool × List Nat)} {text rest : List Char}
    (spelled : SpellsExponent exponent text) (ends : EndsNumber rest) :
    takeExponent (text ++ rest) = some (exponent, rest) := by
  cases spelled with
  | none => exact takeExponent_of_ends ends
  | @some mark below sign digits marks signed digit =>
    have taken := takeDigitsPlus_append digit fun character first => (ends character first).1
    rw [List.cons_append, List.append_assoc]
    unfold takeExponent
    simp only [if_pos marks]
    cases signed with
    | none =>
      -- the first digit is no sign
      obtain ⟨character, more, rfl, -⟩ := digit.values
      have isDigit := digit.all character List.mem_cons_self
      rw [List.nil_append, List.cons_append]
      rw [List.cons_append] at taken
      split
      · next same =>
        rw [(List.cons.inj same).1] at isDigit
        contradiction
      · next same =>
        rw [(List.cons.inj same).1] at isDigit
        contradiction
      · rw [taken]
        rfl
    | plus =>
      show (takeDigitsPlus (digits ++ rest)).map _ = _
      rw [taken]
      rfl
    | minus =>
      show (takeDigitsPlus (digits ++ rest)).map _ = _
      rw [taken]
      rfl

/-- What may stand behind the whole part is no digit, and behind the fraction no point either. -/
theorem ends_of_spellsExponent {exponent : Option (Bool × List Nat)} {text rest : List Char}
    (spelled : SpellsExponent exponent text) (ends : EndsNumber rest) :
    ∀ character ∈ (text ++ rest).head?, character.isDigit = false ∧ character ≠ '.' := by
  cases spelled with
  | none => exact fun character first => ⟨(ends character first).1, (ends character first).2.1⟩
  | some marks =>
    intro character first
    obtain rfl := Option.some.inj first
    rcases marks with rfl | rfl <;> decide

theorem ends_of_spellsFraction {fraction : List Nat} {text rest : List Char}
    (spelled : SpellsFraction fraction text)
    (ends : ∀ character ∈ rest.head?, character.isDigit = false) :
    ∀ character ∈ (text ++ rest).head?, character.isDigit = false := by
  cases spelled with
  | none => exact ends
  | some =>
    intro character first
    obtain rfl := Option.some.inj first
    decide

/-- Every number comes back from what spells it, in its parts. -/
theorem takeNumber_spelled {spelling : NumberSpelling} {text rest : List Char}
    (spelled : SpellsNumber spelling text) (ends : EndsNumber rest) :
    takeNumber (text ++ rest) = some (spelling, rest) := by
  cases spelled with
  | @mk negative whole fractionText exponentText fraction exponent digit noZero fractioned raised =>
    have fractionEnds := ends_of_spellsExponent raised ends
    have wholeEnds := ends_of_spellsFraction fractioned fun character first =>
      (fractionEnds character first).1
    have parts := takeWhole_append digit noZero wholeEnds
    have fractionTaken := takeFraction_append fractioned fractionEnds
    have exponentTaken := takeExponent_append raised ends
    have unsigned : ∀ text, whole ++ (fractionText ++ (exponentText ++ rest)) ≠ '-' :: text := by
      obtain ⟨character, more, rfl, -⟩ := digit.values
      intro text same
      have isDigit := digit.all character List.mem_cons_self
      rw [(List.cons.inj same).1] at isDigit
      contradiction
    cases negative with
    | true =>
      simp only [if_true, List.cons_append, List.nil_append, List.append_assoc, takeNumber, parts,
        fractionTaken, exponentTaken, Option.bind_eq_bind, Option.bind_some]
      rfl
    | false =>
      simp only [Bool.false_eq_true, if_false, List.nil_append, List.append_assoc]
      unfold takeNumber
      split
      next negative text opened =>
      split at opened
      · next same => exact absurd same (unsigned _)
      · cases opened
        simp only [parts, fractionTaken, exponentTaken, Option.bind_eq_bind, Option.bind_some]
        rfl

/-- A number starts with its sign or a digit. -/
theorem spellsNumber_starts {spelling : NumberSpelling} {text : List Char}
    (spelled : SpellsNumber spelling text) :
    ∃ first rest, text = first :: rest ∧ (first = '-' ∨ first.isDigit = true) := by
  cases spelled with
  | @mk negative whole fractionText exponentText fraction exponent digit noZero fractioned raised =>
    cases negative with
    | true => exact ⟨_, _, rfl, Or.inl rfl⟩
    | false =>
      obtain ⟨character, more, rfl, -⟩ := digit.values
      exact ⟨character, _, rfl, Or.inr (digit.all character List.mem_cons_self)⟩

/-! ## Values -/

/-- Nothing but blanks. -/
def Gap (text : List Char) : Prop :=
  ∀ character ∈ text, isGap character = true

mutual

/-- A text spells a value, from its first character to its last one. -/
inductive Spells : Json → List Char → Prop
  | null : Spells .null ['n', 'u', 'l', 'l']
  | true : Spells (.boolean true) ['t', 'r', 'u', 'e']
  | false : Spells (.boolean false) ['f', 'a', 'l', 's', 'e']
  | number {spelling : NumberSpelling} {found : Number} {text : List Char}
      (spelled : SpellsNumber spelling text) (stands : spelling.number? = some found) :
      Spells (.number found) text
  | string {value : String} {body : List Char} (spelled : SpellsText body value.toList) :
      Spells (.string value) ('"' :: (body ++ ['"']))
  | emptyArray {blank : List Char} (gap : Gap blank) : Spells (.array []) ('[' :: (blank ++ [']']))
  | array {blank text rest : List Char} {item : Json} {items : List Json} (gap : Gap blank)
      (first : Spells item text) (later : SpellsItems items rest) :
      Spells (.array (item :: items)) ('[' :: (blank ++ (text ++ rest)))
  | emptyObject {blank : List Char} (gap : Gap blank) :
      Spells (.object []) ('{' :: (blank ++ ['}']))
  | object {blank text rest : List Char} {member : String × Json} {members : List (String × Json)}
      (gap : Gap blank) (first : SpellsMember member text) (later : SpellsMembers members rest) :
      Spells (.object (member :: members)) ('{' :: (blank ++ (text ++ rest)))

/-- A text spells the items of an array after one of them, with the bracket that closes it. -/
inductive SpellsItems : List Json → List Char → Prop
  | nil {blank : List Char} (gap : Gap blank) : SpellsItems [] (blank ++ [']'])
  | cons {before blank text rest : List Char} {item : Json} {items : List Json}
      (gapBefore : Gap before) (gap : Gap blank) (first : Spells item text)
      (later : SpellsItems items rest) :
      SpellsItems (item :: items) (before ++ ',' :: (blank ++ (text ++ rest)))

/-- A text spells a member of an object, from the quote before its name to the end of its value. -/
inductive SpellsMember : String × Json → List Char → Prop
  | mk {name : String} {value : Json} {body before blank text : List Char}
      (named : SpellsText body name.toList) (gapBefore : Gap before) (gap : Gap blank)
      (spelled : Spells value text) :
      SpellsMember (name, value) ('"' :: (body ++ '"' :: (before ++ ':' :: (blank ++ text))))

/-- A text spells the members of an object after one of them, with the brace that closes it. -/
inductive SpellsMembers : List (String × Json) → List Char → Prop
  | nil {blank : List Char} (gap : Gap blank) : SpellsMembers [] (blank ++ ['}'])
  | cons {before blank text rest : List Char} {member : String × Json}
      {members : List (String × Json)} (gapBefore : Gap before) (gap : Gap blank)
      (first : SpellsMember member text) (later : SpellsMembers members rest) :
      SpellsMembers (member :: members) (before ++ ',' :: (blank ++ (text ++ rest)))

end

/-- A whole text of a value, with blanks around it. -/
inductive IsText (value : Json) : List Char → Prop
  | mk {before text after : List Char} (gapBefore : Gap before) (spelled : Spells value text)
      (gapAfter : Gap after) : IsText value (before ++ (text ++ after))

namespace Document

/-- Go on with an array after an item, the items so far coming latest first. -/
def afterItem (fuel : Nat) (items : List Document) (text : List Char) : Document × List Char :=
  match skipGap text with
  | ',' :: rest => readItems fuel items rest
  | ']' :: rest => (.array items.reverse true, rest)
  | _ => (.array items.reverse false, [])

/-- Go on with an object after a member, the members so far coming latest first. -/
def afterMember (fuel : Nat) (members : List (StringSpelling × Document)) (text : List Char) :
    Document × List Char :=
  match skipGap text with
  | ',' :: rest =>
    match skipGap rest with
    | '"' :: rest => readMembers fuel members rest
    | _ => (.object members.reverse false, [])
  | '}' :: rest => (.object members.reverse true, rest)
  | _ => (.object members.reverse false, [])

theorem readItems_succ (fuel : Nat) (items : List Document) (text : List Char) :
    readItems (fuel + 1) items text =
      afterItem fuel ((read fuel text).1 :: items) (read fuel text).2 :=
  rfl

theorem skipGap_cons {first : Char} (solid : isGap first = false) (rest : List Char) :
    skipGap (first :: rest) = first :: rest := by
  rw [skipGap, List.dropWhile_cons_of_neg (by simp [solid])]

theorem skipGap_append {blank : List Char} (gap : Gap blank) (rest : List Char) :
    skipGap (blank ++ rest) = skipGap rest :=
  List.dropWhile_append_of_pos gap

theorem skipGap_gap {blank : List Char} (gap : Gap blank) : skipGap blank = [] := by
  have skipped := skipGap_append gap []
  rwa [List.append_nil] at skipped

/-- Blanks and then a character that is none. -/
theorem skipGap_to {blank : List Char} (gap : Gap blank) {first : Char}
    (solid : isGap first = false) (rest : List Char) :
    skipGap (blank ++ first :: rest) = first :: rest := by
  rw [skipGap_append gap, skipGap_cons solid]

/-- Blanks before a value are not read. -/
theorem read_gap {blank : List Char} (gap : Gap blank) (fuel : Nat) (text : List Char) :
    read fuel (blank ++ text) = read fuel text := by
  cases fuel with
  | zero => rfl
  | succ fuel =>
    unfold read
    rw [skipGap_append gap]

/-- What a number starts with starts nothing else. -/
theorem ne_of_starts {first other : Char} (starts : first = '-' ∨ first.isDigit = true)
    (different : other ≠ '-') (noDigit : other.isDigit = false) : first ≠ other := by
  rintro rfl
  rcases starts with sign | digit
  · exact different sign
  · rw [noDigit] at digit
    contradiction

theorem isGap_of_starts {first : Char} (starts : first = '-' ∨ first.isDigit = true) :
    isGap first = false := by
  have apart {other : Char} : other ≠ '-' → other.isDigit = false → first ≠ other :=
    ne_of_starts starts
  simp [isGap, apart]

/-- What starts like a number is read as a number. -/
theorem read_number {fuel : Nat} {first : Char} {text : List Char}
    (starts : first = '-' ∨ first.isDigit = true) :
    read (fuel + 1) (first :: text) =
      match takeNumber (first :: text) with
      | some (spelling, rest) => (.number spelling.number?, rest)
      | none => (.broken, []) := by
  unfold read
  rw [skipGap_cons (isGap_of_starts starts)]
  split
  · contradiction
  · next same => exact absurd (List.cons.inj same).1 (ne_of_starts starts (by decide) (by decide))
  · next same => exact absurd (List.cons.inj same).1 (ne_of_starts starts (by decide) (by decide))
  · next same => exact absurd (List.cons.inj same).1 (ne_of_starts starts (by decide) (by decide))
  · next same => exact absurd (List.cons.inj same).1 (ne_of_starts starts (by decide) (by decide))
  · next same => exact absurd (List.cons.inj same).1 (ne_of_starts starts (by decide) (by decide))
  · next same => exact absurd (List.cons.inj same).1 (ne_of_starts starts (by decide) (by decide))
  · rfl

/-- What starts with neither a blank nor a closing bracket is read as the items of an array. -/
theorem read_items {fuel : Nat} {text : List Char}
    (starts : ∃ first rest, text = first :: rest ∧ isGap first = false ∧ first ≠ ']') :
    read (fuel + 1) ('[' :: text) = readItems fuel [] text := by
  obtain ⟨first, rest, rfl, solid, noEnd⟩ := starts
  unfold read
  rw [skipGap_cons (show isGap '[' = false by decide)]
  simp only [skipGap_cons solid]
  split
  · next same => exact absurd (List.cons.inj same).1 noEnd
  · rfl

/-- What may stand behind a value is no part of a number. -/
theorem endsNumber_gap {blank : List Char} (gap : Gap blank) {first : Char}
    (closes : first = ',' ∨ first = ']' ∨ first = '}') (rest : List Char) :
    EndsNumber (blank ++ first :: rest) := by
  cases blank with
  | nil =>
    intro character same
    obtain rfl := Option.some.inj same
    rcases closes with rfl | rfl | rfl <;> decide
  | cons start blank =>
    intro character same
    obtain rfl := Option.some.inj same
    have isGap := gap start List.mem_cons_self
    simp only [Document.isGap, Bool.or_eq_true, decide_eq_true_eq] at isGap
    rcases isGap with ((rfl | rfl) | rfl) | rfl <;> decide

theorem endsNumber_blank {blank : List Char} (gap : Gap blank) : EndsNumber blank := by
  intro character first
  have isGap := gap character (List.mem_of_mem_head? first)
  simp only [Document.isGap, Bool.or_eq_true, decide_eq_true_eq] at isGap
  rcases isGap with ((rfl | rfl) | rfl) | rfl <;> decide

theorem endsNumber_spelledItems {items : List Json} {text : List Char}
    (spelled : SpellsItems items text) (rest : List Char) : EndsNumber (text ++ rest) := by
  cases spelled with
  | nil gap =>
    rw [List.append_assoc]
    exact endsNumber_gap gap (Or.inr (Or.inl rfl)) _
  | cons gapBefore =>
    rw [List.append_assoc]
    exact endsNumber_gap gapBefore (Or.inl rfl) _

theorem endsNumber_spelledMembers {members : List (String × Json)} {text : List Char}
    (spelled : SpellsMembers members text) (rest : List Char) : EndsNumber (text ++ rest) := by
  cases spelled with
  | nil gap =>
    rw [List.append_assoc]
    exact endsNumber_gap gap (Or.inr (Or.inr rfl)) _
  | cons gapBefore =>
    rw [List.append_assoc]
    exact endsNumber_gap gapBefore (Or.inl rfl) _

/-- What spells a value starts with what is neither a blank nor a closing bracket. -/
theorem spells_starts {value : Json} {text : List Char} (spelled : Spells value text) :
    ∃ first rest, text = first :: rest ∧ isGap first = false ∧ first ≠ ']' := by
  cases spelled with
  | number spelled =>
    obtain ⟨first, rest, same, starts⟩ := spellsNumber_starts spelled
    exact ⟨first, rest, same, isGap_of_starts starts, ne_of_starts starts (by decide) (by decide)⟩
  | _ => exact ⟨_, _, rfl, by decide, by decide⟩

theorem spells_pos {value : Json} {text : List Char} (spelled : Spells value text) :
    0 < text.length := by
  obtain ⟨first, rest, rfl, -, -⟩ := spells_starts spelled
  exact Nat.succ_pos _

theorem spellsItems_pos {items : List Json} {text : List Char} (spelled : SpellsItems items text) :
    0 < text.length := by
  cases spelled with
  | nil =>
    rw [List.length_append]
    exact Nat.succ_pos _
  | cons =>
    rw [List.length_append, List.length_cons]
    omega

/-- The items of an array, after blanks. -/
theorem read_spelledItems {fuel : Nat} {blank text : List Char} (gap : Gap blank)
    (starts : ∃ first rest, text = first :: rest ∧ isGap first = false ∧ first ≠ ']') :
    read (fuel + 1) ('[' :: (blank ++ text)) = readItems fuel [] text := by
  obtain ⟨first, rest, rfl, solid, noEnd⟩ := starts
  have opened : read (fuel + 1) ('[' :: (blank ++ first :: rest)) =
      read (fuel + 1) ('[' :: (first :: rest)) := by
    unfold read
    rw [skipGap_cons (show isGap '[' = false by decide),
      skipGap_cons (show isGap '[' = false by decide)]
    simp only [skipGap_to gap solid, skipGap_cons solid]
  rw [opened, read_items ⟨first, rest, rfl, solid, noEnd⟩]

/-- A member that is spelled, with what comes after it. -/
theorem readMembers_spelled (fuel : Nat) (members : List (StringSpelling × Document))
    {name : String} {body before : List Char} (named : SpellsText body name.toList)
    (gapBefore : Gap before) (text : List Char) :
    readMembers (fuel + 1) members (body ++ '"' :: (before ++ ':' :: text)) =
      afterMember fuel ((.text name, (read fuel text).1) :: members) (read fuel text).2 := by
  rw [readMembers, takeString_spelled named]
  simp only [skipGap_to gapBefore (show isGap ':' = false by decide)]
  rfl

mutual

/-- A value is read from every text that spells it, whatever comes after it that cannot belong to a
number. -/
theorem read_spelled :
    (value : Json) → (text : List Char) → Spells value text → (fuel : Nat) →
      text.length ≤ fuel → (rest : List Char) → EndsNumber rest →
        read fuel (text ++ rest) = (ofValue value, rest)
  | _, _, spelled, 0, enough, rest, _ => absurd enough (Nat.not_le_of_lt (spells_pos spelled))
  | .null, _, .null, fuel + 1, _, rest, _ => rfl
  | .boolean _, _, .true, fuel + 1, _, rest, _ => rfl
  | .boolean _, _, .false, fuel + 1, _, rest, _ => rfl
  | .number found, text, .number spelled stands, fuel + 1, _, rest, ends => by
    obtain ⟨first, more, rfl, starts⟩ := spellsNumber_starts spelled
    have taken := takeNumber_spelled spelled ends
    rw [List.cons_append] at taken ⊢
    rw [read_number starts, taken]
    exact congrArg (fun found => (Document.number found, rest)) stands
  | .string value, _, .string spelled, fuel + 1, _, rest, _ => by
    rw [List.cons_append, List.append_assoc, read, skipGap_cons (by decide)]
    simp only [List.cons_append, List.nil_append, takeString_spelled spelled]
    rfl
  | .array _, _, .emptyArray gap, fuel + 1, _, rest, _ => by
    rw [List.cons_append, List.append_assoc, read, skipGap_cons (by decide)]
    simp only [List.cons_append, List.nil_append, skipGap_to gap (show isGap ']' = false by decide)]
    rfl
  | .array (item :: items), _, @Spells.array blank text tail _ _ gap first later, fuel + 1, enough,
    rest, _ => by
    have itemLength := spells_pos first
    have itemsLength := spellsItems_pos later
    simp only [List.length_cons, List.length_append] at enough
    obtain ⟨fuel, rfl⟩ : ∃ less, fuel = less + 1 := ⟨fuel - 1, by omega⟩
    obtain ⟨start, more, same, solid, noEnd⟩ := spells_starts first
    have read := read_spelled item text first fuel (by omega) (tail ++ rest)
      (endsNumber_spelledItems later rest)
    have goesOn := afterItem_spelled items tail later fuel (by omega) [ofValue item] rest
    rw [List.cons_append, List.append_assoc, List.append_assoc, read_spelledItems gap
      ⟨start, _, by rw [same, List.cons_append], solid, noEnd⟩, readItems_succ, read, goesOn]
    rfl
  | .object _, _, .emptyObject gap, fuel + 1, _, rest, _ => by
    rw [List.cons_append, List.append_assoc, read, skipGap_cons (by decide)]
    simp only [List.cons_append, List.nil_append, skipGap_to gap (show isGap '}' = false by decide)]
    rfl
  | .object ((name, value) :: members), _, @Spells.object blank _ tail _ _ gap
    (@SpellsMember.mk _ _ body before lead text named gapBefore gapValue spelled) later, fuel + 1,
    enough, rest, _ => by
    simp only [List.length_cons, List.length_append] at enough
    obtain ⟨fuel, rfl⟩ : ∃ less, fuel = less + 1 := ⟨fuel - 1, by omega⟩
    have opens : read (fuel + 1 + 1) ('{' :: (blank ++ ('"' :: (body ++ '"' ::
        (before ++ ':' :: (lead ++ text))) ++ tail)) ++ rest) =
          readMembers (fuel + 1) [] (body ++ '"' :: (before ++ ':' ::
            (lead ++ (text ++ (tail ++ rest))))) := by
      simp only [List.append_assoc, List.cons_append]
      rw [read, skipGap_cons (by decide)]
      simp only [skipGap_to gap (show isGap '"' = false by decide)]
    have read := read_spelled value text spelled fuel (by omega) (tail ++ rest)
      (endsNumber_spelledMembers later rest)
    have goesOn := afterMember_spelled members tail later fuel (by omega)
      [(.text name, ofValue value)] rest
    rw [opens, readMembers_spelled _ _ named gapBefore, read_gap gapValue, read, goesOn]
    rfl

theorem afterItem_spelled :
    (items : List Json) → (text : List Char) → SpellsItems items text → (fuel : Nat) →
      text.length ≤ fuel → (before : List Document) → (rest : List Char) →
        afterItem fuel before (text ++ rest) =
          (.array (before.reverse ++ ofValues items) true, rest)
  | _, _, .nil gap, fuel, _, before, rest => by
    rw [afterItem, List.append_assoc, List.cons_append, skipGap_to gap (by decide), ofValues,
      List.append_nil]
    rfl
  | item :: items, _, .cons _ _ _ _, 0, enough, before, rest => by
    simp only [List.length_append, List.length_cons] at enough
    omega
  | item :: items, _, @SpellsItems.cons lead blank text tail _ _ gapBefore gap first later,
    fuel + 1, enough, before, rest => by
    simp only [List.length_append, List.length_cons] at enough
    have read := read_spelled item text first fuel (by omega) (tail ++ rest)
      (endsNumber_spelledItems later rest)
    have goesOn := afterItem_spelled items tail later fuel (by omega) (ofValue item :: before) rest
    have comma : afterItem (fuel + 1) before (lead ++ ',' :: (blank ++ (text ++ tail)) ++ rest) =
        readItems (fuel + 1) before (blank ++ (text ++ (tail ++ rest))) := by
      simp only [List.append_assoc, List.cons_append]
      rw [afterItem, skipGap_to gapBefore (by decide)]
      rfl
    rw [comma, readItems_succ, read_gap gap, read, goesOn, List.reverse_cons, List.append_assoc]
    rfl

theorem afterMember_spelled :
    (members : List (String × Json)) → (text : List Char) → SpellsMembers members text →
      (fuel : Nat) → text.length ≤ fuel → (before : List (StringSpelling × Document)) →
        (rest : List Char) → afterMember fuel before (text ++ rest) =
          (.object (before.reverse ++ ofMembers members) true, rest)
  | _, _, .nil gap, fuel, _, before, rest => by
    rw [afterMember, List.append_assoc, List.cons_append, skipGap_to gap (by decide), ofMembers,
      List.append_nil]
    rfl
  | _ :: _, _, .cons _ _ _ _, 0, enough, before, rest => by
    simp only [List.length_append, List.length_cons] at enough
    omega
  | (name, value) :: members, _, @SpellsMembers.cons lead blank _ tail _ _ gapBefore gap
    (@SpellsMember.mk _ _ body colon space text named gapColon gapValue spelled) later, fuel + 1,
    enough, before, rest => by
    simp only [List.length_append, List.length_cons] at enough
    have read := read_spelled value text spelled fuel (by omega) (tail ++ rest)
      (endsNumber_spelledMembers later rest)
    have goesOn := afterMember_spelled members tail later fuel (by omega)
      ((.text name, ofValue value) :: before) rest
    have comma : afterMember (fuel + 1) before (lead ++ ',' :: (blank ++ ('"' :: (body ++ '"' ::
        (colon ++ ':' :: (space ++ text))) ++ tail)) ++ rest) =
          readMembers (fuel + 1) before (body ++ '"' :: (colon ++ ':' ::
            (space ++ (text ++ (tail ++ rest))))) := by
      simp only [List.append_assoc, List.cons_append]
      rw [afterMember, skipGap_to gapBefore (by decide)]
      simp only [skipGap_to gap (show isGap '"' = false by decide)]
    rw [comma, readMembers_spelled _ _ named gapColon, read_gap gapValue, read, goesOn,
      List.reverse_cons, List.append_assoc]
    rfl

end

/-- Every text of a value is read as the tree of the value, up to the blanks after it. -/
theorem ofText_isText {value : Json} {text : List Char} (isText : IsText value text) :
    ∃ blank, Gap blank ∧ ofText text = (ofValue value, blank) := by
  cases isText with
  | @mk before body after gapBefore spelled gapAfter =>
    refine ⟨after, gapAfter, ?_⟩
    rw [ofText, read_gap gapBefore]
    refine read_spelled value body spelled _ ?_ after (endsNumber_blank gapAfter)
    simp only [List.length_append]
    omega

end Document

/-- What a reader makes of a text is what it makes of the tree of the value that the text spells. -/
theorem Reader.readText_isText {α : Type} (reader : Reader α) {value : Json} {text : List Char}
    (isText : IsText value text) :
    reader.readText text = reader .whole (ofValue value) := by
  obtain ⟨blank, gap, read⟩ := ofText_isText isText
  rw [readText, read]
  simp only [skipGap_gap gap, if_true]
  cases reader .whole (ofValue value) <;> rfl

theorem Reader.readFront_isText {α : Type} (reader : Reader α) {value : Json} {text : List Char}
    (isText : IsText value text) :
    reader.readFront text = reader .whole (ofValue value) := by
  obtain ⟨blank, -, read⟩ := ofText_isText isText
  rw [readFront, read]

/-- Blanks in front of a text do not change what it spells. -/
theorem IsText.prepend {value : Json} {text blank : List Char} (isText : IsText value text)
    (gap : Gap blank) : IsText value (blank ++ text) := by
  cases isText with
  | @mk before body after gapBefore spelled gapAfter =>
    rw [← List.append_assoc]
    exact .mk (List.forall_mem_append.2 ⟨gap, gapBefore⟩) spelled gapAfter

/-! ## Printed texts -/

theorem gap_nil : Gap [] :=
  List.forall_mem_nil _

/-- A control character is spelled by its code unit. -/
theorem spellsText_control {character : Char} (control : character.toNat < 0x20)
    {body meant : List Char} (later : SpellsText body meant) :
    SpellsText ('\\' :: 'u' :: (Text.Hex.lastDigits 4 character.toNat ++ body))
      (character :: meant) := by
  have all : ∀ unit : Fin 0x20, Text.Hex.number? (Text.Hex.lastDigits 4 unit.val) = some unit.val ∧
      StringReader.isFirstHalf unit.val = false ∧ StringReader.isSecondHalf unit.val = false := by
    decide
  obtain ⟨digits, noFirst, noSecond⟩ := all ⟨character.toNat, control⟩
  have spelled := SpellsText.unit digits noFirst noSecond later
  rwa [Char.ofNat_toNat] at spelled

/-- Every character is spelled by its escape. -/
theorem spellsText_escape (character : Char) {body meant : List Char}
    (later : SpellsText body meant) :
    SpellsText (escape character ++ body) (character :: meant) := by
  unfold escape
  split
  · next same =>
    subst same
    exact .letter rfl later
  split
  · next same =>
    subst same
    exact .letter rfl later
  split
  · next same =>
    subst same
    exact .letter rfl later
  split
  · next same =>
    subst same
    exact .letter rfl later
  split
  · next same =>
    subst same
    exact .letter rfl later
  split
  · next same =>
    subst same
    exact .letter rfl later
  split
  · next same =>
    subst same
    exact .letter rfl later
  split
  · next control => exact spellsText_control control later
  · next noQuote noEscape _ _ _ _ _ printable => exact .plain noQuote noEscape printable later

theorem spellsText_escapes (meant : List Char) : SpellsText (meant.flatMap escape) meant := by
  induction meant with
  | nil => exact .nil
  | cons character meant inductionHypothesis =>
    exact spellsText_escape character inductionHypothesis

theorem digits_digitsOf (number : Nat) : Digits (Decimal.digitsOf number) :=
  ⟨Nat.toDigits_ne_nil, fun _ among => isDigit_of_mem_digitsOf among⟩

/-- No digits but those of zero start with a zero. -/
theorem digitsOf_noZero (number : Nat) :
    Decimal.digitsOf number = ['0'] ∨ (Decimal.digitsOf number).head? ≠ some '0' := by
  rcases Nat.eq_zero_or_pos number with rfl | positive
  · exact Or.inl rfl
  · right
    intro zero
    obtain ⟨first, rest, values, above⟩ := valuesOf_pos number positive
    obtain ⟨more, digits⟩ := List.head?_eq_some_iff.1 zero
    have same : valuesOf number = 0 :: digitValues more := by
      rw [valuesOf, digits]
      rfl
    rw [same] at values
    exact Nat.ne_of_lt above (List.cons.inj values).1

theorem spells_integer {value : Int}
    (inRange : -0x8000000000000000 ≤ value ∧ value < 0x10000000000000000) :
    Spells (.number (.integer value inRange)) (Number.integer value inRange).print := by
  have spelled (negative : Bool) := @SpellsNumber.mk negative _ _ _ _ _
    (digits_digitsOf value.natAbs) (digitsOf_noZero value.natAbs) .none .none
  have stands (negative : Bool) (sign : negative = decide (value < 0)) :
      NumberSpelling.number? ⟨negative, digitValues (Decimal.digitsOf value.natAbs), [], none⟩ =
        some (.integer value inRange) := by
    rw [sign]
    exact (number?_valuesOf _ (by omega)).trans (NumberSpelling.integer_eq inRange)
  simp only [List.append_nil] at spelled
  rw [Number.print]
  split
  · next negative => exact .number (spelled true) (stands true (decide_eq_true negative).symm)
  · next positive => exact .number (spelled false) (stands false (decide_eq_false positive).symm)

theorem spellsMember_print {value : Json} (name : String) {text : List Char}
    (spelled : Spells value text) :
    SpellsMember (name, value) (printString name ++ ':' :: text) := by
  have member := SpellsMember.mk (spellsText_escapes name.toList) gap_nil gap_nil spelled
  simpa only [printString, List.cons_append, List.append_assoc, List.nil_append] using member

mutual

/-- What is printed for a value spells it, if its numbers are integers. -/
theorem spells_print : (value : Json) → value.isIntegral = true → Spells value value.print
  | .null, _ => .null
  | .boolean true, _ => .true
  | .boolean false, _ => .false
  | .number (.integer _ inRange), _ => spells_integer inRange
  | .string value, _ => .string (spellsText_escapes value.toList)
  | .array [], _ => .emptyArray gap_nil
  | .array (item :: items), integral =>
    have parts := Bool.and_eq_true_iff.1 integral
    .array gap_nil (spells_print item parts.1) (spellsItems_print items parts.2)
  | .object [], _ => .emptyObject gap_nil
  | .object ((name, value) :: members), integral => by
    have parts := Bool.and_eq_true_iff.1 integral
    have spelled := Spells.object gap_nil (spellsMember_print name (spells_print value parts.1))
      (spellsMembers_print members parts.2)
    rwa [List.nil_append, List.append_assoc] at spelled

theorem spellsItems_print :
    (items : List Json) → areIntegral items = true → SpellsItems items (printItems items)
  | [], _ => .nil gap_nil
  | item :: items, integral =>
    have parts := Bool.and_eq_true_iff.1 integral
    .cons gap_nil gap_nil (spells_print item parts.1) (spellsItems_print items parts.2)

theorem spellsMembers_print :
    (members : List (String × Json)) → areIntegralMembers members = true →
      SpellsMembers members (printMembers members)
  | [], _ => .nil gap_nil
  | (name, value) :: members, integral => by
    have parts := Bool.and_eq_true_iff.1 integral
    have spelled := SpellsMembers.cons gap_nil gap_nil
      (spellsMember_print name (spells_print value parts.1)) (spellsMembers_print members parts.2)
    rwa [List.nil_append, List.nil_append, List.append_assoc] at spelled

end

/-- So what is printed for it is a text of it. -/
theorem isText_print (value : Json) (integral : value.isIntegral = true) :
    IsText value value.text.toList := by
  have isText := IsText.mk gap_nil (spells_print value integral) gap_nil
  rwa [List.nil_append, List.append_nil, ← @String.toList_ofList value.print] at isText

end HubRelay.Json
