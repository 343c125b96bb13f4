import HubRelay.Text.Utf8
import Mathlib.Data.List.Forall2
import Mathlib.Data.List.Induction

/-!
Contract: the eight-bit encoding is read back.

Owns: the forms that the bytes of one character have, that every character has bytes of one of these
forms and all bytes of these forms have a character, and that bytes are decoded exactly if they are
those of a text, and to that text.

Does not own: lossy decoding.

Bytes are turned into numbers once, where a byte is compared with the bounds of a form; after that
everything about one character is arithmetic.
-/

namespace HubRelay.Text.Utf8

variable {lead byte : UInt8} {bytes tail : List UInt8} {bits number : Nat} {text : List Char}
  {finished : List Piece} {later : List (UInt8 × UInt8)} {next : UInt8 × UInt8}

/-! ## Numbers and bytes -/

/-- The bytes of the character of a number. -/
def spell (number : Nat) : List UInt8 :=
  if number ≤ 0x7F then [UInt8.ofNat number]
  else if number ≤ 0x7FF then
    [UInt8.ofNat (number / 64 % 32 + 0xC0), UInt8.ofNat (number % 64 + 0x80)]
  else if number ≤ 0xFFFF then
    [UInt8.ofNat (number / 4096 % 16 + 0xE0), UInt8.ofNat (number / 64 % 64 + 0x80),
      UInt8.ofNat (number % 64 + 0x80)]
  else
    [UInt8.ofNat (number / 262144 % 8 + 0xF0), UInt8.ofNat (number / 4096 % 64 + 0x80),
      UInt8.ofNat (number / 64 % 64 + 0x80), UInt8.ofNat (number % 64 + 0x80)]

theorem utf8EncodeChar_eq (character : Char) :
    String.utf8EncodeChar character = spell character.val.toNat :=
  rfl

theorem toNat_ofNat (valid : number.isValidChar) : (Char.ofNat number).val.toNat = number := by
  rw [Char.ofNat, dif_pos valid]
  exact UInt32.toNat_ofNatLT ..

theorem ofNat_eq (byte : UInt8) (same : number = byte.toNat) : UInt8.ofNat number = byte := by
  rw [same, UInt8.ofNat_toNat]

theorem toNat_byte (number : Nat) (small : number < 256) : (UInt8.ofNat number).toNat = number := by
  rw [UInt8.toNat_ofNat', Nat.mod_eq_of_lt small]

/-- The bits of a character after further bytes of it. -/
def gather (bits : Nat) (tail : List UInt8) : Nat :=
  tail.foldl (fun bits byte => bits * 64 + (byte.toNat - 0x80)) bits

theorem gather_cons (bits : Nat) (byte : UInt8) (tail : List UInt8) :
    gather bits (byte :: tail) = gather (bits * 64 + (byte.toNat - 0x80)) tail := by
  rw [gather, gather, List.foldl_cons]

theorem gather_concat (bits : Nat) (tail : List UInt8) (byte : UInt8) :
    gather bits (tail ++ [byte]) = gather bits tail * 64 + (byte.toNat - 0x80) := by
  rw [gather, gather, List.foldl_append, List.foldl_cons, List.foldl_nil]

theorem leadBits_eq (lead : UInt8) : leadBits lead =
    if lead.toNat ≤ 0x7F then lead.toNat
    else if lead.toNat ≤ 0xDF then lead.toNat - 0xC0
    else if lead.toNat ≤ 0xEF then lead.toNat - 0xE0
    else lead.toNat - 0xF0 := by
  simp only [leadBits, UInt8.le_iff_toNat_le, UInt8.reduceToNat]

theorem followers_eq (lead : UInt8) : followers lead =
    if lead.toNat ≤ 0x7F then some []
    else if lead.toNat < 0xC2 then none
    else if lead.toNat ≤ 0xDF then some [(0x80, 0xBF)]
    else if lead.toNat = 0xE0 then some [(0xA0, 0xBF), (0x80, 0xBF)]
    else if lead.toNat = 0xED then some [(0x80, 0x9F), (0x80, 0xBF)]
    else if lead.toNat ≤ 0xEF then some [(0x80, 0xBF), (0x80, 0xBF)]
    else if lead.toNat = 0xF0 then some [(0x90, 0xBF), (0x80, 0xBF), (0x80, 0xBF)]
    else if lead.toNat ≤ 0xF3 then some [(0x80, 0xBF), (0x80, 0xBF), (0x80, 0xBF)]
    else if lead.toNat = 0xF4 then some [(0x80, 0x8F), (0x80, 0xBF), (0x80, 0xBF)]
    else none := by
  simp only [followers, UInt8.le_iff_toNat_le, UInt8.lt_iff_toNat_lt, ← UInt8.toNat_inj,
    UInt8.reduceToNat]

/-! ## The forms of a character -/

/-- Whether a byte is in a range. -/
def Within (range : UInt8 × UInt8) (byte : UInt8) : Prop :=
  range.1.toNat ≤ byte.toNat ∧ byte.toNat ≤ range.2.toNat

/-- Whether a byte may come after the first one of a character, if nothing more is known. -/
def Trails (byte : UInt8) : Prop :=
  0x80 ≤ byte.toNat ∧ byte.toNat ≤ 0xBF

/-- The bytes of one character: the first one, and those that follow. -/
inductive Formed : UInt8 → List UInt8 → Prop where
  | one {lead : UInt8} (small : lead.toNat ≤ 0x7F) : Formed lead []
  | two {lead second : UInt8} (low : 0xC2 ≤ lead.toNat) (high : lead.toNat ≤ 0xDF)
      (trails : Trails second) : Formed lead [second]
  | three {lead second third : UInt8} (low : 0xE0 ≤ lead.toNat) (high : lead.toNat ≤ 0xEF)
      (notOverlong : lead.toNat = 0xE0 → 0xA0 ≤ second.toNat)
      (noSurrogate : lead.toNat = 0xED → second.toNat ≤ 0x9F)
      (trails : Trails second) (trailsThird : Trails third) : Formed lead [second, third]
  | four {lead second third fourth : UInt8} (low : 0xF0 ≤ lead.toNat) (high : lead.toNat ≤ 0xF4)
      (notOverlong : lead.toNat = 0xF0 → 0x90 ≤ second.toNat)
      (notBeyond : lead.toNat = 0xF4 → second.toNat ≤ 0x8F)
      (trails : Trails second) (trailsThird : Trails third) (trailsFourth : Trails fourth) :
      Formed lead [second, third, fourth]

/-- The ranges in which a reader expects bytes amount to these forms. -/
theorem formed_of_followers {ranges : List (UInt8 × UInt8)} (leads : followers lead = some ranges)
    (follows : List.Forall₂ Within ranges tail) : Formed lead tail := by
  rw [followers_eq] at leads
  repeat' split at leads
  all_goals first | contradiction | obtain rfl := Option.some.inj leads
  · cases follows
    exact .one ‹_›
  · rcases follows with _ | ⟨second, _ | _⟩
    exact .two (by omega) (by omega) second
  -- three bytes: after the lead `0xE0`, after `0xED`, and after any other one
  iterate 3
    · rcases follows with _ | ⟨second, _ | ⟨third, _ | _⟩⟩
      simp only [Within, UInt8.reduceToNat] at second
      exact .three (by omega) (by omega) (by omega) (by omega) ⟨by omega, by omega⟩ third
  -- four bytes: after the lead `0xF0`, after any other one, and after `0xF4`
  iterate 3
    · rcases follows with _ | ⟨second, _ | ⟨third, _ | ⟨fourth, _ | _⟩⟩⟩
      simp only [Within, UInt8.reduceToNat] at second
      exact .four (by omega) (by omega) (by omega) (by omega) ⟨by omega, by omega⟩ third fourth

theorem followers_of_formed (formed : Formed lead tail) :
    ∃ ranges, followers lead = some ranges ∧ List.Forall₂ Within ranges tail := by
  rw [followers_eq]
  cases formed with
  | one small => exact ⟨[], if_pos small, .nil⟩
  | two low high trails =>
    rw [if_neg (by omega), if_neg (by omega), if_pos high]
    exact ⟨_, rfl, .cons trails .nil⟩
  | three low high notOverlong noSurrogate trails trailsThird =>
    rw [if_neg (by omega), if_neg (by omega), if_neg (by omega)]
    split
    · next first => exact ⟨_, rfl, .cons ⟨notOverlong first, trails.2⟩ (.cons trailsThird .nil)⟩
    · split
      · next before =>
        exact ⟨_, rfl, .cons ⟨trails.1, noSurrogate before⟩ (.cons trailsThird .nil)⟩
      · exact ⟨_, rfl, .cons trails (.cons trailsThird .nil)⟩
  | @four second third fourth low high notOverlong notBeyond trails trailsThird trailsFourth =>
    have rest : List.Forall₂ Within [(0x80, 0xBF), (0x80, 0xBF)] [third, fourth] :=
      .cons trailsThird (.cons trailsFourth .nil)
    rw [if_neg (by omega), if_neg (by omega), if_neg (by omega), if_neg (by omega),
      if_neg (by omega), if_neg (by omega)]
    split
    · next first => exact ⟨_, rfl, .cons ⟨notOverlong first, trails.2⟩ rest⟩
    · split
      · exact ⟨_, rfl, .cons trails rest⟩
      · have last : lead.toNat = 0xF4 := by omega
        exact ⟨_, if_pos last, .cons ⟨trails.1, notBeyond last⟩ rest⟩

/-- Bytes of these forms are those of the character of the number that is gathered from them. -/
theorem spell_gather (formed : Formed lead tail) :
    (gather (leadBits lead) tail).isValidChar ∧
      spell (gather (leadBits lead) tail) = lead :: tail := by
  have known := leadBits_eq lead
  unfold Nat.isValidChar
  cases formed with
  | one small =>
    rw [if_pos small] at known
    simp only [gather, List.foldl_nil, known]
    refine ⟨by omega, ?_⟩
    rw [spell, if_pos small, UInt8.ofNat_toNat]
  | @two second low high trails =>
    rw [if_neg (by omega), if_pos high] at known
    unfold Trails at trails
    simp only [gather, List.foldl_cons, List.foldl_nil, known]
    refine ⟨by omega, ?_⟩
    rw [spell, if_neg (by omega), if_pos (by omega), ofNat_eq lead (by omega),
      ofNat_eq second (by omega)]
  | @three second third low high notOverlong noSurrogate trails trailsThird =>
    rw [if_neg (by omega), if_neg (by omega), if_pos high] at known
    unfold Trails at trails trailsThird
    simp only [gather, List.foldl_cons, List.foldl_nil, known]
    refine ⟨by omega, ?_⟩
    rw [spell, if_neg (by omega), if_neg (by omega), if_pos (by omega),
      ofNat_eq lead (by omega), ofNat_eq second (by omega),
      ofNat_eq third (by omega)]
  | @four second third fourth low high notOverlong notBeyond trails trailsThird trailsFourth =>
    rw [if_neg (by omega), if_neg (by omega), if_neg (by omega)] at known
    unfold Trails at trails trailsThird trailsFourth
    simp only [gather, List.foldl_cons, List.foldl_nil, known]
    refine ⟨by omega, ?_⟩
    rw [spell, if_neg (by omega), if_neg (by omega), if_neg (by omega),
      ofNat_eq lead (by omega), ofNat_eq second (by omega),
      ofNat_eq third (by omega), ofNat_eq fourth (by omega)]

/-- The bytes of every character have one of these forms, and its number is gathered from them. -/
theorem formed_spell (valid : number.isValidChar) :
    ∃ lead tail, spell number = lead :: tail ∧ Formed lead tail ∧
      gather (leadBits lead) tail = number := by
  unfold Nat.isValidChar at valid
  unfold spell
  split
  · next small =>
    have lead := toNat_byte number (by omega)
    refine ⟨_, _, rfl, .one (by omega), ?_⟩
    rw [leadBits_eq, lead, if_pos small]
    rfl
  · split
    · have lead := toNat_byte (number / 64 % 32 + 0xC0) (by omega)
      have second := toNat_byte (number % 64 + 0x80) (by omega)
      refine ⟨_, _, rfl, .two (by omega) (by omega) ⟨by omega, by omega⟩, ?_⟩
      rw [leadBits_eq, lead, if_neg (by omega), if_pos (by omega)]
      simp only [gather, List.foldl_cons, List.foldl_nil, second]
      omega
    · split
      · have lead := toNat_byte (number / 4096 % 16 + 0xE0) (by omega)
        have second := toNat_byte (number / 64 % 64 + 0x80) (by omega)
        have third := toNat_byte (number % 64 + 0x80) (by omega)
        refine ⟨_, _, rfl, .three (by omega) (by omega) (by omega) (by omega)
          ⟨by omega, by omega⟩ ⟨by omega, by omega⟩, ?_⟩
        rw [leadBits_eq, lead, if_neg (by omega), if_neg (by omega), if_pos (by omega)]
        simp only [gather, List.foldl_cons, List.foldl_nil, second, third]
        omega
      · have lead := toNat_byte (number / 262144 % 8 + 0xF0) (by omega)
        have second := toNat_byte (number / 4096 % 64 + 0x80) (by omega)
        have third := toNat_byte (number / 64 % 64 + 0x80) (by omega)
        have fourth := toNat_byte (number % 64 + 0x80) (by omega)
        refine ⟨_, _, rfl, .four (by omega) (by omega) (by omega) (by omega)
          ⟨by omega, by omega⟩ ⟨by omega, by omega⟩ ⟨by omega, by omega⟩, ?_⟩
        rw [leadBits_eq, lead, if_neg (by omega), if_neg (by omega), if_neg (by omega)]
        simp only [gather, List.foldl_cons, List.foldl_nil, second, third, fourth]
        omega

/-- Bytes of these forms are those of a character. -/
theorem utf8EncodeChar_of_followers {ranges : List (UInt8 × UInt8)}
    (leads : followers lead = some ranges) (follows : List.Forall₂ Within ranges tail) :
    String.utf8EncodeChar (Char.ofNat (gather (leadBits lead) tail)) = lead :: tail := by
  obtain ⟨valid, spelled⟩ := spell_gather (formed_of_followers leads follows)
  rw [utf8EncodeChar_eq, toNat_ofNat valid, spelled]

/-! ## Reading what was written -/

/-- Every character takes a byte at least. -/
theorem length_le_length_encode (text : List Char) : text.length ≤ (encode text).length := by
  induction text with
  | nil => exact Nat.le_refl 0
  | cons character text inductionHypothesis =>
    have some : 0 < (String.utf8EncodeChar character).length :=
      List.length_pos_iff.2 String.utf8EncodeChar_ne_nil
    rw [encode, List.flatMap_cons, List.length_append, ← encode, List.length_cons]
    omega

namespace Reader

theorem read_within {bits : Nat} {next : UInt8 × UInt8} (within : Within next byte) :
    read ⟨finished, .inside bits next later⟩ byte =
      match later with
      | [] => ⟨.scalar (Char.ofNat (bits * 64 + (byte.toNat - 0x80))) :: finished, .between⟩
      | next :: later => ⟨finished, .inside (bits * 64 + (byte.toNat - 0x80)) next later⟩ := by
  obtain ⟨low, high⟩ := next
  exact if_pos ⟨UInt8.le_iff_toNat_le.2 within.1, UInt8.le_iff_toNat_le.2 within.2⟩

/-- The bytes that an open character waits for finish it. -/
theorem foldl_inside (follows : List.Forall₂ Within (next :: later) tail) (bits : Nat) :
    tail.foldl read ⟨finished, .inside bits next later⟩ =
      ⟨.scalar (Char.ofNat (gather bits tail)) :: finished, .between⟩ := by
  induction later generalizing next bits tail with
  | nil =>
    rcases follows with _ | ⟨within, _ | _⟩
    rw [List.foldl_cons, List.foldl_nil, read_within within]
    rfl
  | cons range later inductionHypothesis =>
    rcases follows with _ | ⟨within, rest⟩
    rw [List.foldl_cons, read_within within, gather_cons]
    exact inductionHypothesis rest _

theorem foldl_utf8EncodeChar (character : Char) (finished : List Piece) :
    (String.utf8EncodeChar character).foldl read ⟨finished, .between⟩ =
      ⟨.scalar character :: finished, .between⟩ := by
  obtain ⟨first, tail, spelled, formed, gathered⟩ := formed_spell character.valid
  obtain ⟨ranges, leads, follows⟩ := followers_of_formed formed
  have same : Char.ofNat (gather (leadBits first) tail) = character := by
    rw [gathered]
    exact Char.ofNat_toNat character
  rw [utf8EncodeChar_eq, spelled, List.foldl_cons]
  show tail.foldl read (Reader.lead finished first) = _
  unfold Reader.lead
  rw [leads]
  cases follows with
  | nil =>
    show (⟨.scalar (Char.ofNat (leadBits first)) :: finished, .between⟩ : Reader) = _
    rw [← same]
    rfl
  | cons within rest => exact (foldl_inside (.cons within rest) _).trans (by rw [same])

theorem foldl_encode (text : List Char) (finished : List Piece) :
    (encode text).foldl read ⟨finished, .between⟩ =
      ⟨(text.map .scalar).reverse ++ finished, .between⟩ := by
  induction text generalizing finished with
  | nil => rfl
  | cons character text inductionHypothesis =>
    rw [encode, List.flatMap_cons, List.foldl_append, foldl_utf8EncodeChar]
    refine (inductionHypothesis _).trans ?_
    rw [List.map_cons, List.reverse_cons, List.append_assoc]
    rfl

/-! ## Only what was written is read -/

/-- What a reader stands for after some bytes, if no piece of them was ill-formed: the text of the
finished pieces spells the bytes, but for those of the character that is open. -/
def Follows (reader : Reader) (bytes : List UInt8) : Prop :=
  ∀ text : List Char, reader.finished.reverse = text.map .scalar →
    match reader.position with
    | .between => encode text = bytes
    | .inside bits next later => ∃ lead done tail, bytes = encode text ++ lead :: tail ∧
      followers lead = some (done ++ next :: later) ∧ List.Forall₂ Within done tail ∧
      bits = gather (leadBits lead) tail

/-- A finished piece more is a character more. -/
theorem text_of_finished {piece : Piece}
    (known : (piece :: finished).reverse = text.map .scalar) :
    ∃ before character, text = before ++ [character] ∧
      finished.reverse = before.map .scalar ∧ piece = .scalar character := by
  rw [List.reverse_cons] at known
  obtain ⟨before, rest, rfl, first, last⟩ := List.append_eq_map_iff.1 known
  obtain ⟨character, rfl, same⟩ := List.map_eq_singleton_iff.1 last
  exact ⟨before, character, rfl, first.symm, same.symm⟩

theorem encode_concat (text : List Char) (character : Char) :
    encode (text ++ [character]) = encode text ++ String.utf8EncodeChar character := by
  simp only [encode, List.flatMap_append, List.flatMap_cons, List.flatMap_nil, List.append_nil]

theorem follows_lead
    (spelled : ∀ text : List Char, finished.reverse = text.map .scalar → encode text = bytes) :
    (Reader.lead finished byte).Follows (bytes ++ [byte]) := by
  unfold Reader.lead
  split
  · -- the byte leads nothing
    intro text known
    obtain ⟨_, _, -, -, isScalar⟩ := text_of_finished known
    contradiction
  · next leads =>
    intro text known
    obtain ⟨before, character, rfl, first, isScalar⟩ := text_of_finished known
    obtain rfl := Piece.scalar.inj isScalar
    have whole : String.utf8EncodeChar (Char.ofNat (leadBits byte)) = [byte] :=
      utf8EncodeChar_of_followers leads .nil
    show encode (before ++ [Char.ofNat (leadBits byte)]) = bytes ++ [byte]
    rw [encode_concat, spelled before first, whole]
  · next range later leads =>
    intro text known
    exact ⟨byte, [], [], by rw [spelled text known], leads, .nil, rfl⟩

theorem follows_read {reader : Reader} (follows : reader.Follows bytes) (byte : UInt8) :
    (reader.read byte).Follows (bytes ++ [byte]) := by
  obtain ⟨finished, position⟩ := reader
  cases position with
  | between => exact follows_lead follows
  | inside bits range later =>
    by_cases within : Within range byte
    · rw [read_within within]
      cases later with
      | nil =>
        intro text known
        obtain ⟨before, character, rfl, first, isScalar⟩ := text_of_finished known
        obtain rfl := Piece.scalar.inj isScalar
        obtain ⟨lead, done, tail, rfl, leads, matched, rfl⟩ := follows before first
        have whole := utf8EncodeChar_of_followers leads
          (List.rel_append matched (.cons within .nil))
        rw [gather_concat] at whole
        show encode (before ++ [Char.ofNat _]) = _
        rw [encode_concat, whole, List.append_assoc]
        rfl
      | cons range later =>
        intro text known
        obtain ⟨lead, done, tail, rfl, leads, matched, rfl⟩ := follows text known
        refine ⟨lead, done ++ [_], tail ++ [byte], ?_, ?_,
          List.rel_append matched (.cons within .nil), (gather_concat _ tail byte).symm⟩
        · rw [List.append_assoc]
          rfl
        · rw [leads, List.append_assoc]
          rfl
    · -- the open character is cut short, which makes a piece ill-formed
      have cut : read ⟨finished, .inside bits range later⟩ byte =
          Reader.lead (.illFormed :: finished) byte := by
        obtain ⟨low, high⟩ := range
        refine if_neg fun inRange => within ⟨?_, ?_⟩
        · exact UInt8.le_iff_toNat_le.1 inRange.1
        · exact UInt8.le_iff_toNat_le.1 inRange.2
      rw [cut]
      refine follows_lead fun text known => ?_
      obtain ⟨_, _, -, -, isScalar⟩ := text_of_finished known
      contradiction

theorem follows_foldl (bytes : List UInt8) : (bytes.foldl read start).Follows bytes := by
  induction bytes using List.reverseRecOn with
  | nil =>
    intro text known
    rw [List.map_eq_nil_iff.1 known.symm]
    rfl
  | append_singleton bytes byte inductionHypothesis =>
    rw [List.foldl_append]
    exact follows_read inductionHypothesis byte

end Reader

/-! ## Decoding -/

theorem mapM_scalar?_eq_some_iff (pieces : List Piece) (text : List Char) :
    pieces.mapM Piece.scalar? = some text ↔ pieces = text.map .scalar := by
  induction pieces generalizing text with
  | nil => cases text <;> simp
  | cons piece pieces inductionHypothesis =>
    have read : (piece :: pieces).mapM Piece.scalar? = some text ↔
        ∃ character, piece.scalar? = some character ∧
          ∃ rest, pieces = rest.map .scalar ∧ character :: rest = text := by
      simp only [List.mapM_cons, Option.pure_def, Option.bind_eq_bind, Option.bind_eq_some_iff,
        Option.some.injEq, inductionHypothesis]
    rw [read]
    cases piece with
    | illFormed => cases text <;> simp [Piece.scalar?]
    | scalar character =>
      cases text with
      | nil => simp [Piece.scalar?]
      | cons first text =>
        simp only [Piece.scalar?, Option.some.injEq, List.map_cons, List.cons.injEq,
          Piece.scalar.injEq, exists_eq_left']
        exact ⟨fun ⟨rest, spelled, same, agree⟩ => ⟨same, agree ▸ spelled⟩,
          fun ⟨same, spelled⟩ => ⟨text, spelled, same, rfl⟩⟩

theorem pieces_encode (text : List Char) : pieces (encode text) = text.map .scalar := by
  rw [pieces, Reader.start, Reader.foldl_encode, Reader.close, List.append_nil,
    List.reverse_reverse]

theorem encode_of_pieces (known : pieces bytes = text.map .scalar) : encode text = bytes := by
  have follows := Reader.follows_foldl bytes
  unfold pieces at known
  generalize bytes.foldl Reader.read Reader.start = reader at known follows
  obtain ⟨finished, position⟩ := reader
  cases position with
  | between => exact follows text known
  | inside bits next later =>
    obtain ⟨_, _, -, -, isScalar⟩ := Reader.text_of_finished known
    contradiction

/-- Bytes are decoded exactly if they are those of a text, and to that text. -/
theorem decode_eq_some_iff (bytes : List UInt8) (text : List Char) :
    decode bytes = some text ↔ encode text = bytes := by
  rw [decode, mapM_scalar?_eq_some_iff]
  constructor
  · exact encode_of_pieces
  · rintro rfl
    exact pieces_encode text

theorem decodeString_eq_some_iff (bytes : List UInt8) (text : String) :
    decodeString bytes = some text ↔ encodeString text = bytes := by
  rw [decodeString, Option.map_eq_some_iff, encodeString]
  constructor
  · rintro ⟨characters, decoded, rfl⟩
    rw [String.toList_ofList]
    exact (decode_eq_some_iff bytes characters).1 decoded
  · intro encoded
    exact ⟨text.toList, (decode_eq_some_iff bytes _).2 encoded, String.ofList_toList⟩

end HubRelay.Text.Utf8
