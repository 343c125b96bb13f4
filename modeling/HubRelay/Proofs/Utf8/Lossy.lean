import HubRelay.Proofs.Utf8

/-!
Contract: ill-formed bytes are cut into maximal pieces, whatever stands around them.

Owns: the pieces of a byte list, told from the bytes of characters alone; that these are the pieces
that a reader finishes; and that a byte that is a character of its own keeps the pieces before it
apart from those after it.

Does not own: what ill-formed pieces are replaced by.

An ill-formed piece is the longest beginning of a character that stands where no character does, or
a single byte if there is none.  A reader finds out the same one byte at a time, for the bytes that
may come next are known from those before.
-/

namespace HubRelay.Text.Utf8

/-! ## Pieces -/

/-- Whether bytes are the beginning of those of some character. -/
def Begins (bytes : List UInt8) : Prop :=
  ∃ character, bytes <+: String.utf8EncodeChar character

/-- Whether the first bytes of a byte list are an ill-formed piece of it: no character stands there,
and no more of the bytes begin one. -/
structure IsIllFormed (part rest : List UInt8) : Prop where
  noCharacter : ∀ character, ¬ String.utf8EncodeChar character <+: part ++ rest
  someByte : part ≠ []
  oneOrBegins : part.length = 1 ∨ Begins part
  longest : ∀ longer, longer <+: part ++ rest → Begins longer → longer.length ≤ part.length

/-- The pieces that a byte list consists of. -/
inductive Consists : List UInt8 → List Piece → Prop
  | nil : Consists [] []
  | scalar (character : Char) {rest : List UInt8} {pieces : List Piece}
      (further : Consists rest pieces) :
      Consists (String.utf8EncodeChar character ++ rest) (.scalar character :: pieces)
  | illFormed {part rest : List UInt8} {pieces : List Piece} (illFormed : IsIllFormed part rest)
      (further : Consists rest pieces) : Consists (part ++ rest) (.illFormed :: pieces)

variable {lead byte : UInt8} {bytes part rest tail : List UInt8} {found finished : List Piece}
  {ranges done later : List (UInt8 × UInt8)} {next : UInt8 × UInt8} {character : Char}

/-! ## The bytes of a character -/

/-- The bytes of a character are a lead and what may follow it. -/
theorem exists_followers (character : Char) :
    ∃ lead tail ranges, String.utf8EncodeChar character = lead :: tail ∧
      followers lead = some ranges ∧ List.Forall₂ Within ranges tail := by
  obtain ⟨lead, tail, spelled, formed, -⟩ := formed_spell character.valid
  obtain ⟨ranges, leads, follows⟩ := followers_of_formed formed
  exact ⟨lead, tail, ranges, spelled, leads, follows⟩

theorem utf8EncodeChar_ne_nil (character : Char) : String.utf8EncodeChar character ≠ [] := by
  obtain ⟨_, _, _, spelled, _⟩ := exists_followers character
  rw [spelled]
  exact nofun

/-- In every place some byte may follow, and none that is a character of its own. -/
theorem range_of_followers (leads : followers lead = some ranges) :
    ∀ range ∈ ranges, 0x80 ≤ range.1.toNat ∧ range.1.toNat ≤ range.2.toNat := by
  rw [followers_eq] at leads
  repeat' split at leads
  all_goals first
    | contradiction
    | obtain rfl := Option.some.inj leads
      simp

/-- What begins a character is a lead and what may follow it. -/
theorem begins_cons_iff : Begins (lead :: tail) ↔
    ∃ done later, followers lead = some (done ++ later) ∧ List.Forall₂ Within done tail := by
  constructor
  · rintro ⟨character, more, same⟩
    obtain ⟨first, others, ranges, spelled, leads, follows⟩ := exists_followers character
    rw [spelled] at same
    obtain ⟨rfl, rfl⟩ := List.cons.inj same
    refine ⟨ranges.take tail.length, ranges.drop tail.length, ?_,
      List.forall₂_take_append ranges tail more follows⟩
    rw [List.take_append_drop, leads]
  · rintro ⟨done, later, leads, matched⟩
    -- the least bytes that may follow complete the character
    have completes : List.Forall₂ Within later (later.map (·.1)) := by
      refine List.forall₂_map_right_iff.2 (List.forall₂_same.2 fun range among => ?_)
      exact ⟨Nat.le_refl _, (range_of_followers leads range (List.mem_append_right _ among)).2⟩
    exact ⟨_, _, (utf8EncodeChar_of_followers leads (List.rel_append matched completes)).symm⟩

/-- A byte in the beginning of a character is in the range of its place. -/
theorem exists_range (matched : List.Forall₂ Within ranges (tail ++ byte :: rest)) :
    ∃ done next later, ranges = done ++ next :: later ∧ done.length = tail.length ∧
      Within next byte := by
  have further := List.forall₂_drop_append ranges tail (byte :: rest) matched
  obtain ⟨next, later, within, -, same⟩ := List.forall₂_cons_right_iff.1 further
  have long := matched.length_eq
  rw [List.length_append] at long
  refine ⟨ranges.take tail.length, next, later, ?_, ?_, within⟩
  · rw [← same, List.take_append_drop]
  · rw [List.length_take]
    omega

/-- The byte that comes next in the beginning of a character is one that may follow. -/
theorem within_of_begins (leads : followers lead = some (done ++ next :: later))
    (matched : List.Forall₂ Within done tail) (begins : Begins (lead :: (tail ++ byte :: rest))) :
    Within next byte := by
  obtain ⟨all, others, leadsAll, follows⟩ := begins_cons_iff.1 begins
  obtain ⟨before, other, afterwards, rfl, length, within⟩ := exists_range follows
  have same : done ++ next :: later = before ++ other :: (afterwards ++ others) := by
    rw [← List.cons_append, ← List.append_assoc]
    exact Option.some.inj (leads.symm.trans leadsAll)
  obtain ⟨-, rest⟩ := List.append_inj same (matched.length_eq.trans length.symm)
  rw [(List.cons.inj rest).1]
  exact within

/-- Only the first byte of a character can be a character of its own. -/
theorem Begins.trails (begins : Begins (lead :: tail)) : ∀ byte ∈ tail, 0x80 ≤ byte.toNat := by
  obtain ⟨ranges, others, leads, matched⟩ := begins_cons_iff.1 begins
  intro byte among
  obtain ⟨before, after, rfl⟩ := List.append_of_mem among
  obtain ⟨done, next, later, rfl, -, within⟩ := exists_range matched
  have low := (range_of_followers leads next (by simp)).1
  exact Nat.le_trans low within.1

theorem Begins.mono {longer : List UInt8} (begins : Begins longer) (within : bytes <+: longer) :
    Begins bytes := by
  obtain ⟨character, same⟩ := begins
  exact ⟨character, within.trans same⟩

/-! ## What a reader finishes -/

namespace Reader

/-- A reader that has finished other pieces before. -/
def after (earlier : List Piece) (reader : Reader) : Reader :=
  ⟨reader.finished ++ earlier, reader.position⟩

theorem read_after (earlier : List Piece) (reader : Reader) (byte : UInt8) :
    (reader.after earlier).read byte = (reader.read byte).after earlier := by
  have leads (finished : List Piece) :
      lead (finished ++ earlier) byte = (lead finished byte).after earlier := by
    unfold lead
    split <;> rfl
  obtain ⟨finished, position⟩ := reader
  cases position with
  | between => exact leads finished
  | inside bits range later =>
    obtain ⟨low, high⟩ := range
    simp only [read, after]
    split
    · cases later <;> rfl
    · exact leads (.illFormed :: finished)

/-- The pieces of further bytes come after those that are finished. -/
theorem close_foldl (finished : List Piece) (bytes : List UInt8) :
    (bytes.foldl read ⟨finished, .between⟩).close = finished.reverse ++ pieces bytes := by
  have moves (reader : Reader) : bytes.foldl read (reader.after finished) =
      (bytes.foldl read reader).after finished := by
    induction bytes generalizing reader with
    | nil => rfl
    | cons byte bytes inductionHypothesis =>
      rw [List.foldl_cons, read_after, inductionHypothesis, List.foldl_cons]
  have closes (reader : Reader) : (reader.after finished).close =
      finished.reverse ++ reader.close := by
    obtain ⟨own, position⟩ := reader
    cases position with
    | between => exact List.reverse_append
    | inside => exact @List.reverse_append _ (.illFormed :: own) finished
  exact (congrArg close (moves start)).trans (closes _)

/-- The first bytes of a character leave it open. -/
theorem foldl_partly (matched : List.Forall₂ Within done tail) (bits : Nat)
    {first : UInt8 × UInt8} {others : List (UInt8 × UInt8)}
    (same : first :: others = done ++ next :: later) :
    tail.foldl read ⟨finished, .inside bits first others⟩ =
      ⟨finished, .inside (gather bits tail) next later⟩ := by
  induction matched generalizing bits first others with
  | nil =>
    obtain ⟨rfl, rfl⟩ := List.cons.inj same
    rfl
  | @cons range byte done tail within matched inductionHypothesis =>
    obtain ⟨rfl, rfl⟩ := List.cons.inj same
    obtain ⟨second, more, again⟩ := List.exists_cons_of_ne_nil
      (List.append_ne_nil_of_right_ne_nil done (List.cons_ne_nil next later))
    have step : read ⟨finished, .inside bits first (done ++ next :: later)⟩ byte =
        ⟨finished, .inside (bits * 64 + (byte.toNat - 0x80)) second more⟩ := by
      rw [read_within within, again]
    refine Eq.trans (congrArg (List.foldl read · tail) step) ?_
    rw [gather_cons]
    exact inductionHypothesis _ again.symm

end Reader

theorem pieces_utf8EncodeChar (character : Char) (rest : List UInt8) :
    pieces (String.utf8EncodeChar character ++ rest) = .scalar character :: pieces rest := by
  rw [pieces, List.foldl_append, Reader.start, Reader.foldl_utf8EncodeChar, Reader.close_foldl]
  rfl

/-- A byte that leads nothing is a piece. -/
theorem pieces_stray (stray : followers lead = none) (rest : List UInt8) :
    pieces (lead :: rest) = .illFormed :: pieces rest := by
  have read : Reader.start.read lead = ⟨[.illFormed], .between⟩ := by
    show Reader.lead [] lead = _
    rw [Reader.lead, stray]
  rw [pieces, List.foldl_cons, read, Reader.close_foldl]
  rfl

/-- A character that is cut short is a piece. -/
theorem pieces_cut (leads : followers lead = some (done ++ next :: later))
    (matched : List.Forall₂ Within done tail) (cut : ∀ byte ∈ rest.head?, ¬ Within next byte) :
    pieces (lead :: tail ++ rest) = .illFormed :: pieces rest := by
  obtain ⟨first, others, same⟩ := List.exists_cons_of_ne_nil
    (List.append_ne_nil_of_right_ne_nil done (List.cons_ne_nil next later))
  have opens : Reader.start.read lead = ⟨[], .inside (leadBits lead) first others⟩ := by
    show Reader.lead [] lead = _
    rw [Reader.lead, leads, same]
  rw [pieces, List.foldl_append, List.foldl_cons, opens, Reader.foldl_partly matched _ same.symm]
  cases rest with
  | nil => rfl
  | cons byte rest =>
    have outside : ¬ Within next byte := cut byte rfl
    have closes : Reader.read ⟨[], .inside (gather (leadBits lead) tail) next later⟩ byte =
        Reader.read ⟨[.illFormed], .between⟩ byte := by
      obtain ⟨low, high⟩ := next
      refine if_neg fun inRange => outside ⟨?_, ?_⟩
      · exact UInt8.le_iff_toNat_le.1 inRange.1
      · exact UInt8.le_iff_toNat_le.1 inRange.2
    rw [List.foldl_cons, closes, ← List.foldl_cons, Reader.close_foldl]
    rfl

/-! ## The pieces that are finished are the pieces -/

/-- After a lead either a whole character follows, or it is cut short. -/
theorem exists_matched (ranges : List (UInt8 × UInt8)) (bytes : List UInt8) :
    (∃ tail rest, bytes = tail ++ rest ∧ List.Forall₂ Within ranges tail) ∨
      ∃ done next later tail rest, ranges = done ++ next :: later ∧ bytes = tail ++ rest ∧
        List.Forall₂ Within done tail ∧ ∀ byte ∈ rest.head?, ¬ Within next byte := by
  induction ranges generalizing bytes with
  | nil => exact .inl ⟨[], bytes, rfl, .nil⟩
  | cons range ranges inductionHypothesis =>
    cases bytes with
    | nil => exact .inr ⟨[], range, ranges, [], [], rfl, rfl, .nil, nofun⟩
    | cons byte bytes =>
      by_cases within : Within range byte
      · rcases inductionHypothesis bytes with ⟨tail, rest, rfl, matched⟩ |
          ⟨done, next, later, tail, rest, rfl, rfl, matched, cut⟩
        · exact .inl ⟨byte :: tail, rest, rfl, .cons within matched⟩
        · exact .inr ⟨range :: done, next, later, byte :: tail, rest, rfl, rfl,
            .cons within matched, cut⟩
      · refine .inr ⟨[], range, ranges, [], byte :: bytes, rfl, rfl, .nil, ?_⟩
        rintro _ ⟨⟩
        exact within

theorem isIllFormed_stray (stray : followers lead = none) (rest : List UInt8) :
    IsIllFormed [lead] rest := by
  have none (tail : List UInt8) : ¬ Begins (lead :: tail) := by
    intro begins
    obtain ⟨done, later, leads, -⟩ := begins_cons_iff.1 begins
    rw [stray] at leads
    cases leads
  refine ⟨fun character stands => ?_, nofun, .inl rfl, fun longer within begins => ?_⟩
  · obtain ⟨first, tail, _, spelled, _⟩ := exists_followers character
    rw [spelled] at stands
    obtain ⟨rfl, -⟩ := List.cons_prefix_cons.1 stands
    exact none tail ⟨character, spelled ▸ List.prefix_rfl⟩
  · cases longer with
    | nil => exact Nat.zero_le 1
    | cons first tail =>
      obtain ⟨rfl, -⟩ := List.cons_prefix_cons.1 within
      exact absurd begins (none tail)

theorem isIllFormed_cut (leads : followers lead = some (done ++ next :: later))
    (matched : List.Forall₂ Within done tail) (cut : ∀ byte ∈ rest.head?, ¬ Within next byte) :
    IsIllFormed (lead :: tail) rest := by
  have longest (longer : List UInt8) (within : longer <+: lead :: tail ++ rest)
      (begins : Begins longer) : longer.length ≤ (lead :: tail).length := by
    by_contra tooLong
    obtain ⟨more, rfl⟩ : lead :: tail <+: longer :=
      List.prefix_of_prefix_length_le (List.prefix_append _ _) within (by omega)
    cases more with
    | nil => simp at tooLong
    | cons byte more =>
      obtain ⟨others, same⟩ := (List.prefix_append_right_inj _).1 within
      have first : byte ∈ rest.head? := by
        rw [← same]
        rfl
      exact cut byte first (within_of_begins leads matched begins)
  refine ⟨fun character stands => ?_, nofun, .inr ?_, longest⟩
  · have short := longest _ stands ⟨character, List.prefix_rfl⟩
    obtain ⟨first, others, ranges, spelled, leadsAll, follows⟩ := exists_followers character
    rw [spelled] at stands short
    obtain ⟨rfl, -⟩ := List.cons_prefix_cons.1 stands
    obtain rfl := Option.some.inj (leads.symm.trans leadsAll)
    have lengths := follows.length_eq
    have lengthsDone := matched.length_eq
    simp only [List.length_append, List.length_cons] at lengths short
    omega
  · exact begins_cons_iff.2 ⟨done, next :: later, leads, matched⟩

/-- At the front of some bytes there is a character or an ill-formed piece, which is what a reader
finishes first. -/
theorem exists_front (byte : UInt8) (bytes : List UInt8) :
    (∃ character rest, byte :: bytes = String.utf8EncodeChar character ++ rest) ∨
      ∃ part rest, byte :: bytes = part ++ rest ∧ IsIllFormed part rest ∧
        pieces (byte :: bytes) = .illFormed :: pieces rest := by
  cases leads : followers byte with
  | none => exact .inr ⟨[byte], bytes, rfl, isIllFormed_stray leads bytes, pieces_stray leads bytes⟩
  | some ranges =>
    rcases exists_matched ranges bytes with ⟨tail, rest, rfl, matched⟩ |
      ⟨done, next, later, tail, rest, rfl, rfl, matched, cut⟩
    · refine .inl ⟨Char.ofNat (gather (leadBits byte) tail), rest, ?_⟩
      rw [utf8EncodeChar_of_followers leads matched]
      rfl
    · exact .inr ⟨byte :: tail, rest, rfl, isIllFormed_cut leads matched cut,
        pieces_cut leads matched cut⟩

theorem IsIllFormed.length_le {other again : List UInt8} (illFormed : IsIllFormed part rest)
    (illFormedOther : IsIllFormed other again) (same : part ++ rest = other ++ again) :
    part.length ≤ other.length := by
  rcases illFormed.oneOrBegins with one | begins
  · rw [one]
    exact List.length_pos_iff.2 illFormedOther.someByte
  · exact illFormedOther.longest part (same ▸ List.prefix_append part rest) begins

/-- A byte list has at most one ill-formed piece at its front. -/
theorem IsIllFormed.unique {other again : List UInt8} (illFormed : IsIllFormed part rest)
    (illFormedOther : IsIllFormed other again) (same : part ++ rest = other ++ again) :
    part = other ∧ rest = again :=
  List.append_inj same (Nat.le_antisymm (illFormed.length_le illFormedOther same)
    (illFormedOther.length_le illFormed same.symm))

theorem pieces_illFormed (illFormed : IsIllFormed part rest) :
    pieces (part ++ rest) = .illFormed :: pieces rest := by
  cases whole : part ++ rest with
  | nil => exact absurd (List.append_eq_nil_iff.1 whole).1 illFormed.someByte
  | cons byte bytes =>
    rcases exists_front byte bytes with ⟨character, further, same⟩ |
      ⟨other, again, same, illFormedOther, reads⟩
    · exact absurd ⟨further, (whole.trans same).symm⟩ (illFormed.noCharacter character)
    · rw [reads, (illFormed.unique illFormedOther (whole.trans same)).2]

theorem consists_pieces (bytes : List UInt8) : Consists bytes (pieces bytes) := by
  induction size : bytes.length using Nat.strongRecOn generalizing bytes with
  | ind count inductionHypothesis =>
  cases bytes with
  | nil => exact .nil
  | cons byte bytes =>
    have shorter {part rest : List UInt8} (same : byte :: bytes = part ++ rest)
        (someByte : part ≠ []) : Consists rest (pieces rest) := by
      have lengths := congrArg List.length same
      have positive := List.length_pos_iff.2 someByte
      rw [List.length_append] at lengths
      exact inductionHypothesis rest.length (by omega) rest rfl
    rcases exists_front byte bytes with ⟨character, rest, same⟩ |
      ⟨part, rest, same, illFormed, reads⟩
    · rw [same, pieces_utf8EncodeChar]
      exact .scalar character (shorter same (utf8EncodeChar_ne_nil character))
    · rw [reads, same]
      exact .illFormed illFormed (shorter same illFormed.someByte)

/-- A byte list consists of the pieces that a reader finishes, and of no others. -/
theorem consists_iff : Consists bytes found ↔ pieces bytes = found := by
  constructor
  · intro consists
    induction consists with
    | nil => rfl
    | scalar character further inductionHypothesis =>
      rw [pieces_utf8EncodeChar, inductionHypothesis]
    | illFormed illFormed further inductionHypothesis =>
      rw [pieces_illFormed illFormed, inductionHypothesis]
  · rintro rfl
    exact consists_pieces bytes

/-! ## Bytes that are characters of their own -/

/-- What begins a character ends before such a byte, unless it starts there. -/
theorem prefix_of_begins (small : byte.toNat ≤ 0x7F) (someByte : bytes ≠ [])
    {longer further : List UInt8} (within : longer <+: bytes ++ byte :: further)
    (begins : Begins longer) : longer <+: bytes := by
  rcases List.prefix_or_prefix_of_prefix within (List.prefix_append _ _) with short | ⟨more, rfl⟩
  · exact short
  · cases more with
    | nil => simp
    | cons first more =>
      obtain ⟨rfl, -⟩ := List.cons_prefix_cons.1 ((List.prefix_append_right_inj _).1 within)
      obtain ⟨lead, tail, rfl⟩ := List.exists_cons_of_ne_nil someByte
      have high := begins.trails first (by simp)
      omega

theorem IsIllFormed.append_cons (small : byte.toNat ≤ 0x7F) (illFormed : IsIllFormed part rest)
    (further : List UInt8) : IsIllFormed part (rest ++ byte :: further) := by
  have someByte : part ++ rest ≠ [] := fun empty =>
    illFormed.someByte (List.append_eq_nil_iff.1 empty).1
  refine ⟨fun character stands => ?_, illFormed.someByte, illFormed.oneOrBegins,
    fun longer within begins => ?_⟩
  · rw [← List.append_assoc] at stands
    exact illFormed.noCharacter character
      (prefix_of_begins small someByte stands ⟨character, List.prefix_rfl⟩)
  · rw [← List.append_assoc] at within
    exact illFormed.longest longer (prefix_of_begins small someByte within begins) begins

/-- A byte that is a character of its own keeps the pieces before it apart from those after it. -/
theorem pieces_append_cons (small : byte.toNat ≤ 0x7F) (before further : List UInt8) :
    pieces (before ++ byte :: further) = pieces before ++ pieces (byte :: further) := by
  have apart {found : List Piece} (consists : Consists before found) :
      Consists (before ++ byte :: further) (found ++ pieces (byte :: further)) := by
    induction consists with
    | nil => exact consists_pieces _
    | scalar character consists inductionHypothesis =>
      rw [List.append_assoc]
      exact .scalar character inductionHypothesis
    | illFormed illFormed consists inductionHypothesis =>
      rw [List.append_assoc]
      exact .illFormed (illFormed.append_cons small further) inductionHypothesis
  exact consists_iff.1 (apart (consists_pieces before))

end HubRelay.Text.Utf8
