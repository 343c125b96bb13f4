import HubRelay.Transport.MessageReader

/-!
Contract: what a client says, whatever attempts to read it are given up.

Owns: the messages in a row of what a source has, that attempts to read one after the other answer
exactly these, and what a reader that has taken in a part of the row still reads.

Does not own: who attempts to read, and when an attempt is given up.

The messages are read off the frames alone, past pauses.  The induction is along the row; a reader
carries over what it has of the message under way.
-/

namespace HubRelay

namespace MessageReader

/-- The payloads in a row, up to the first answer that is none, and that answer if there is one. -/
def transcript (reader : MessageReader) (ended : Bool) :
    List SourceItem → List Payload × Option Answer
  | [] => ([], if ended then some (.ok none) else none)
  | .pause :: items => reader.transcript ended items
  | .failure error :: _ => ([], some (.error error))
  | .frame frame :: items =>
    match reader.accept frame with
    | (none, reader) => reader.transcript ended items
    | (some (.ok (some payload)), reader) =>
      (payload :: (reader.transcript ended items).1, (reader.transcript ended items).2)
    | (some answer, _) => ([], some answer)

/-- What outcomes of attempts amount to: the payloads up to the first answer that is none, and that
answer. -/
def digest : List Outcome → List Payload × Option Answer
  | [] => ([], none)
  | .answer (.ok (some payload)) :: outcomes =>
    (payload :: (digest outcomes).1, (digest outcomes).2)
  | .answer answer :: _ => ([], some answer)
  | .waiting :: outcomes | .stalled :: outcomes => digest outcomes

/-- The items of a row that do not hold anybody up. -/
def withoutPauses (items : List SourceItem) : List SourceItem :=
  items.filter (· ≠ .pause)

/-- What a source says to somebody who reads until there is nothing left and is never held up, so
that no attempt is given up. -/
def conversation (limit : Nat) (source : Source) : List Payload × Option Answer :=
  digest (readTimes ((withoutPauses source.items).length + 1) (start limit)
    { source with items := withoutPauses source.items })

/-! ## Taking in a part of a row -/

/-- A reader that takes in some items reads the payloads, and goes on as the later reader, whatever
comes after these items. -/
def Absorbs (reader : MessageReader) (items : List SourceItem) (payloads : List Payload)
    (later : MessageReader) : Prop :=
  ∀ (ended : Bool) (rest : List SourceItem), reader.transcript ended (items ++ rest) =
    (payloads ++ (later.transcript ended rest).1, (later.transcript ended rest).2)

variable {reader later last : MessageReader} {items more rest : List SourceItem}
  {payloads others : List Payload} {ended : Bool}

theorem Absorbs.refl (reader : MessageReader) : reader.Absorbs [] [] reader :=
  fun _ _ => rfl

theorem Absorbs.trans (first : reader.Absorbs items payloads later)
    (second : later.Absorbs more others last) :
    reader.Absorbs (items ++ more) (payloads ++ others) last := by
  intro ended rest
  rw [List.append_assoc, first ended (more ++ rest), second ended rest, List.append_assoc]

theorem absorbs_pause (reader : MessageReader) : reader.Absorbs [.pause] [] reader :=
  fun _ _ => rfl

theorem absorbs_of_none {frame : Frame} (accepted : reader.accept frame = (none, later)) :
    reader.Absorbs [.frame frame] [] later := by
  intro ended rest
  show reader.transcript ended (.frame frame :: rest) = _
  rw [transcript, accepted]
  rfl

theorem absorbs_of_payload {frame : Frame} {payload : Payload}
    (accepted : reader.accept frame = (some (.ok (some payload)), later)) :
    reader.Absorbs [.frame frame] [payload] later := by
  intro ended rest
  show reader.transcript ended (.frame frame :: rest) = _
  rw [transcript, accepted]
  rfl

/-! ## One attempt -/

/-- How an attempt to read can go: it answers a payload or is held up, and has taken in a part of
the row; it takes in the whole row; or it answers what the row comes to. -/
inductive Attempt (reader : MessageReader) (ended : Bool) (items : List SourceItem) :
    Outcome → MessageReader → List SourceItem → Prop where
  | payload (consumed : List SourceItem) {left : List SourceItem} {found : Payload}
      {next : MessageReader}
      (split : items = consumed ++ left) (progress : consumed ≠ [])
      (absorbs : reader.Absorbs consumed [found] next) :
      Attempt reader ended items (.answer (.ok (some found))) next left
  | stalled (consumed : List SourceItem) {left : List SourceItem} {next : MessageReader}
      (split : items = consumed ++ left) (progress : consumed ≠ [])
      (absorbs : reader.Absorbs consumed [] next) :
      Attempt reader ended items .stalled next left
  | waiting {next : MessageReader} (open_ : ended = false)
      (absorbs : reader.Absorbs items [] next) :
      Attempt reader ended items .waiting next []
  | answered {answer : Answer} {left : List SourceItem} {next : MessageReader}
      (comes : reader.transcript ended items = ([], some answer))
      (noPayload : ∀ payload, answer ≠ .ok (some payload)) :
      Attempt reader ended items (.answer answer) next left

theorem Attempt.after {item : SourceItem} {outcome : Outcome} {next : MessageReader}
    {left : List SourceItem} (absorbs : reader.Absorbs [item] [] later)
    (attempt : later.Attempt ended items outcome next left) :
    reader.Attempt ended (item :: items) outcome next left := by
  cases attempt with
  | payload consumed split progress absorbsRest =>
    exact .payload (item :: consumed) (congrArg (item :: ·) split) (List.cons_ne_nil _ _)
      (absorbs.trans absorbsRest)
  | stalled consumed split progress absorbsRest =>
    exact .stalled (item :: consumed) (congrArg (item :: ·) split) (List.cons_ne_nil _ _)
      (absorbs.trans absorbsRest)
  | waiting open_ absorbsRest => exact .waiting open_ (absorbs.trans absorbsRest)
  | answered comes noPayload =>
    have whole := absorbs ended items
    rw [comes] at whole
    exact .answered whole noPayload

/-- Every attempt goes in one of these ways. -/
theorem attempt (reader : MessageReader) (ended : Bool) (items : List SourceItem) :
    reader.Attempt ended items (reader.readItems ended items).1
      (reader.readItems ended items).2.1 (reader.readItems ended items).2.2 := by
  induction items generalizing reader with
  | nil =>
    cases ended with
    | true => exact .answered rfl fun payload => by simp
    | false => exact .waiting rfl (.refl reader)
  | cons item items inductionHypothesis =>
    cases item with
    | pause =>
      exact .stalled [.pause] rfl (List.cons_ne_nil _ _) (absorbs_pause reader)
    | failure error => exact .answered rfl fun payload => by simp
    | frame frame =>
      rw [readItems]
      cases accepted : reader.accept frame with
      | mk answer later =>
        cases answer with
        | none => exact (inductionHypothesis later).after (absorbs_of_none accepted)
        | some answer =>
          by_cases isPayload : ∃ payload, answer = .ok (some payload)
          · obtain ⟨payload, rfl⟩ := isPayload
            exact .payload [.frame frame] rfl (List.cons_ne_nil _ _)
              (absorbs_of_payload accepted)
          · refine .answered ?_ fun payload same => isPayload ⟨payload, same⟩
            rw [transcript, accepted]
            cases answer with
            | error error => rfl
            | ok found =>
              cases found with
              | none => rfl
              | some payload => exact absurd ⟨payload, rfl⟩ isPayload

/-! ## Many attempts -/

theorem digest_readTimes_nil (attempts : Nat) (reader : MessageReader) :
    digest (readTimes attempts reader ⟨[], false⟩) = ([], none) := by
  induction attempts generalizing reader with
  | zero => rfl
  | succ attempts inductionHypothesis => exact inductionHypothesis reader

/-- Enough attempts one after the other read what the source says. -/
theorem digest_readTimes (attempts : Nat) (reader : MessageReader) (source : Source)
    (enough : source.items.length < attempts) :
    digest (readTimes attempts reader source) = reader.transcript source.ended source.items := by
  induction attempts generalizing reader source with
  | zero => omega
  | succ attempts inductionHypothesis =>
    obtain ⟨items, ended⟩ := source
    have goes := attempt reader ended items
    simp only [readTimes, read]
    generalize reader.readItems ended items = result at goes ⊢
    obtain ⟨outcome, next, left⟩ := result
    -- what is left is shorter by what was taken in, which is something
    have fewer {consumed : List SourceItem} (split : items = consumed ++ left)
        (progress : consumed ≠ []) : left.length < attempts := by
      have positive := List.length_pos_iff.2 progress
      have total : items.length = consumed.length + left.length := by
        rw [split, List.length_append]
      have bound : items.length < attempts + 1 := enough
      omega
    cases goes with
    | payload consumed split progress absorbs =>
      have later := inductionHypothesis next ⟨left, ended⟩ (fewer split progress)
      simp only [digest, later]
      rw [split, absorbs ended left]
      rfl
    | stalled consumed split progress absorbs =>
      have later := inductionHypothesis next ⟨left, ended⟩ (fewer split progress)
      simp only [digest, later]
      rw [split, absorbs ended left]
      rfl
    | waiting open_ absorbs =>
      subst open_
      have comes := absorbs false []
      rw [List.append_nil] at comes
      simp only [digest, digest_readTimes_nil, comes]
      rfl
    | answered comes noPayload =>
      rename_i answer
      show digest (.answer answer :: _) = _
      rw [comes]
      cases answer with
      | error error => rfl
      | ok found =>
        cases found with
        | none => rfl
        | some payload => exact absurd rfl (noPayload payload)

/-- Pauses do not count among what is said. -/
theorem transcript_withoutPauses (reader : MessageReader) (ended : Bool)
    (items : List SourceItem) :
    reader.transcript ended (withoutPauses items) = reader.transcript ended items := by
  induction items generalizing reader with
  | nil => rfl
  | cons item items inductionHypothesis =>
    cases item with
    | pause => exact inductionHypothesis reader
    | failure error => rfl
    | frame frame =>
      have kept : withoutPauses (.frame frame :: items) = .frame frame :: withoutPauses items :=
        List.filter_cons_of_pos (by simp)
      rw [kept, transcript, transcript]
      split
      · next later accepted => exact inductionHypothesis later
      · next payload later accepted => rw [inductionHypothesis later]
      · rfl

/-- What a source says is the messages in its row. -/
theorem conversation_eq (limit : Nat) (source : Source) :
    conversation limit source = (start limit).transcript source.ended source.items := by
  rw [← transcript_withoutPauses]
  exact digest_readTimes _ _ _ (Nat.lt_succ_self _)

end MessageReader

end HubRelay
