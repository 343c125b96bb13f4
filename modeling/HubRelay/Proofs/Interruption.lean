import HubRelay.Proofs.Reassembly

/-!
Contract: what interrupts a client does not change what it says.

Owns: which items of a row are interruptions, what a reader itself says about an item, that an
interruption leaves the reader as it is, and that a row is read as if its interruptions were not
there.

Does not own: how messages are put together from their frames.

Whether a frame interrupts shows in the answer that it gets, so the interruptions of a row are told
from its trace.  The induction is along the row, for any reader: an item that is taken out has not
changed the reader, and an item that stays meets the same reader in both rows.
-/

namespace HubRelay

namespace MessageReader

/-- Whether an item was an interruption: an attempt was given up while it waited, the source failed,
the client closed, or a frame was refused because it came out of turn. -/
def interrupts : SourceItem × Option Outcome → Bool
  | (.pause, _) | (.failure _, _) | (.frame .close, _) => true
  | (.frame _, some (.answer (.error (.protocol _)))) => true
  | (.frame _, _) => false

/-- A row without its interruptions. -/
def uninterrupted (reader : MessageReader) (items : List SourceItem) : List SourceItem :=
  ((reader.trace items).filter fun entry => !interrupts entry).map Prod.fst

/-- What a reader itself says about an item: a payload, that a text is ill-formed, or that a message
is too long.  The same words from a failing source do not count. -/
def reply? : SourceItem × Option Outcome → Option Answer
  | (.frame _, some (.answer (.ok (some payload)))) => some (.ok (some payload))
  | (.frame _, some (.answer (.error .invalidUtf8))) => some (.error .invalidUtf8)
  | (.frame _, some (.answer (.error (.tooLarge limit)))) => some (.error (.tooLarge limit))
  | _ => none

/-! ## One item -/

/-- Data that is taken in is answered with nothing or with what the reader itself has to say. -/
theorem append_replies (reader : MessageReader) (kind : MessageKind) (data : List UInt8)
    (last : Bool) (frame : Frame) :
    let outcome := (reader.append kind data last).1.map Outcome.answer
    interrupts (.frame frame, outcome) = interrupts (.frame frame, none) ∧
      (reply? (.frame frame, outcome)).map Outcome.answer = outcome := by
  unfold append
  split
  · cases frame <;> exact ⟨rfl, rfl⟩
  · split
    · simp only [Option.map_some]
      cases answered : payload kind (reader.buffer ++ data) with
      | ok found =>
        cases found with
        | none => exact absurd answered (payload_ne_close kind _)
        | some payload => cases frame <;> exact ⟨rfl, rfl⟩
      | error error =>
        obtain ⟨rfl, -⟩ := (payload_eq_error_iff kind _ error).1 answered
        cases frame <;> exact ⟨rfl, rfl⟩
    · cases frame <;> exact ⟨rfl, rfl⟩

/-- An interruption leaves the reader as it is and is no reply of the reader; whatever else is
answered is a reply. -/
theorem meet_cases (reader : MessageReader) (item : SourceItem) :
    (interrupts (item, (reader.meet item).1) = true ∧ (reader.meet item).2 = reader ∧
      reply? (item, (reader.meet item).1) = none) ∨
    interrupts (item, (reader.meet item).1) = false ∧
      (reply? (item, (reader.meet item).1)).map Outcome.answer = (reader.meet item).1 := by
  cases item with
  | pause | failure error => exact Or.inl ⟨rfl, rfl, rfl⟩
  | frame frame =>
    simp only [meet, accept]
    split
    · exact Or.inl ⟨rfl, rfl, rfl⟩
    · exact Or.inl ⟨rfl, rfl, rfl⟩
    · exact Or.inr (reader.append_replies _ _ _ _)
    · exact Or.inr (reader.append_replies _ _ _ _)
    · exact Or.inl ⟨rfl, rfl, rfl⟩

/-! ## Along a row -/

/-- What is left of a row when its interruptions are taken out is answered as before, and leads to
the same reader. -/
theorem trace_uninterrupted (reader : MessageReader) (items : List SourceItem) :
    reader.trace (reader.uninterrupted items) =
        (reader.trace items).filter (fun entry => !interrupts entry) ∧
      reader.after (reader.uninterrupted items) = reader.after items := by
  induction items generalizing reader with
  | nil => exact ⟨rfl, rfl⟩
  | cons item items inductionHypothesis =>
    obtain ⟨answered, led⟩ := inductionHypothesis (reader.meet item).2
    rcases reader.meet_cases item with ⟨interrupted, same, -⟩ | ⟨kept, -⟩
    · have taken : reader.uninterrupted (item :: items) = reader.uninterrupted items := by
        rw [uninterrupted, trace, List.filter_cons_of_neg (by simp [interrupted]), same]
        rfl
      have past : reader.after (item :: items) = (reader.meet item).2.after items := rfl
      rw [same] at answered led past
      rw [taken, past, trace, List.filter_cons_of_neg (by simp [interrupted]), same]
      exact ⟨answered, led⟩
    · have stays : reader.uninterrupted (item :: items) =
          item :: (reader.meet item).2.uninterrupted items := by
        rw [uninterrupted, trace, List.filter_cons_of_pos (by simp [kept])]
        rfl
      rw [stays, trace, trace, List.filter_cons_of_pos (by simp [kept]), answered]
      exact ⟨rfl, led⟩

/-- The replies of a reader are the outcomes of the row without its interruptions. -/
theorem outcomes_uninterrupted (reader : MessageReader) (items : List SourceItem) :
    reader.outcomes (reader.uninterrupted items) =
      ((reader.trace items).filterMap reply?).map Outcome.answer := by
  rw [outcomes, (reader.trace_uninterrupted items).1, List.filterMap_filter, List.map_filterMap]
  refine List.filterMap_congr fun entry among => ?_
  obtain ⟨later, answered⟩ := mem_trace among
  obtain ⟨item, outcome⟩ := entry
  obtain rfl : outcome = (later.meet item).1 := answered
  rcases later.meet_cases item with ⟨interrupted, -, silent⟩ | ⟨kept, replied⟩
  · simp only [interrupted, silent, Bool.not_true, Bool.false_eq_true, if_false, Option.map_none]
  · simp only [kept, replied, Bool.not_false, if_true]

/-- A reader says the same whether it is interrupted or not.

Attempts to read a row answer its items in order.  Attempts to read what is left when all
interruptions are taken out answer exactly what the reader itself said about the whole row: every
item that is left gets the answer that it got before, and the message under way is the same in the
end. -/
theorem interruptions_harmless (limit : Nat) (items : List SourceItem) (ended : Bool) :
    (∀ attempts, readTimes attempts (start limit) ⟨items, ended⟩ =
      (((start limit).trace items).filterMap Prod.snd ++
        List.replicate attempts (exhausted ended)).take attempts) ∧
    (∀ attempts, readTimes attempts (start limit) ⟨(start limit).uninterrupted items, ended⟩ =
      ((((start limit).trace items).filterMap reply?).map Outcome.answer ++
        List.replicate attempts (exhausted ended)).take attempts) ∧
    (start limit).trace ((start limit).uninterrupted items) =
      ((start limit).trace items).filter (fun entry => !interrupts entry) ∧
    (start limit).after ((start limit).uninterrupted items) = (start limit).after items := by
  refine ⟨fun attempts => ?_, fun attempts => ?_, (start limit).trace_uninterrupted items⟩
  · exact readTimes_outcomes ended (Nat.le_refl attempts) _ items
  · rw [← outcomes_uninterrupted]
    exact readTimes_outcomes ended (Nat.le_refl attempts) _ _

-- A pause, a failure that only sounds like one of the reader, a close and a frame out of turn, all
-- in the middle of a message.
example :
    readTimes 5 (start 9) ⟨[.frame (.start .binary [1] false), .pause, .failure .invalidUtf8,
        .frame .close, .frame (.start .text [] true), .frame (.continuation [2] true)], true⟩ =
      [.stalled, .answer (.error .invalidUtf8), .answer (.ok none),
        .answer (.error .unfinishedMessage), .answer (.ok (some (.binary [1, 2])))] :=
  rfl

end MessageReader

end HubRelay
