import HubRelay.Proofs.Utf8
import HubRelay.Transport.MessageReader

/-!
Contract: messages are put together from their frames exactly.

Owns: what a row of items makes a reader answer item by item, that attempts to read answer this in
order, which frames are in the message under way, the answer that is due to every frame up to the
first one that makes a message too long, and that messages cut in any way are read back.

Does not own: what is read after a message was too long, and attempts that are given up.

The message under way is told from the answers alone: it is the frames that were not refused since
the last message was finished.  The invariant ties the buffer of the reader to these frames.
-/

namespace HubRelay

/-! ## Frames of one message -/

namespace Frame

def data : Frame → List UInt8
  | .start _ data _ | .continuation data _ => data
  | .close => []

def isLast : Frame → Bool
  | .start _ _ last | .continuation _ last => last
  | .close => true

/-- The bytes of some frames, one after the other. -/
def bytes (frames : List Frame) : List UInt8 :=
  frames.flatMap data

/-- The kind of the message that some frames make up, which its first frame tells. -/
def kind? : List Frame → Option MessageKind
  | .start kind _ _ :: _ => some kind
  | _ => none

/-- Whether a frame can be taken in when the message under way has some frames: the first frame of a
message when there are none, and a further frame when there are some. -/
def InTurn (run : List Frame) : Frame → Prop
  | .start _ _ _ => run = []
  | .continuation _ _ => run ≠ []
  | .close => False

/-- Whether some frames can be a message under way: nothing, or a first frame and further ones, and
none of them the last. -/
def IsRun : List Frame → Prop
  | [] => True
  | .start _ _ false :: rest => ∀ frame ∈ rest, ∃ data, frame = .continuation data false
  | _ => False

theorem bytes_concat (run : List Frame) (frame : Frame) :
    bytes (run ++ [frame]) = bytes run ++ frame.data := by
  simp only [bytes, List.flatMap_append, List.flatMap_cons, List.flatMap_nil, List.append_nil]

end Frame

/-- Whether a payload has a kind and bytes: a text is encoded in its bytes. -/
def Payload.Carries (payload : Payload) (kind : MessageKind) (bytes : List UInt8) : Prop :=
  match kind, payload with
  | .text, .text body => Text.Utf8.encodeString body = bytes
  | .binary, .binary body => body = bytes
  | _, _ => False

/-- A message of a kind, cut into a first fragment and further ones. -/
structure Cut where
  kind : MessageKind
  first : List UInt8
  rest : List (List UInt8)

namespace Cut

def bytes (cut : Cut) : List UInt8 :=
  cut.first ++ cut.rest.flatten

/-- The frames of further fragments; the last one is marked. -/
def further : List (List UInt8) → List Frame
  | [] => []
  | data :: rest => .continuation data rest.isEmpty :: further rest

def frames (cut : Cut) : List Frame :=
  .start cut.kind cut.first cut.rest.isEmpty :: further cut.rest

/-- The frames of messages, one message after the other. -/
def items (cuts : List Cut) : List SourceItem :=
  (cuts.flatMap frames).map .frame

end Cut

namespace MessageReader

variable {reader : MessageReader} {limit : Nat} {run : List Frame} {frame : Frame}
  {kind : MessageKind} {data : List UInt8} {last : Bool}

/-! ## Item by item -/

/-- What one item of a row makes a reader answer, if anything, and the reader afterwards. -/
def meet (reader : MessageReader) : SourceItem → Option Outcome × MessageReader
  | .pause => (some .stalled, reader)
  | .failure error => (some (.answer (.error error)), reader)
  | .frame frame => ((reader.accept frame).1.map .answer, (reader.accept frame).2)

/-- A row with what each item makes a reader answer. -/
def trace : MessageReader → List SourceItem → List (SourceItem × Option Outcome)
  | _, [] => []
  | reader, item :: items => (item, (reader.meet item).1) :: (reader.meet item).2.trace items

/-- A reader that has met the items of a row. -/
def after (reader : MessageReader) (items : List SourceItem) : MessageReader :=
  items.foldl (fun reader item => (reader.meet item).2) reader

/-- What a row makes a reader answer. -/
def outcomes (reader : MessageReader) (items : List SourceItem) : List Outcome :=
  (reader.trace items).filterMap (·.2)

/-- How an attempt goes that finds nothing. -/
def exhausted (ended : Bool) : Outcome :=
  if ended then .answer (.ok none) else .waiting

theorem outcomes_cons (reader : MessageReader) (item : SourceItem) (items : List SourceItem) :
    reader.outcomes (item :: items) =
      (reader.meet item).1.toList ++ (reader.meet item).2.outcomes items := by
  unfold outcomes
  rw [trace, List.filterMap_cons]
  cases (reader.meet item).1 <;> rfl

theorem outcomes_append (reader : MessageReader) (items more : List SourceItem) :
    reader.outcomes (items ++ more) =
      reader.outcomes items ++ (reader.after items).outcomes more := by
  induction items generalizing reader with
  | nil => rfl
  | cons item items inductionHypothesis =>
    rw [List.cons_append, outcomes_cons, outcomes_cons, inductionHypothesis, List.append_assoc]
    rfl

/-- One attempt answers the first outcome of a row and leaves the rest. -/
theorem readItems_outcomes (reader : MessageReader) (ended : Bool) (items : List SourceItem) :
    (∃ outcome next left, reader.readItems ended items = (outcome, next, left) ∧
      reader.outcomes items = outcome :: next.outcomes left) ∨
    ∃ next, reader.readItems ended items = (exhausted ended, next, []) ∧
      reader.outcomes items = [] := by
  induction items generalizing reader with
  | nil => exact Or.inr ⟨reader, rfl, rfl⟩
  | cons item items inductionHypothesis =>
    rw [outcomes_cons]
    cases item with
    | pause => exact Or.inl ⟨_, _, _, rfl, rfl⟩
    | failure error => exact Or.inl ⟨_, _, _, rfl, rfl⟩
    | frame frame =>
      rw [readItems, meet]
      cases reader.accept frame with
      | mk answer later =>
        cases answer with
        | some answer => exact Or.inl ⟨_, _, _, rfl, rfl⟩
        | none => exact inductionHypothesis later

/-- Attempts one after the other answer the outcomes of a row, and then find nothing. -/
theorem readTimes_outcomes (ended : Bool) {attempts count : Nat} (enough : attempts ≤ count)
    (reader : MessageReader) (items : List SourceItem) :
    readTimes attempts reader ⟨items, ended⟩ =
      (reader.outcomes items ++ List.replicate count (exhausted ended)).take attempts := by
  induction attempts generalizing count reader items with
  | zero => rfl
  | succ attempts inductionHypothesis =>
    rw [readTimes, read]
    rcases reader.readItems_outcomes ended items with
      ⟨outcome, next, left, goes, first⟩ | ⟨next, goes, nothing⟩
    · rw [goes, first, List.cons_append, List.take_succ_cons]
      exact congrArg _ (inductionHypothesis (Nat.le_of_succ_le enough) next left)
    · obtain ⟨rest, rfl⟩ := Nat.exists_eq_add_of_le' enough
      rw [goes, nothing, List.nil_append, ← Nat.add_assoc, List.replicate_succ, List.take_succ_cons]
      exact congrArg _ (inductionHypothesis (Nat.le_add_left _ _) next [])

/-! ## The message under way -/

/-- The frame of an item, unless it was refused. -/
def accepted? : SourceItem × Option Outcome → Option Frame
  | (.frame .close, _) => none
  | (.frame frame, none) => some frame
  | (.frame frame, some (.answer (.ok _))) => some frame
  | (.frame frame, some (.answer (.error .invalidUtf8))) => some frame
  | _ => none

/-- The message under way after one more item. -/
def goOn (run : List Frame) (entry : SourceItem × Option Outcome) : List Frame :=
  match accepted? entry with
  | none => run
  | some frame => if frame.isLast then [] else run ++ [frame]

/-- The frames of the message under way: those that were not refused since the last one that
finished a message. -/
def underWay (past : List (SourceItem × Option Outcome)) : List Frame :=
  past.foldl goOn []

/-- A reader holds the message under way, which is not too long. -/
structure Holds (reader : MessageReader) (limit : Nat) (run : List Frame) : Prop where
  limited : reader.limit = limit
  buffered : reader.buffer = Frame.bytes run
  kinded : reader.kind = Frame.kind? run
  isRun : Frame.IsRun run
  fits : (Frame.bytes run).length ≤ limit

theorem holds_start (limit : Nat) : (start limit).Holds limit [] :=
  ⟨rfl, rfl, rfl, trivial, Nat.zero_le limit⟩

/-! ## The answer that is due -/

theorem payload_eq_ok_iff (kind : MessageKind) (data : List UInt8) (found : Payload) :
    payload kind data = .ok (some found) ↔ found.Carries kind data := by
  cases kind with
  | binary => cases found <;> simp [payload, Payload.Carries, eq_comm]
  | text =>
    simp only [payload]
    cases decoded : Text.Utf8.decodeString data with
    | none =>
      cases found with
      | text body =>
        simp only [reduceCtorEq, false_iff, Payload.Carries]
        intro spelled
        rw [(Text.Utf8.decodeString_eq_some_iff data body).2 spelled] at decoded
        contradiction
      | _ => simp [Payload.Carries]
    | some text =>
      have spelled := (Text.Utf8.decodeString_eq_some_iff data text).1 decoded
      cases found with
      | text body =>
        simp only [Except.ok.injEq, Option.some.injEq, Payload.text.injEq, Payload.Carries]
        constructor
        · rintro rfl
          exact spelled
        · intro other
          rw [(Text.Utf8.decodeString_eq_some_iff data body).2 other] at decoded
          exact (Option.some.inj decoded).symm
      | _ => simp [Payload.Carries]

theorem payload_eq_error_iff (kind : MessageKind) (data : List UInt8) (error : TransportError) :
    payload kind data = .error error ↔
      error = .invalidUtf8 ∧ kind = .text ∧ ∀ body, Text.Utf8.encodeString body ≠ data := by
  cases kind with
  | binary => simp [payload]
  | text =>
    simp only [payload, ne_eq, ← Text.Utf8.decodeString_eq_some_iff]
    cases Text.Utf8.decodeString data <;> simp [eq_comm]

theorem payload_ne_close (kind : MessageKind) (data : List UInt8) :
    payload kind data ≠ .ok none := by
  cases kind with
  | binary => simp [payload]
  | text =>
    simp only [payload]
    cases Text.Utf8.decodeString data <;> simp

/-- The answer that is due to a frame when the message under way has some frames: nothing to a
further frame that is not the last, the message or that it is ill-formed to the last one, that the
message is too long to the frame that makes it so, and a refusal to a frame out of turn. -/
structure Due (limit : Nat) (run : List Frame) (frame : Frame) (answer : Option Outcome) :
    Prop where
  taken_iff : answer = none ↔ frame.InTurn run ∧ frame.isLast = false ∧
    (Frame.bytes (run ++ [frame])).length ≤ limit
  delivered_iff : ∀ payload, answer = some (.answer (.ok (some payload))) ↔
    frame.InTurn run ∧ frame.isLast = true ∧ (Frame.bytes (run ++ [frame])).length ≤ limit ∧
      ∃ kind, Frame.kind? (run ++ [frame]) = some kind ∧
        payload.Carries kind (Frame.bytes (run ++ [frame]))
  illFormed_iff : answer = some (.answer (.error .invalidUtf8)) ↔
    frame.InTurn run ∧ frame.isLast = true ∧ (Frame.bytes (run ++ [frame])).length ≤ limit ∧
      Frame.kind? (run ++ [frame]) = some .text ∧
        ∀ body, Text.Utf8.encodeString body ≠ Frame.bytes (run ++ [frame])
  tooLong_iff : answer = some (.answer (.error (.tooLarge limit))) ↔
    frame.InTurn run ∧ limit < (Frame.bytes (run ++ [frame])).length
  nothingToContinue_iff : answer = some (.answer (.error .nothingToContinue)) ↔
    run = [] ∧ ∃ data last, frame = .continuation data last
  unfinished_iff : answer = some (.answer (.error .unfinishedMessage)) ↔
    run ≠ [] ∧ ∃ kind data last, frame = .start kind data last
  closed_iff : answer = some (.answer (.ok none)) ↔ frame = .close

theorem kind?_eq_none_iff (isRun : Frame.IsRun run) : Frame.kind? run = none ↔ run = [] := by
  cases run with
  | nil => simp [Frame.kind?]
  | cons first rest => cases first <;> simp_all [Frame.kind?, Frame.IsRun]

/-- A frame in turn is taken in as data of the message that it belongs to. -/
theorem accept_of_inTurn (holds : reader.Holds limit run) (inTurn : frame.InTurn run) :
    ∃ kind, Frame.kind? (run ++ [frame]) = some kind ∧
      reader.accept frame = reader.append kind frame.data frame.isLast := by
  have known := holds.kinded
  cases frame with
  | close => exact inTurn.elim
  | start kind data last =>
    obtain rfl : run = [] := inTurn
    refine ⟨kind, rfl, ?_⟩
    simp only [accept, known, Frame.kind?, Frame.data, Frame.isLast]
  | continuation data last =>
    have notNone : Frame.kind? run ≠ none := fun missing =>
      inTurn ((kind?_eq_none_iff holds.isRun).1 missing)
    obtain ⟨kind, found⟩ := Option.ne_none_iff_exists'.1 notNone
    refine ⟨kind, ?_, ?_⟩
    · cases run with
      | nil => contradiction
      | cons first rest => cases first <;> simp_all [Frame.kind?]
    · simp only [accept, known, found, Frame.data, Frame.isLast]

/-- What becomes of a frame in turn. -/
theorem accept_cases (holds : reader.Holds limit run) (inTurn : frame.InTurn run) :
    ∃ kind, Frame.kind? (run ++ [frame]) = some kind ∧
      (limit < (Frame.bytes (run ++ [frame])).length ∧
        (reader.accept frame).1 = some (.error (.tooLarge limit)) ∨
      (Frame.bytes (run ++ [frame])).length ≤ limit ∧ frame.isLast = true ∧
        reader.accept frame = (some (payload kind (Frame.bytes (run ++ [frame]))), .start limit) ∨
      (Frame.bytes (run ++ [frame])).length ≤ limit ∧ frame.isLast = false ∧
        reader.accept frame = (none, ⟨limit, Frame.bytes (run ++ [frame]), some kind⟩)) := by
  obtain ⟨kind, known, accepted⟩ := accept_of_inTurn holds inTurn
  refine ⟨kind, known, ?_⟩
  have bytes : Frame.bytes (run ++ [frame]) = reader.buffer ++ frame.data := by
    rw [Frame.bytes_concat, holds.buffered]
  rw [accepted, bytes, List.length_append]
  obtain rfl := holds.limited
  unfold append
  split
  · next tooLong => exact Or.inl ⟨tooLong, rfl⟩
  · next fits =>
    right
    split
    · next isLast => exact Or.inl ⟨Nat.le_of_not_lt fits, isLast, rfl⟩
    · next goesOn => exact Or.inr ⟨Nat.le_of_not_lt fits, Bool.eq_false_iff.2 goesOn, rfl⟩

/-- What becomes of a frame out of turn: it leaves the reader as it is. -/
theorem accept_of_not_inTurn (holds : reader.Holds limit run) (outOfTurn : ¬ frame.InTurn run) :
    frame = .close ∧ reader.accept frame = (some (.ok none), reader) ∨
    run = [] ∧ (∃ data last, frame = .continuation data last) ∧
      reader.accept frame = (some (.error .nothingToContinue), reader) ∨
    run ≠ [] ∧ (∃ kind data last, frame = .start kind data last) ∧
      reader.accept frame = (some (.error .unfinishedMessage), reader) := by
  have known := holds.kinded
  cases frame with
  | close => exact Or.inl ⟨rfl, rfl⟩
  | continuation data last =>
    have nothing : run = [] := Classical.not_not.1 outOfTurn
    subst nothing
    refine Or.inr (Or.inl ⟨rfl, ⟨data, last, rfl⟩, ?_⟩)
    simp only [accept, known, Frame.kind?]
  | start kind data last =>
    have something : run ≠ [] := outOfTurn
    obtain ⟨found, here⟩ := Option.ne_none_iff_exists'.1 fun missing =>
      something ((kind?_eq_none_iff holds.isRun).1 missing)
    refine Or.inr (Or.inr ⟨something, ⟨kind, data, last, rfl⟩, ?_⟩)
    simp only [accept, known, here]

theorem due_of_inTurn (holds : reader.Holds limit run) (inTurn : frame.InTurn run) :
    Due limit run frame (reader.meet (.frame frame)).1 := by
  have notAstray : ¬ (run = [] ∧ ∃ data last, frame = .continuation data last) := by
    rintro ⟨nothing, data, last, rfl⟩
    exact inTurn nothing
  have notEarly : ¬ (run ≠ [] ∧ ∃ kind data last, frame = .start kind data last) := by
    rintro ⟨something, kind, data, last, rfl⟩
    exact something inTurn
  have notClose : frame ≠ .close := by
    rintro rfl
    exact inTurn
  obtain ⟨kind, known, ⟨tooLong, accepted⟩ | ⟨fits, isLast, accepted⟩ | ⟨fits, goesOn, accepted⟩⟩ :=
    accept_cases holds inTurn
  · have notFits := Nat.not_le.2 tooLong
    simp only [meet, accepted, Option.map_some]
    constructor <;> simp [*, TransportError.nothingToContinue,
      TransportError.unfinishedMessage, -Bool.exists_bool]
  · have notTooLong := Nat.not_lt.2 fits
    simp only [meet, accepted, Option.map_some]
    constructor <;> simp [*, payload_eq_ok_iff, payload_eq_error_iff, payload_ne_close,
      TransportError.nothingToContinue, TransportError.unfinishedMessage, -Bool.exists_bool]
  · have notTooLong := Nat.not_lt.2 fits
    simp only [meet, accepted, Option.map_none]
    constructor <;> simp [*, TransportError.nothingToContinue,
      TransportError.unfinishedMessage, -Bool.exists_bool]

theorem due_of_not_inTurn (holds : reader.Holds limit run) (outOfTurn : ¬ frame.InTurn run) :
    Due limit run frame (reader.meet (.frame frame)).1 := by
  rcases accept_of_not_inTurn holds outOfTurn with
    ⟨rfl, accepted⟩ | ⟨rfl, ⟨data, last, rfl⟩, accepted⟩ |
      ⟨something, ⟨kind, data, last, rfl⟩, accepted⟩
  all_goals
    simp only [meet, accepted, Option.map_some]
    constructor <;> simp [*, Frame.InTurn, TransportError.nothingToContinue,
      TransportError.unfinishedMessage, -Bool.exists_bool]

/-- A reader that holds the message under way answers every frame as is due. -/
theorem due_of_holds (holds : reader.Holds limit run) (frame : Frame) :
    Due limit run frame (reader.meet (.frame frame)).1 := by
  by_cases inTurn : frame.InTurn run
  · exact due_of_inTurn holds inTurn
  · exact due_of_not_inTurn holds inTurn

/-! ## Along a row -/

/-- An entry is the answer that a frame made a message too long. -/
def Overflows (limit : Nat) (entry : SourceItem × Option Outcome) : Prop :=
  ∃ frame, entry = (.frame frame, some (.answer (.error (.tooLarge limit))))

theorem goOn_none (inTurn : frame.InTurn run) (goesOn : frame.isLast = false) :
    goOn run (.frame frame, none) = run ++ [frame] := by
  cases frame with
  | close => exact inTurn.elim
  | _ => simp only [goOn, accepted?, goesOn, Bool.false_eq_true, if_false]

theorem goOn_payload (inTurn : frame.InTurn run) (isLast : frame.isLast = true)
    (kind : MessageKind) (data : List UInt8) :
    goOn run (.frame frame, some (.answer (payload kind data))) = [] := by
  cases answered : payload kind data with
  | ok found =>
    cases frame with
    | close => exact inTurn.elim
    | _ => simp only [goOn, accepted?, isLast, if_true]
  | error error =>
    obtain ⟨rfl, -⟩ := (payload_eq_error_iff kind data error).1 answered
    cases frame with
    | close => exact inTurn.elim
    | _ => simp only [goOn, accepted?, isLast, if_true]

theorem isRun_concat (isRun : Frame.IsRun run) (inTurn : frame.InTurn run)
    (goesOn : frame.isLast = false) : Frame.IsRun (run ++ [frame]) := by
  cases frame with
  | close => exact inTurn.elim
  | start kind data last =>
    obtain rfl : run = [] := inTurn
    obtain rfl : last = false := goesOn
    exact fun _ none => nomatch none
  | continuation data last =>
    obtain rfl : last = false := goesOn
    match run, isRun with
    | [], _ => exact absurd rfl inTurn
    | .start _ _ false :: rest, allFurther =>
      intro frame among
      rcases List.mem_append.1 among with before | here
      · exact allFurther frame before
      · exact ⟨data, List.mem_singleton.1 here⟩

/-- A reader holds on to the message under way, item by item, until a message is too long. -/
theorem holds_meet (holds : reader.Holds limit run) (item : SourceItem)
    (fits : ¬ Overflows limit (item, (reader.meet item).1)) :
    (reader.meet item).2.Holds limit (goOn run (item, (reader.meet item).1)) := by
  cases item with
  | pause => exact holds
  | failure error => exact holds
  | frame frame =>
    by_cases inTurn : frame.InTurn run
    · obtain ⟨kind, known, ⟨tooLong, accepted⟩ | ⟨short, isLast, accepted⟩ |
        ⟨short, goesOn, accepted⟩⟩ := accept_cases holds inTurn
      · exact absurd ⟨frame, by simp only [meet, accepted, Option.map_some]⟩ fits
      · rw [meet, accepted, Option.map_some, goOn_payload inTurn isLast]
        exact holds_start limit
      · rw [meet, accepted, Option.map_none, goOn_none inTurn goesOn]
        exact ⟨rfl, rfl, known.symm, isRun_concat holds.isRun inTurn goesOn, short⟩
    · have still : goOn run (.frame frame, (reader.meet (.frame frame)).1) = run ∧
          (reader.accept frame).2 = reader := by
        rcases accept_of_not_inTurn holds inTurn with
          ⟨rfl, accepted⟩ | ⟨rfl, ⟨data, last, rfl⟩, accepted⟩ |
            ⟨something, ⟨kind, data, last, rfl⟩, accepted⟩
        all_goals
          rw [meet, accepted]
          exact ⟨rfl, rfl⟩
      rw [still.1, meet, still.2]
      exact holds

/-- So the answer to every frame is due, up to the first one that makes a message too long. -/
theorem trace_due {items : List SourceItem} {past future : List (SourceItem × Option Outcome)}
    {answer : Option Outcome} (holds : reader.Holds limit run)
    (split : reader.trace items = past ++ (.frame frame, answer) :: future)
    (fits : ∀ entry ∈ past, ¬ Overflows limit entry) :
    Frame.IsRun (past.foldl goOn run) ∧ (Frame.bytes (past.foldl goOn run)).length ≤ limit ∧
      Due limit (past.foldl goOn run) frame answer := by
  induction past generalizing reader run items with
  | nil =>
    cases items with
    | nil => contradiction
    | cons item items =>
      obtain ⟨here, -⟩ := List.cons.inj split
      obtain ⟨rfl, rfl⟩ := Prod.mk.inj here
      exact ⟨holds.isRun, holds.fits, due_of_holds holds frame⟩
  | cons entry past inductionHypothesis =>
    cases items with
    | nil => contradiction
    | cons item items =>
      obtain ⟨rfl, later⟩ := List.cons.inj split
      exact inductionHypothesis (holds_meet holds item (fits _ List.mem_cons_self)) later
        fun entry among => fits entry (List.mem_cons_of_mem _ among)

/-! ## Messages cut into fragments -/

/-- A frame that is taken in as data, and after it the frames of all further fragments, finish a
message. -/
theorem fragments_finish {rest : List (List UInt8)}
    (accepted : reader.accept frame = reader.append kind data rest.isEmpty)
    (fits : (reader.buffer ++ data ++ rest.flatten).length ≤ reader.limit) :
    reader.outcomes ((frame :: Cut.further rest).map .frame) =
        [.answer (payload kind (reader.buffer ++ data ++ rest.flatten))] ∧
      reader.after ((frame :: Cut.further rest).map .frame) = start reader.limit := by
  induction rest generalizing reader frame data with
  | nil =>
    have short : ¬ reader.limit < reader.buffer.length + data.length := by
      simpa using fits
    rw [List.map_cons, outcomes_cons, after, List.foldl_cons, meet, accepted, append,
      if_neg short, List.flatten_nil, List.append_nil]
    exact ⟨rfl, rfl⟩
  | cons more rest inductionHypothesis =>
    have short : ¬ reader.limit < reader.buffer.length + data.length := by
      simp only [List.length_append] at fits
      omega
    have goesOn : reader.accept frame =
        (none, { reader with buffer := reader.buffer ++ data, kind := some kind }) := by
      rw [accepted, append, if_neg short, List.isEmpty_cons, if_neg Bool.false_ne_true]
    rw [List.map_cons, outcomes_cons, after, List.foldl_cons, meet, goesOn]
    rw [List.flatten_cons, ← List.append_assoc] at fits ⊢
    exact @inductionHypothesis { reader with buffer := reader.buffer ++ data, kind := some kind }
      (.continuation more rest.isEmpty) more rfl fits

/-- A message cut in any way is read back, and the reader is then as at the start. -/
theorem cut_read {cut : Cut} {payload : Payload} (carries : payload.Carries cut.kind cut.bytes)
    (fits : cut.bytes.length ≤ limit) :
    (start limit).outcomes (cut.frames.map .frame) = [.answer (.ok (some payload))] ∧
      (start limit).after (cut.frames.map .frame) = start limit := by
  have finished := @fragments_finish (start limit) (.start cut.kind cut.first cut.rest.isEmpty)
    cut.kind cut.first cut.rest rfl fits
  have delivered := (payload_eq_ok_iff cut.kind cut.bytes payload).2 carries
  rw [start, List.nil_append, ← Cut.bytes, delivered] at finished
  exact finished

theorem cuts_read {payloads : List Payload} {cuts : List Cut} (tail : List SourceItem)
    (fitting : List.Forall₂ (fun payload cut =>
      payload.Carries cut.kind cut.bytes ∧ cut.bytes.length ≤ limit) payloads cuts) :
    (start limit).outcomes (Cut.items cuts ++ tail) =
      payloads.map (fun payload => .answer (.ok (some payload))) ++
        (start limit).outcomes tail := by
  induction fitting with
  | nil => rfl
  | @cons payload cut payloads cuts here later inductionHypothesis =>
    obtain ⟨delivered, again⟩ := cut_read here.1 here.2
    rw [Cut.items, List.flatMap_cons, List.map_append, List.append_assoc, outcomes_append,
      delivered, again, ← Cut.items, inductionHypothesis]
    rfl

/-! ## Reassembly -/

theorem trace_items (reader : MessageReader) (items : List SourceItem) :
    (reader.trace items).map Prod.fst = items := by
  induction items generalizing reader with
  | nil => rfl
  | cons item items inductionHypothesis =>
    rw [trace, List.map_cons, inductionHypothesis]

theorem mem_trace {items : List SourceItem} {entry : SourceItem × Option Outcome}
    (among : entry ∈ reader.trace items) :
    ∃ later : MessageReader, entry.2 = (later.meet entry.1).1 := by
  induction items generalizing reader with
  | nil => contradiction
  | cons item items inductionHypothesis =>
    rcases List.mem_cons.1 among with rfl | after
    · exact ⟨reader, rfl⟩
    · exact inductionHypothesis after

/-- What a source has left when a client leaves: nothing that could follow, or a frame that closes
the connection and anything at all. -/
def Ends (tail : List SourceItem) (ended : Bool) : Prop :=
  tail = [] ∧ ended = true ∨ ∃ more, tail = .frame .close :: more

theorem outcomes_ends {tail : List SourceItem} {ended : Bool} (ends : Ends tail ended)
    (reader : MessageReader) (count : Nat) :
    ∃ more, reader.outcomes tail ++ List.replicate (count + 1) (exhausted ended) =
      .answer (.ok none) :: more := by
  rcases ends with ⟨rfl, rfl⟩ | ⟨more, rfl⟩
  · exact ⟨_, rfl⟩
  · exact ⟨_, rfl⟩

/-- Messages are put together exactly.

Well-formed messages within the limit are read back in order whatever way each is cut, and then the
end.  Conversely every item of a source has its answer, attempts to read answer these in order, and
up to the first frame that makes a message too long every frame is answered as is due to the message
under way. -/
theorem reassembly_exact (limit : Nat) :
    (∀ (payloads : List Payload) (cuts : List Cut) (tail : List SourceItem) (ended : Bool),
      List.Forall₂ (fun payload cut =>
        payload.Carries cut.kind cut.bytes ∧ cut.bytes.length ≤ limit) payloads cuts →
      Ends tail ended →
      readTimes (payloads.length + 1) (start limit) ⟨Cut.items cuts ++ tail, ended⟩ =
        payloads.map (fun payload => .answer (.ok (some payload))) ++ [.answer (.ok none)]) ∧
    ∀ (items : List SourceItem) (ended : Bool), ∃ entries : List (SourceItem × Option Outcome),
      entries.map Prod.fst = items ∧
      (∀ attempts, readTimes attempts (start limit) ⟨items, ended⟩ =
        (entries.filterMap Prod.snd ++ List.replicate attempts (exhausted ended)).take attempts) ∧
      (∀ error answer, (.failure error, answer) ∈ entries →
        answer = some (.answer (.error error))) ∧
      (∀ answer, (.pause, answer) ∈ entries → answer = some .stalled) ∧
      ∀ past frame answer future, entries = past ++ (.frame frame, answer) :: future →
        (∀ entry ∈ past, ¬ Overflows limit entry) →
        Frame.IsRun (underWay past) ∧ (Frame.bytes (underWay past)).length ≤ limit ∧
          Due limit (underWay past) frame answer := by
  constructor
  · intro payloads cuts tail ended fitting ends
    obtain ⟨more, leaves⟩ := outcomes_ends ends (start limit) payloads.length
    rw [readTimes_outcomes ended (Nat.le_refl _), cuts_read tail fitting, List.append_assoc,
      leaves, ← List.singleton_append, ← List.append_assoc]
    exact List.take_left' (by simp)
  · intro items ended
    refine ⟨(start limit).trace items, trace_items _ items, ?_, ?_, ?_, ?_⟩
    · exact fun attempts => readTimes_outcomes ended (Nat.le_refl attempts) _ items
    · intro error answer among
      obtain ⟨_, answered⟩ := mem_trace among
      exact answered
    · intro answer among
      obtain ⟨_, answered⟩ := mem_trace among
      exact answered
    · intro past frame answer future split fits
      exact trace_due (holds_start limit) split fits

/-- An accented letter that is cut in two, with an empty fragment between, and three bytes that are
more than two. -/
theorem accent_reassembled :
    readTimes 2 (start 2) ⟨Cut.items [⟨.text, [0xC3], [[], [0xA9]]⟩], true⟩ =
        [.answer (.ok (some (.text "é"))), .answer (.ok none)] ∧
      readTimes 1 (start 2) ⟨[.frame (.start .binary [1, 2, 3] true)], true⟩ =
        [.answer (.error (.tooLarge 2))] := by
  obtain ⟨readBack, explained⟩ := reassembly_exact 2
  constructor
  · have carries : (Payload.text "é").Carries .text [0xC3, 0xA9] := by
      rw [← payload_eq_ok_iff]
      decide +kernel
    exact readBack [.text "é"] [⟨.text, [0xC3], [[], [0xA9]]⟩] [] true
      (.cons ⟨carries, Nat.le_refl 2⟩ .nil) (Or.inl ⟨rfl, rfl⟩)
  · obtain ⟨entries, ofItems, answered, -, -, due⟩ :=
      explained [.frame (.start .binary [1, 2, 3] true)] true
    obtain ⟨⟨_, answer⟩, rfl, rfl⟩ := List.map_eq_singleton_iff.1 ofItems
    have tooLong := (due [] _ answer [] rfl (fun _ none => nomatch none)).2.2.tooLong_iff.2
      ⟨rfl, by decide⟩
    rw [answered, tooLong]
    rfl

end MessageReader

end HubRelay
