import HubRelay.Proofs.Reassembly
import Mathlib.Data.List.DropRight

/-!
Contract: what a reader holds on to, whatever its client sends and whichever attempts are given up.

Owns: which frames a reader has kept and what kind it has noted, the bound on what it keeps, that
every payload is made of frames that came after the last finished message, and that nothing is left
of a message that was finished.

Does not own: which answer is due to a frame.

Frames are refused without being kept, and a message that gets too long goes on without the frame
that made it so.  So what is kept is told from the answers since the last finished message, and the
invariant holds along every row, past every failure.
-/

namespace HubRelay

namespace MessageReader

/-- An item that was met, with the answer that it led to. -/
abbrev Entry := SourceItem × Option Outcome

variable {reader : MessageReader} {limit : Nat} {past : List Entry} {entry : Entry}
  {item : SourceItem} {frame : Frame} {kind : MessageKind} {found : Payload}

/-! ## What is told from the answers -/

/-- Whether an entry finished a message: its frame was answered with a payload, or with that the
text is ill-formed.  The same words from a failing source do not count. -/
def finishes : Entry → Bool
  | (.frame _, some (.answer (.ok (some _)))) => true
  | (.frame _, some (.answer (.error .invalidUtf8))) => true
  | _ => false

/-- The entries after the last one that finished a message. -/
def sinceFinished (past : List Entry) : List Entry :=
  past.rtakeWhile fun entry => !finishes entry

/-- The frames of some entries that were kept. -/
def framesKept (entries : List Entry) : List Frame :=
  entries.filterMap accepted?

/-- The kind of the message that an item starts. -/
def opening? : SourceItem → Option MessageKind
  | .frame (.start kind _ _) => some kind
  | _ => none

/-- The kind that the first of some entries to start a message tells, also if that frame was refused
because it made the message too long.  Frames that continue a message or close start none. -/
def kindNoted (entries : List Entry) : Option MessageKind :=
  entries.findSome? fun entry => opening? entry.1

theorem sinceFinished_concat_of_finishes (past : List Entry) (finished : finishes entry = true) :
    sinceFinished (past ++ [entry]) = [] := by
  apply List.rtakeWhile_concat_neg
  simp [finished]

theorem sinceFinished_concat (past : List Entry) (unfinished : finishes entry = false) :
    sinceFinished (past ++ [entry]) = sinceFinished past ++ [entry] := by
  apply List.rtakeWhile_concat_pos
  simp [unfinished]

/-- Nothing up to an entry that finished a message counts any more. -/
theorem sinceFinished_suffix (earlier between : List Entry) (finished : finishes entry = true) :
    sinceFinished (earlier ++ entry :: between) <:+ between := by
  induction between using List.reverseRecOn with
  | nil =>
    have nothing := sinceFinished_concat_of_finishes earlier finished
    simp [nothing]
  | append_singleton between last inductionHypothesis =>
    rw [← List.cons_append, ← List.append_assoc]
    cases ends : finishes last with
    | true =>
      rw [sinceFinished_concat_of_finishes _ ends]
      exact List.nil_suffix
    | false =>
      rw [sinceFinished_concat _ ends]
      exact List.suffix_append_inj_of_length_eq rfl |>.2 ⟨inductionHypothesis, rfl⟩

theorem framesKept_concat_of_none (entries : List Entry) (refused : accepted? entry = none) :
    framesKept (entries ++ [entry]) = framesKept entries := by
  simp [framesKept, refused]

theorem framesKept_concat (entries : List Entry) (kept : accepted? entry = some frame) :
    framesKept (entries ++ [entry]) = framesKept entries ++ [frame] := by
  simp [framesKept, kept]

theorem kindNoted_concat (entries : List Entry) (entry : Entry) :
    kindNoted (entries ++ [entry]) = (kindNoted entries).or (opening? entry.1) := by
  simp [kindNoted, List.findSome?_append]

/-! ## One item -/

/-- What a reader holds on to after a row with its answers. -/
structure Retains (reader : MessageReader) (limit : Nat) (past : List Entry) : Prop where
  limited : reader.limit = limit
  /-- The bytes are those of the frames that were kept since the last finished message. -/
  buffered : reader.buffer = Frame.bytes (framesKept (sinceFinished past))
  /-- The kind, if there is one, is the one that a frame started a message with since then. -/
  kinded : reader.kind = kindNoted (sinceFinished past)
  bounded : reader.buffer.length ≤ limit
  /-- Without a message under way no bytes are held. -/
  emptied : reader.kind = none → reader.buffer = []

theorem retains_start (limit : Nat) : (start limit).Retains limit [] :=
  ⟨rfl, rfl, rfl, Nat.zero_le limit, fun _ => rfl⟩

/-- What becomes of an item: it changes nothing, or its frame is taken in as data of the message
that is under way or that it starts. -/
theorem meet_unchanged_or_append (reader : MessageReader) (item : SourceItem) :
    ((reader.meet item).2 = reader ∧ accepted? (item, (reader.meet item).1) = none ∧
      finishes (item, (reader.meet item).1) = false ∧
      reader.kind.or (opening? item) = reader.kind) ∨
    ∃ frame kind, item = .frame frame ∧ frame ≠ .close ∧
      reader.kind.or (opening? item) = some kind ∧
      reader.meet item = ((reader.append kind frame.data frame.isLast).1.map .answer,
        (reader.append kind frame.data frame.isLast).2) := by
  cases item with
  | pause | failure error => exact Or.inl ⟨rfl, rfl, rfl, Option.or_none⟩
  | frame frame =>
    cases frame with
    | close => exact Or.inl ⟨rfl, rfl, rfl, Option.or_none⟩
    | start kind data last =>
      cases known : reader.kind with
      | none =>
        refine Or.inr ⟨_, kind, rfl, by simp, rfl, ?_⟩
        simp only [meet, accept, known, Frame.data, Frame.isLast]
      | some under =>
        left
        simp only [meet, accept, known]
        exact ⟨trivial, rfl, rfl, rfl⟩
    | continuation data last =>
      cases known : reader.kind with
      | none =>
        left
        simp only [meet, accept, known]
        exact ⟨trivial, rfl, rfl, rfl⟩
      | some under =>
        refine Or.inr ⟨_, under, rfl, by simp, rfl, ?_⟩
        simp only [meet, accept, known, Frame.data, Frame.isLast]

theorem retains_unchanged (retains : reader.Retains limit past) (refused : accepted? entry = none)
    (unfinished : finishes entry = false) (same : reader.kind.or (opening? entry.1) = reader.kind) :
    reader.Retains limit (past ++ [entry]) := by
  have since := sinceFinished_concat past unfinished
  constructor
  case limited => exact retains.limited
  case buffered => rw [since, framesKept_concat_of_none _ refused, retains.buffered]
  case kinded => rw [since, kindNoted_concat, ← retains.kinded, same]
  case bounded => exact retains.bounded
  case emptied => exact retains.emptied

theorem finishes_payload (frame : Frame) (kind : MessageKind) (data : List UInt8) :
    finishes (.frame frame, some (.answer (payload kind data))) = true := by
  cases answered : payload kind data with
  | ok found =>
    cases found with
    | none => exact absurd answered (payload_ne_close kind data)
    | some payload => rfl
  | error error =>
    have illFormed := ((payload_eq_error_iff kind data error).1 answered).1
    subst illFormed
    rfl

theorem accepted?_payload (notClose : frame ≠ .close) (kind : MessageKind) (data : List UInt8) :
    accepted? (.frame frame, some (.answer (payload kind data))) = some frame := by
  have notRefused : ∀ error, payload kind data = .error error → error = .invalidUtf8 :=
    fun error answered => ((payload_eq_error_iff kind data error).1 answered).1
  cases frame with
  | close => exact absurd rfl notClose
  | _ =>
    cases answered : payload kind data with
    | ok found => rfl
    | error error => rw [notRefused error answered]; rfl

/-- Of data that makes a message too long only the kind is noted. -/
theorem retains_tooLong (retains : reader.Retains limit past)
    (known : reader.kind.or (opening? (.frame frame)) = some kind) (bound : Nat) :
    ({ reader with kind := some kind } : MessageReader).Retains limit
      (past ++ [(.frame frame, some (.answer (.error (.tooLarge bound))))]) := by
  have refused : accepted? (.frame frame, some (.answer (.error (.tooLarge bound)))) = none := by
    cases frame <;> rfl
  have since := @sinceFinished_concat
    (.frame frame, some (.answer (.error (.tooLarge bound)))) past rfl
  constructor
  case limited => exact retains.limited
  case buffered =>
    rw [since, framesKept_concat_of_none _ refused]
    exact retains.buffered
  case kinded => rw [since, kindNoted_concat, ← retains.kinded, known]
  case bounded => exact retains.bounded
  case emptied => exact fun missing => nomatch missing

/-- Of a message that is finished nothing is left. -/
theorem retains_finished (retains : reader.Retains limit past) (finished : finishes entry = true) :
    ({ reader with buffer := [], kind := none } : MessageReader).Retains limit
      (past ++ [entry]) := by
  have since := sinceFinished_concat_of_finishes past finished
  constructor
  case limited => exact retains.limited
  case buffered => rw [since]; rfl
  case kinded => rw [since]; rfl
  case bounded => exact Nat.zero_le limit
  case emptied => exact fun _ => rfl

/-- Data that fits is kept while its message goes on. -/
theorem retains_kept (retains : reader.Retains limit past) (notClose : frame ≠ .close)
    (known : reader.kind.or (opening? (.frame frame)) = some kind)
    (fits : reader.buffer.length + frame.data.length ≤ limit) :
    ({ reader with buffer := reader.buffer ++ frame.data, kind := some kind } :
      MessageReader).Retains limit (past ++ [(.frame frame, none)]) := by
  have kept : accepted? (.frame frame, none) = some frame := by
    cases frame with
    | close => exact absurd rfl notClose
    | _ => rfl
  have since := @sinceFinished_concat (.frame frame, none) past rfl
  constructor
  case limited => exact retains.limited
  case buffered =>
    rw [since, framesKept_concat _ kept, Frame.bytes_concat, retains.buffered]
  case kinded => rw [since, kindNoted_concat, ← retains.kinded, known]
  case bounded =>
    rw [List.length_append]
    exact fits
  case emptied => exact fun missing => nomatch missing

theorem retains_append (retains : reader.Retains limit past) (notClose : frame ≠ .close)
    (known : reader.kind.or (opening? (.frame frame)) = some kind) (last : Bool) :
    (reader.append kind frame.data last).2.Retains limit
      (past ++ [(.frame frame, (reader.append kind frame.data last).1.map .answer)]) := by
  have limited := retains.limited
  unfold append
  split
  · exact retains_tooLong retains known reader.limit
  · next fits =>
    split
    · exact retains_finished retains (finishes_payload frame kind _)
    · exact retains_kept retains notClose known (by omega)

/-- One more item keeps the invariant. -/
theorem retains_meet (retains : reader.Retains limit past) (item : SourceItem) :
    (reader.meet item).2.Retains limit (past ++ [(item, (reader.meet item).1)]) := by
  rcases reader.meet_unchanged_or_append item with
    ⟨unchanged, refused, unfinished, same⟩ | ⟨frame, kind, rfl, notClose, known, met⟩
  · rw [unchanged]
    exact retains_unchanged retains refused unfinished same
  · rw [met]
    exact retains_append retains notClose known frame.isLast

/-- A reader that has just finished a message is as at the start. -/
theorem Retains.eq_start (retains : reader.Retains limit (past ++ [entry]))
    (finished : finishes entry = true) : reader = start limit := by
  have since := sinceFinished_concat_of_finishes past finished
  have limited := retains.limited
  have buffered := retains.buffered
  have kinded := retains.kinded
  rw [since] at buffered kinded
  have empty : reader.buffer = [] := buffered
  have fresh : reader.kind = none := kinded
  cases reader
  simp only at limited empty fresh
  rw [limited, empty, fresh]
  rfl

/-- A message was finished with the frames that were kept since the message before it was, and with
no others. -/
structure MadeSince (limit : Nat) (past : List Entry) (entry : Entry) : Prop where
  /-- The answer is the payload that these frames make up, or that they are ill-formed as text. -/
  answered : ∃ kind, kindNoted (sinceFinished past ++ [entry]) = some kind ∧
    entry.2 = some (.answer
      (payload kind (Frame.bytes (framesKept (sinceFinished past ++ [entry])))))
  bounded : (Frame.bytes (framesKept (sinceFinished past ++ [entry]))).length ≤ limit
  /-- They came after every message that was finished before. -/
  later : ∀ earlier done between, past = earlier ++ done :: between → finishes done = true →
    sinceFinished past <:+ between

/-- Only the last data of a message finishes it. -/
theorem append_of_finishes {data : List UInt8} {last : Bool}
    (finished : finishes (.frame frame, (reader.append kind data last).1.map .answer) = true) :
    (reader.append kind data last).1 = some (payload kind (reader.buffer ++ data)) ∧
      (reader.buffer ++ data).length ≤ reader.limit := by
  rw [List.length_append]
  unfold append at finished ⊢
  by_cases tooLong : reader.limit < reader.buffer.length + data.length
  · rw [if_pos tooLong] at finished
    cases finished
  · rw [if_neg tooLong] at finished ⊢
    cases last with
    | true => exact ⟨rfl, by omega⟩
    | false => cases finished

theorem madeSince_of_meet (retains : reader.Retains limit past)
    (finished : finishes (item, (reader.meet item).1) = true) :
    MadeSince limit past (item, (reader.meet item).1) := by
  rcases reader.meet_unchanged_or_append item with
    ⟨-, -, unfinished, -⟩ | ⟨frame, kind, rfl, notClose, known, met⟩
  · rw [unfinished] at finished
    cases finished
  · rw [met] at finished ⊢
    obtain ⟨answer, fits⟩ := append_of_finishes finished
    rw [retains.limited] at fits
    rw [answer, Option.map_some]
    have bytes : Frame.bytes (framesKept (sinceFinished past ++ [(.frame frame,
        some (.answer (payload kind (reader.buffer ++ frame.data))))])) =
        reader.buffer ++ frame.data := by
      rw [framesKept_concat _ (accepted?_payload notClose kind _), Frame.bytes_concat,
        retains.buffered]
    constructor
    case answered =>
      refine ⟨kind, ?_, ?_⟩
      · rw [kindNoted_concat, ← retains.kinded, known]
      · rw [bytes]
    case bounded =>
      rw [bytes]
      exact fits
    case later =>
      rintro earlier done between rfl finishedBefore
      exact sinceFinished_suffix earlier between finishedBefore

/-! ## Along a row -/

theorem trace_append (reader : MessageReader) (items more : List SourceItem) :
    reader.trace (items ++ more) = reader.trace items ++ (reader.after items).trace more := by
  induction items generalizing reader with
  | nil => rfl
  | cons item items inductionHypothesis =>
    rw [List.cons_append, trace, trace, inductionHypothesis]
    rfl

/-- A part of a trace is the trace of its items, for the reader that the items before lead to. -/
theorem trace_split {items : List SourceItem} {future : List Entry}
    (split : reader.trace items = past ++ entry :: future) :
    past = reader.trace (past.map Prod.fst) ∧
      entry.2 = ((reader.after (past.map Prod.fst)).meet entry.1).1 ∧
      future = (((reader.after (past.map Prod.fst)).meet entry.1).2).trace
        (future.map Prod.fst) := by
  have row : items = past.map Prod.fst ++ entry.1 :: future.map Prod.fst := by
    rw [← reader.trace_items items, split, List.map_append, List.map_cons]
  have whole := split
  rw [row, trace_append] at whole
  have long : (reader.trace (past.map Prod.fst)).length = past.length := by
    rw [← List.length_map Prod.fst, trace_items, List.length_map]
  obtain ⟨before, after⟩ := List.append_inj whole long
  obtain ⟨here, later⟩ := List.cons.inj after
  exact ⟨before.symm, (congrArg Prod.snd here).symm, later.symm⟩

theorem retains_after (retains : reader.Retains limit past) (items : List SourceItem) :
    (reader.after items).Retains limit (past ++ reader.trace items) := by
  induction items generalizing reader past with
  | nil =>
    rw [trace, List.append_nil]
    exact retains
  | cons item items inductionHypothesis =>
    have later := inductionHypothesis (retains_meet retains item)
    rw [List.append_assoc] at later
    exact later

/-! ## Attempts -/

/-- What an attempt to read finds new: what arrived at the source since the attempt before, and
whether nothing can follow. -/
structure Supply where
  arrived : List SourceItem
  ended : Bool

/-- A reader in use: the reader, what its source still has, and how the attempts to read went.  An
attempt that has to wait is given up. -/
structure Usage where
  reader : MessageReader
  left : List SourceItem
  outcomes : List Outcome

namespace Usage

/-- One more attempt. -/
def attempt (usage : Usage) (supply : Supply) : Usage :=
  let (outcome, reader, source) :=
    usage.reader.read ⟨usage.left ++ supply.arrived, supply.ended⟩
  ⟨reader, source.items, usage.outcomes ++ [outcome]⟩

/-- A new reader after some attempts. -/
def after (limit : Nat) (supplies : List Supply) : Usage :=
  supplies.foldl attempt ⟨.start limit, [], []⟩

end Usage

/-- How an attempt goes that meets some items: it answers what the last one led to, and none before
did; or all that there is leads to nothing. -/
def Goes (met : List Entry) (outcome : Outcome) : Prop :=
  (∃ front item, met = front ++ [(item, some outcome)] ∧ ∀ entry ∈ front, entry.2 = none) ∨
    (∀ entry ∈ met, entry.2 = none) ∧ ∃ ended, outcome = exhausted ended

theorem Goes.cons {met : List Entry} {outcome : Outcome} (goes : Goes met outcome)
    (item : SourceItem) : Goes ((item, none) :: met) outcome := by
  rcases goes with ⟨front, last, rfl, silent⟩ | ⟨silent, found⟩
  · left
    refine ⟨(item, none) :: front, last, rfl, ?_⟩
    exact List.forall_mem_cons.2 ⟨rfl, silent⟩
  · right
    exact ⟨List.forall_mem_cons.2 ⟨rfl, silent⟩, found⟩

theorem goes_singleton (item : SourceItem) (outcome : Outcome) :
    Goes [(item, some outcome)] outcome :=
  Or.inl ⟨[], item, rfl, List.forall_mem_nil _⟩

/-- One attempt takes in some items, and answers what these lead to. -/
theorem readItems_goes (reader : MessageReader) (ended : Bool) (items : List SourceItem) :
    ∃ taken left outcome, items = taken ++ left ∧
      reader.readItems ended items = (outcome, reader.after taken, left) ∧
      Goes (reader.trace taken) outcome := by
  induction items generalizing reader with
  | nil =>
    refine ⟨[], [], exhausted ended, rfl, rfl, ?_⟩
    exact Or.inr ⟨List.forall_mem_nil _, ended, rfl⟩
  | cons item items inductionHypothesis =>
    cases item with
    | pause => exact ⟨[.pause], items, _, rfl, rfl, goes_singleton _ _⟩
    | failure error => exact ⟨[.failure error], items, _, rfl, rfl, goes_singleton _ _⟩
    | frame frame =>
      rw [readItems]
      cases accepted : reader.accept frame with
      | mk answer later =>
        have led : reader.meet (.frame frame) = (answer.map .answer, later) := by
          rw [meet, accepted]
        cases answer with
        | some answer =>
          refine ⟨[.frame frame], items, .answer answer, rfl, ?_, ?_⟩
          · rw [after, List.foldl_cons, led]
            rfl
          · rw [trace, led]
            exact goes_singleton _ _
        | none =>
          obtain ⟨taken, left, outcome, split, goesOn, goes⟩ := inductionHypothesis later
          refine ⟨.frame frame :: taken, left, outcome, congrArg _ split, ?_, ?_⟩
          · rw [after, List.foldl_cons, led]
            exact goesOn
          · rw [trace, led]
            exact goes.cons _

/-- The attempts in the use of a reader are told by one row of entries each: together they are what
was taken in of what arrived, in this order, with its answers. -/
structure Usage.Accounts (usage : Usage) (limit : Nat) (arrived : List SourceItem)
    (rows : List (List Entry)) : Prop where
  traced : rows.flatten = (start limit).trace (rows.flatten.map Prod.fst)
  taken : arrived = rows.flatten.map Prod.fst ++ usage.left
  led : usage.reader = (start limit).after (rows.flatten.map Prod.fst)
  went : List.Forall₂ Goes rows usage.outcomes

theorem after_append (reader : MessageReader) (items more : List SourceItem) :
    reader.after (items ++ more) = (reader.after items).after more :=
  List.foldl_append

theorem Usage.Accounts.attempt {usage : Usage} {arrived : List SourceItem}
    {rows : List (List Entry)} (accounts : usage.Accounts limit arrived rows) (supply : Supply) :
    ∃ row, (usage.attempt supply).Accounts limit (arrived ++ supply.arrived) (rows ++ [row]) := by
  obtain ⟨taken, left, outcome, split, reads, goes⟩ :=
    usage.reader.readItems_goes supply.ended (usage.left ++ supply.arrived)
  have attempted : usage.attempt supply =
      ⟨usage.reader.after taken, left, usage.outcomes ++ [outcome]⟩ := by
    rw [Usage.attempt, read, reads]
  have entries : (rows ++ [usage.reader.trace taken]).flatten =
      rows.flatten ++ usage.reader.trace taken := by
    simp
  have items : (rows.flatten ++ usage.reader.trace taken).map Prod.fst =
      rows.flatten.map Prod.fst ++ taken := by
    rw [List.map_append, trace_items]
  refine ⟨usage.reader.trace taken, ?_⟩
  rw [attempted]
  constructor
  case traced => rw [entries, items, trace_append, ← accounts.traced, ← accounts.led]
  case taken =>
    rw [entries, items, accounts.taken, List.append_assoc, split, List.append_assoc]
  case led => rw [entries, items, after_append, ← accounts.led]
  case went => exact List.rel_append accounts.went (.cons goes .nil)

/-- Every use of a reader is accounted for. -/
theorem Usage.exists_accounts (limit : Nat) (supplies : List Supply) :
    ∃ rows, (after limit supplies).Accounts limit (supplies.flatMap (·.arrived)) rows := by
  induction supplies using List.reverseRecOn with
  | nil => exact ⟨[], rfl, rfl, rfl, .nil⟩
  | append_singleton supplies supply inductionHypothesis =>
    obtain ⟨rows, accounts⟩ := inductionHypothesis
    obtain ⟨row, later⟩ := accounts.attempt supply
    refine ⟨rows ++ [row], ?_⟩
    rw [Usage.after, List.foldl_append, List.flatMap_append, List.flatMap_singleton]
    exact later

/-! ## Whatever a client sends -/

/-- What is known of a reader that has been in use, and has met some entries. -/
structure Trusted (usage : Usage) (limit : Nat) (entries : List Entry) : Prop where
  retains : usage.reader.Retains limit entries
  /-- No payload that was answered is longer than the limit. -/
  fits : ∀ found, .answer (.ok (some found)) ∈ usage.outcomes →
    ∃ kind bytes, found.Carries kind bytes ∧ bytes.length ≤ limit
  /-- Every message that was finished, well-formed or not, was made of what came after the message
  before. -/
  made : ∀ past entry future, entries = past ++ entry :: future → finishes entry = true →
    MadeSince limit past entry
  /-- What follows a message that was finished is answered as by a new reader. -/
  afresh : ∀ past entry future, entries = past ++ entry :: future → finishes entry = true →
    future = (start limit).trace (future.map Prod.fst)

namespace Usage.Accounts

variable {usage : Usage} {arrived : List SourceItem} {rows : List (List Entry)}
  {future : List Entry}

theorem retains (accounts : usage.Accounts limit arrived rows) :
    usage.reader.Retains limit rows.flatten := by
  have retains := retains_after (retains_start limit) (rows.flatten.map Prod.fst)
  rw [← accounts.traced, ← accounts.led] at retains
  exact retains

/-- The reader that met an entry held on to what came before. -/
theorem retains_split (accounts : usage.Accounts limit arrived rows)
    (split : rows.flatten = past ++ entry :: future) :
    ∃ reader : MessageReader, reader.Retains limit past ∧ entry.2 = (reader.meet entry.1).1 ∧
      future = (reader.meet entry.1).2.trace (future.map Prod.fst) := by
  obtain ⟨before, answered, continues⟩ := trace_split (accounts.traced.symm.trans split)
  have retains := retains_after (retains_start limit) (past.map Prod.fst)
  rw [← before, List.nil_append] at retains
  exact ⟨_, retains, answered, continues⟩

theorem made (accounts : usage.Accounts limit arrived rows)
    (split : rows.flatten = past ++ entry :: future) (finished : finishes entry = true) :
    MadeSince limit past entry := by
  obtain ⟨reader, retains, answered, -⟩ := accounts.retains_split split
  have whole : entry = (entry.1, (reader.meet entry.1).1) := Prod.ext rfl answered
  rw [whole] at finished ⊢
  exact madeSince_of_meet retains finished

theorem afresh (accounts : usage.Accounts limit arrived rows)
    (split : rows.flatten = past ++ entry :: future) (finished : finishes entry = true) :
    future = (start limit).trace (future.map Prod.fst) := by
  obtain ⟨reader, retains, answered, continues⟩ := accounts.retains_split split
  have once := retains_meet retains entry.1
  rw [← answered] at once
  rwa [once.eq_start finished] at continues

/-- Whatever payload an attempt answers, an item led to it. -/
theorem exists_entry (accounts : usage.Accounts limit arrived rows)
    (among : .answer (.ok (some found)) ∈ usage.outcomes) :
    ∃ item, (item, some (.answer (.ok (some found)))) ∈ rows.flatten := by
  obtain ⟨row, here, goes⟩ : ∃ row ∈ rows, Goes row (.answer (.ok (some found))) := by
    obtain ⟨place, within, answered⟩ := List.mem_iff_getElem.1 among
    have long := accounts.went.length_eq
    refine ⟨rows[place], List.getElem_mem _, ?_⟩
    rw [← answered]
    exact accounts.went.get (by omega) within
  rcases goes with ⟨front, item, rfl, -⟩ | ⟨-, ended, nothing⟩
  · have among : (item, some (.answer (.ok (some found)))) ∈
        front ++ [(item, some (Outcome.answer (.ok (some found))))] := by
      simp
    exact ⟨item, List.mem_flatten.2 ⟨_, here, among⟩⟩
  · cases ended <;> cases nothing

theorem fits (accounts : usage.Accounts limit arrived rows)
    (among : .answer (.ok (some found)) ∈ usage.outcomes) :
    ∃ kind bytes, found.Carries kind bytes ∧ bytes.length ≤ limit := by
  obtain ⟨item, here⟩ := accounts.exists_entry among
  obtain ⟨past, future, split⟩ := List.append_of_mem here
  obtain ⟨reader, -, answered, -⟩ := accounts.retains_split split
  -- only frames are answered with payloads
  have finished : finishes (item, some (.answer (.ok (some found)))) = true := by
    cases item with
    | frame frame => rfl
    | pause | failure error => cases answered
  have made := accounts.made split finished
  obtain ⟨kind, -, answer⟩ := made.answered
  refine ⟨kind, _, (payload_eq_ok_iff _ _ _).1 ?_, made.bounded⟩
  simpa using answer.symm

end Usage.Accounts

/-- Whatever arrives, fails, closes or is given up: after every attempt to read, a reader holds no
more bytes than its limit, namely those of the frames that it kept since the last finished message;
it has a kind only if a frame started a message since then, namely the kind of that frame; and
without a kind it holds nothing.  No payload is longer than the limit, every message is made of such
frames alone, and nothing of a message that was finished is used again.

What holds after all attempts holds after each of them, as those up to it are attempts as well. -/
theorem retention_bounded (limit : Nat) (supplies : List Supply) :
    ∃ rows, (Usage.after limit supplies).Accounts limit (supplies.flatMap (·.arrived)) rows ∧
      Trusted (Usage.after limit supplies) limit rows.flatten := by
  obtain ⟨rows, accounts⟩ := Usage.exists_accounts limit supplies
  refine ⟨rows, accounts, ?_⟩
  constructor
  case retains => exact accounts.retains
  case fits => exact fun found among => accounts.fits among
  case made => exact fun past entry future split finished => accounts.made split finished
  case afresh => exact fun past entry future split finished => accounts.afresh split finished

-- A frame that makes its message too long is not kept, but the message goes on without it.
example :
    (Usage.after 2 [⟨[.frame (.start .binary [1, 2, 3] false)], false⟩]).reader =
        ⟨2, [], some .binary⟩ ∧
      (Usage.after 2 [⟨[.frame (.start .binary [1, 2, 3] false)], false⟩,
        ⟨[.pause, .frame (.continuation [4] true)], false⟩, ⟨[], false⟩]).outcomes =
        [.answer (.error (.tooLarge 2)), .stalled, .answer (.ok (some (.binary [4])))] :=
  ⟨rfl, rfl⟩

end MessageReader

end HubRelay
