import HubRelay.Envelope.Payload
import HubRelay.Transport.Frame

/-!
Contract: whole messages out of frames.

Owns: the message under way, taking in one frame, and reading up to the next answer.

Does not own: where frames come from, and what becomes of messages.

The message under way belongs to the reader and not to an attempt to read.  So an attempt that
is given up, a failure of the source, a close and a frame out of turn all leave it as it is.
-/

namespace HubRelay

/-- A reader of messages: the greatest length of a message, and the message under way. -/
structure MessageReader where
  limit : Nat
  /-- The bytes of the message under way. -/
  buffer : List UInt8
  /-- The kind of the message under way, if there is one. -/
  kind : Option MessageKind
deriving DecidableEq, Repr

namespace MessageReader

def start (limit : Nat) : MessageReader :=
  ⟨limit, [], none⟩

/-- What an attempt to read answers; no payload means that the client has left. -/
abbrev Answer := Except TransportError (Option Payload)

def payload (kind : MessageKind) (data : List UInt8) : Answer :=
  match kind with
  | .binary => .ok (some (.binary data))
  | .text =>
    match Text.Utf8.decodeString data with
    | some text => .ok (some (.text text))
    | none => .error .invalidUtf8

/-- Take in data of a message of a kind.

The kind is known from here on, also when the data would make the message too long and is left
out. -/
def append (reader : MessageReader) (kind : MessageKind) (data : List UInt8) (last : Bool) :
    Option Answer × MessageReader :=
  if reader.limit < reader.buffer.length + data.length then
    (some (.error (.tooLarge reader.limit)), { reader with kind := some kind })
  else if last then
    (some (payload kind (reader.buffer ++ data)), { reader with buffer := [], kind := none })
  else
    (none, { reader with buffer := reader.buffer ++ data, kind := some kind })

/-- Take in one frame: the answer that it leads to, if any, and the reader afterwards. -/
def accept (reader : MessageReader) (frame : Frame) : Option Answer × MessageReader :=
  match frame, reader.kind with
  | .close, _ => (some (.ok none), reader)
  | .continuation _ _, none => (some (.error .nothingToContinue), reader)
  | .continuation data last, some kind => reader.append kind data last
  | .start kind data last, none => reader.append kind data last
  | .start _ _ _, some _ => (some (.error .unfinishedMessage), reader)

/-- How an attempt to read goes. -/
inductive Outcome where
  | answer (answer : Answer)
  /-- The source has nothing yet. -/
  | waiting
  /-- The source holds the attempt up, whatever it has. -/
  | stalled
deriving Repr

/-- Read on until there is an answer or the source lets the attempt wait: how it goes, the reader
afterwards, and what the source still has. -/
def readItems (reader : MessageReader) (ended : Bool) :
    List SourceItem → Outcome × MessageReader × List SourceItem
  | [] => (if ended then .answer (.ok none) else .waiting, reader, [])
  | .pause :: items => (.stalled, reader, items)
  | .failure error :: items => (.answer (.error error), reader, items)
  | .frame frame :: items =>
    match reader.accept frame with
    | (some answer, reader) => (.answer answer, reader, items)
    | (none, reader) => reader.readItems ended items

def read (reader : MessageReader) (source : Source) : Outcome × MessageReader × Source :=
  let (outcome, reader, items) := reader.readItems source.ended source.items
  (outcome, reader, { source with items := items })

/-- Attempt to read so many times, giving up each attempt that has to wait. -/
def readTimes : Nat → MessageReader → Source → List Outcome
  | 0, _, _ => []
  | attempts + 1, reader, source =>
    let (outcome, reader, source) := reader.read source
    outcome :: readTimes attempts reader source

end MessageReader

end HubRelay
