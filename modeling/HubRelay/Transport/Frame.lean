/-!
Contract: what travels over the connection of a client, and how the connection can fail.

Owns: frames, failures and their wording, and a source of frames that may stall.

Does not own: putting messages together from frames.
-/

namespace HubRelay

/-- The kind of a message. -/
inductive MessageKind where
  | text
  | binary
deriving DecidableEq, Repr

/-- One frame from a client.

A message is a frame that starts it and frames that continue it; the last one is marked. -/
inductive Frame where
  /-- The first frame of a message. -/
  | start (kind : MessageKind) (data : List UInt8) (last : Bool)
  /-- A further frame of the message under way. -/
  | continuation (data : List UInt8) (last : Bool)
  /-- The client leaves. -/
  | close
deriving DecidableEq, Repr

/-- Why a connection failed. -/
inductive TransportError where
  | io (detail : String)
  /-- A finished text message is not well-formed text. -/
  | invalidUtf8
  /-- A message is longer than the limit. -/
  | tooLarge (limit : Nat)
  /-- A frame came out of turn. -/
  | protocol (detail : String)
deriving DecidableEq, Repr

namespace TransportError

/-- A frame continues a message although none is under way. -/
def nothingToContinue : TransportError :=
  .protocol "continuation without a message start"

def unfinishedMessage : TransportError :=
  .protocol "new message started before the previous one finished"

def message : TransportError → String
  | .io detail => "Transport IO error: " ++ detail
  | .invalidUtf8 => "Text message is not valid UTF-8"
  | .tooLarge limit => "Message exceeds " ++ toString limit ++ " bytes"
  | .protocol detail => "Protocol error: " ++ detail

end TransportError

/-- What a source of frames has next. -/
inductive SourceItem where
  | frame (frame : Frame)
  | failure (error : TransportError)
  /-- Whoever asks for the next frame waits until they give up asking. -/
  | pause
deriving DecidableEq, Repr

/-- A source of frames: what it has, and whether more can follow. -/
structure Source where
  items : List SourceItem
  ended : Bool
deriving DecidableEq, Repr

end HubRelay
