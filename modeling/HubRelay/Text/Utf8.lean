/-!
Contract: the eight-bit encoding of text, and its two ways of reading bytes back.

Owns:
- the bytes of a character and of a text;
- a byte-by-byte reader, which finishes a well-formed character or a maximal ill-formed piece;
- strict decoding, which refuses ill-formed bytes;
- lossy decoding, which writes one replacement character per ill-formed piece.

Does not own: escapes, percent signs, or any other notation for characters.
-/

namespace HubRelay.Text.Utf8

/-- The bytes of a text, character by character. -/
def encode (text : List Char) : List UInt8 :=
  text.flatMap String.utf8EncodeChar

/-- The bytes that may follow a lead byte, as one inclusive range for each place.

The first range is narrower after the leads `0xE0`, `0xED`, `0xF0` and `0xF4`: it leaves out
overlong forms, surrogates and values past the last character.  A byte that leads nothing has
no entry. -/
def followers (lead : UInt8) : Option (List (UInt8 × UInt8)) :=
  if lead ≤ 0x7F then some []
  else if lead < 0xC2 then none
  else if lead ≤ 0xDF then some [(0x80, 0xBF)]
  else if lead = 0xE0 then some [(0xA0, 0xBF), (0x80, 0xBF)]
  else if lead = 0xED then some [(0x80, 0x9F), (0x80, 0xBF)]
  else if lead ≤ 0xEF then some [(0x80, 0xBF), (0x80, 0xBF)]
  else if lead = 0xF0 then some [(0x90, 0xBF), (0x80, 0xBF), (0x80, 0xBF)]
  else if lead ≤ 0xF3 then some [(0x80, 0xBF), (0x80, 0xBF), (0x80, 0xBF)]
  else if lead = 0xF4 then some [(0x80, 0x8F), (0x80, 0xBF), (0x80, 0xBF)]
  else none

/-- The bits of a lead byte that belong to the character. -/
def leadBits (lead : UInt8) : Nat :=
  if lead ≤ 0x7F then lead.toNat
  else if lead ≤ 0xDF then lead.toNat - 0xC0
  else if lead ≤ 0xEF then lead.toNat - 0xE0
  else lead.toNat - 0xF0

/-- What a run of bytes turns out to be. -/
inductive Piece where
  /-- A well-formed character. -/
  | scalar (character : Char)
  /-- A maximal ill-formed piece: a byte that leads nothing, or a character cut short. -/
  | illFormed
deriving Repr, DecidableEq

/-- Where a reader stands between two bytes. -/
inductive Position where
  /-- No character is open. -/
  | between
  /-- A character is open: its bits so far, the range of its next byte, and the ranges after. -/
  | inside (bits : Nat) (next : UInt8 × UInt8) (later : List (UInt8 × UInt8))
deriving Repr, DecidableEq

/-- A reader of bytes: the pieces it has finished, the latest first, and where it stands. -/
structure Reader where
  finished : List Piece
  position : Position
deriving Repr, DecidableEq

namespace Reader

def start : Reader :=
  ⟨[], .between⟩

def lead (finished : List Piece) (byte : UInt8) : Reader :=
  match followers byte with
  | none => ⟨.illFormed :: finished, .between⟩
  | some [] => ⟨.scalar (Char.ofNat (leadBits byte)) :: finished, .between⟩
  | some (next :: later) => ⟨finished, .inside (leadBits byte) next later⟩

/-- Read one byte.

A byte outside the range that an open character expects closes that character as ill-formed
and is then read as a lead of its own. -/
def read (reader : Reader) (byte : UInt8) : Reader :=
  match reader.position with
  | .between => lead reader.finished byte
  | .inside bits (low, high) later =>
    if low ≤ byte ∧ byte ≤ high then
      let bits := bits * 64 + (byte.toNat - 0x80)
      match later with
      | [] => ⟨.scalar (Char.ofNat bits) :: reader.finished, .between⟩
      | next :: later => ⟨reader.finished, .inside bits next later⟩
    else
      lead (.illFormed :: reader.finished) byte

/-- All pieces, from left to right; a character that is still open is ill-formed. -/
def close (reader : Reader) : List Piece :=
  match reader.position with
  | .between => reader.finished.reverse
  | .inside _ _ _ => (.illFormed :: reader.finished).reverse

end Reader

/-- The pieces of a byte list, from left to right. -/
def pieces (bytes : List UInt8) : List Piece :=
  (bytes.foldl Reader.read Reader.start).close

namespace Piece

def scalar? : Piece → Option Char
  | .scalar character => some character
  | .illFormed => none

/-- The character of a piece, `U+FFFD` standing for an ill-formed one. -/
def replaced : Piece → Char
  | .scalar character => character
  | .illFormed => '\uFFFD'

end Piece

/-- The text that the bytes encode, when every piece of them is well-formed. -/
def decode (bytes : List UInt8) : Option (List Char) :=
  (pieces bytes).mapM Piece.scalar?

/-- The text that the bytes encode, with `U+FFFD` in place of each ill-formed piece. -/
def decodeLossy (bytes : List UInt8) : List Char :=
  (pieces bytes).map Piece.replaced

def encodeString (text : String) : List UInt8 :=
  encode text.toList

/-- The string that the bytes encode, when they encode one. -/
def decodeString (bytes : List UInt8) : Option String :=
  (decode bytes).map String.ofList

end HubRelay.Text.Utf8
