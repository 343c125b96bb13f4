import HubRelay.Text.Hex
import HubRelay.Text.Utf8

/-!
Contract: bytes written as percent signs with two hexadecimal digits.

Owns: decoding the segments of a path and the parts of a form.

Does not own: cutting a path into segments or a form into fields.

A percent sign without two digits after it stands for itself.
-/

namespace HubRelay.Text.Percent

/-- The bytes of a text, percent escapes decoded. -/
def decodeBytes : List Char → List UInt8
  | '%' :: high :: low :: rest =>
    match Hex.value? high, Hex.value? low with
    | some upper, some lower => UInt8.ofNat (upper * 16 + lower) :: decodeBytes rest
    | _, _ => Utf8.encode ['%'] ++ decodeBytes (high :: low :: rest)
  | character :: rest => Utf8.encode [character] ++ decodeBytes rest
  | [] => []

/-- The text of a segment, unless its bytes are no text. -/
def decodeSegment (segment : List Char) : Option String :=
  Utf8.decodeString (decodeBytes segment)

/-- The text of a part of a form, in which a plus sign stands for a blank; bytes that are no text
are replaced. -/
def decodeFormPart (part : List Char) : String :=
  String.ofList (Utf8.decodeLossy (decodeBytes
    (part.map fun character => if character = '+' then ' ' else character)))

end HubRelay.Text.Percent
