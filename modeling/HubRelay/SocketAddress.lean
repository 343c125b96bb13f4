import HubRelay.Text.Hex

/-!
Contract: the addresses at which the ends of connections are found.

Owns: addresses of both lengths with their ports, reading them, and the one text that each of them
is written as.

Does not own: which connection has which address.

A long address has many spellings: groups may have zeros in front and letters in either case, one
run of zero groups may be left out, and the last two groups may be given as four decimal numbers.
-/

namespace HubRelay

/-- The address of one end of a connection. -/
inductive SocketAddress where
  /-- A host of four bytes. -/
  | short (host : Vector UInt8 4) (port : UInt16)
  /-- A host of eight groups, and the zone that it is in, where that is not zero. -/
  | long (host : Vector UInt16 8) (zone : UInt32) (port : UInt16)
deriving DecidableEq, Repr

namespace SocketAddress

/-! ## Reading -/

/-- What follows a character at the front of a text. -/
def skip? (expected : Char) : List Char → Option (List Char)
  | character :: rest => if character = expected then some rest else none
  | [] => none

/-- The decimal number below a bound at the front of a text. -/
def readDecimal? (bound : Nat) (text : List Char) : Option (Nat × List Char) :=
  let digits := text.takeWhile Char.isDigit
  let number := Nat.ofDigitChars 10 digits 0
  if digits ≠ [] ∧ number < bound then some (number, text.dropWhile Char.isDigit) else none

/-- The byte at the front of a text, without zeros before its other digits. -/
def readByte? (text : List Char) : Option (UInt8 × List Char) :=
  match text.takeWhile Char.isDigit with
  | '0' :: _ :: _ => none
  | _ => (readDecimal? 256 text).map fun (number, rest) => (number.toUInt8, rest)

def readFurtherByte? (text : List Char) : Option (UInt8 × List Char) :=
  (skip? '.' text).bind readByte?

/-- The four bytes at the front of a text, with points between them. -/
def readShortHost? (text : List Char) : Option (Vector UInt8 4 × List Char) := do
  let (first, text) ← readByte? text
  let (second, text) ← readFurtherByte? text
  let (third, text) ← readFurtherByte? text
  let (fourth, text) ← readFurtherByte? text
  some (#v[first, second, third, fourth], text)

/-- The group of one to four hexadecimal digits at the front of a text. -/
def readGroup? (text : List Char) : Option (UInt16 × List Char) :=
  let digits := text.takeWhile fun character => (Text.Hex.value? character).isSome
  if digits = [] ∨ 4 < digits.length then none
  else (Text.Hex.number? digits).map fun number => (number.toUInt16, text.drop digits.length)

def groupOf (high low : UInt8) : UInt16 :=
  high.toUInt16 * 256 + low.toUInt16

def groupsOf (bytes : Vector UInt8 4) : List UInt16 :=
  [groupOf bytes[0] bytes[1], groupOf bytes[2] bytes[3]]

/-- Read groups with colons between them, at most so many: the groups, whether the last two of
them were given as four decimal numbers, and the rest of the text.

Four decimal numbers need room for two groups, and nothing is read after them. -/
def readGroups : Nat → Bool → List Char → List UInt16 × Bool × List Char
  | 0, _, text => ([], false, text)
  | room + 1, isFirst, text =>
    let start := if isFirst then some text else skip? ':' text
    match if room = 0 then none else start.bind readShortHost? with
    | some (bytes, rest) => (groupsOf bytes, true, rest)
    | none =>
      match start.bind readGroup? with
      | none => ([], false, text)
      | some (group, rest) =>
        let (groups, mixed, rest) := readGroups room false rest
        (group :: groups, mixed, rest)

/-- A host of the given groups, if there are eight. -/
def hostOf? (groups : List UInt16) : Option (Vector UInt16 8) :=
  if eight : groups.length = 8 then some ⟨groups.toArray, by simpa using eight⟩ else none

/-- The eight groups at the front of a text.

Two colons stand for at least one zero group, and decimal numbers cannot come before them. -/
def readLongHost? (text : List Char) : Option (Vector UInt16 8 × List Char) := do
  let (front, mixed, rest) := readGroups 8 true text
  if front.length = 8 then (hostOf? front).map fun host => (host, rest)
  else if mixed then none
  else
    let rest ← skip? ':' rest
    let rest ← skip? ':' rest
    let (back, _, rest) := readGroups (7 - front.length) true rest
    let zeros := List.replicate (8 - front.length - back.length) 0
    (hostOf? (front ++ zeros ++ back)).map fun host => (host, rest)

/-- The zone after a percent sign, zero where there is none. -/
def readZone (text : List Char) : UInt32 × List Char :=
  match (skip? '%' text).bind (readDecimal? 0x100000000) with
  | some (number, rest) => (number.toUInt32, rest)
  | none => (0, text)

/-- The port that a text ends with, after a colon. -/
def readPort? (text : List Char) : Option UInt16 :=
  match (skip? ':' text).bind (readDecimal? 0x10000) with
  | some (number, []) => some number.toUInt16
  | _ => none

def readShort? (text : List Char) : Option SocketAddress := do
  let (host, rest) ← readShortHost? text
  let port ← readPort? rest
  some (.short host port)

/-- The long address that a text stands for: its host in brackets. -/
def readLong? (text : List Char) : Option SocketAddress := do
  let (host, rest) ← (skip? '[' text).bind readLongHost?
  let (zone, rest) := readZone rest
  let port ← (skip? ']' rest).bind readPort?
  some (.long host zone port)

def ofText? (text : String) : Option SocketAddress :=
  (readShort? text.toList).or (readLong? text.toList)

/-! ## Writing -/

def decimal (number : Nat) : List Char :=
  Nat.toDigits 10 number

def shortHostText (bytes : List UInt8) : List Char :=
  List.intercalate ['.'] (bytes.map fun byte => decimal byte.toNat)

/-- Groups without zeros in front, with colons between them. -/
def groupsText (groups : List UInt16) : List Char :=
  List.intercalate [':'] (groups.map fun group => Text.Hex.digits group.toNat)

def leadingZeros (groups : List UInt16) : Nat :=
  (groups.takeWhile (· = 0)).length

/-- Where the first of the longest runs of zero groups starts, and how long it is. -/
def longestZeros (groups : List UInt16) : Nat × Nat :=
  ((List.range groups.length).map fun start => (start, leadingZeros (groups.drop start))).foldl
    (fun best run => if best.2 < run.2 then run else best) (0, 0)

/-- Eight groups.

The longest run of zeros is left out if it is longer than one group.  An address that stands for a
short one shows it. -/
def longHostText (groups : List UInt16) : List Char :=
  match groups with
  | [0, 0, 0, 0, 0, 0xFFFF, high, low] =>
    [':', ':', 'f', 'f', 'f', 'f', ':'] ++ shortHostText
      [(high / 256).toUInt8, high.toUInt8, (low / 256).toUInt8, low.toUInt8]
  | groups =>
    let (start, length) := longestZeros groups
    if length ≤ 1 then groupsText groups
    else groupsText (groups.take start) ++ [':', ':'] ++ groupsText (groups.drop (start + length))

def text : SocketAddress → String
  | .short host port =>
    String.ofList (shortHostText host.toList ++ ':' :: decimal port.toNat)
  | .long host zone port =>
    let zone := if zone = 0 then [] else '%' :: decimal zone.toNat
    String.ofList
      ('[' :: longHostText host.toList ++ zone ++ [']', ':'] ++ decimal port.toNat)

end SocketAddress

end HubRelay
