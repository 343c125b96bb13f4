import HubRelay.Json.Value
import HubRelay.Text.Hex

/-!
Contract: numbers and strings as they are spelled in a JSON text.

Owns:
- the spelling of a number, and the number that it stands for, if it is in range;
- the spelling of a string, which is a text or holds half a surrogate pair;
- reading both off the front of a text.

Does not own: blanks, arrays, objects, or what a number or string is for.
-/

namespace HubRelay.Json

/-- The parts of a spelled number, each a row of digit values.

The fraction is empty when there is no point; the exponent comes with its sign. -/
structure NumberSpelling where
  negative : Bool
  whole : List Nat
  fraction : List Nat
  exponent : Option (Bool × List Nat)
deriving DecidableEq, Repr

namespace NumberSpelling

/-- Add digits to a significand while it fits 64 bits; the answer tells how many were left out. -/
def addWhole (significand : Nat) : List Nat → Nat × Nat
  | [] => (significand, 0)
  | digit :: digits =>
    if significand * 10 + digit < 0x10000000000000000 then addWhole (significand * 10 + digit) digits
    else (significand, digits.length + 1)

/-- Add digits after the point while the significand fits 64 bits; the answer tells how many
were added. -/
def addFraction (significand : Nat) (added : Nat) : List Nat → Nat × Nat
  | [] => (significand, added)
  | digit :: digits =>
    if significand * 10 + digit < 0x10000000000000000 then
      addFraction (significand * 10 + digit) (added + 1) digits
    else (significand, added)

/-- The greatest exponent that is told apart from larger ones. -/
def exponentLimit : Nat := 0x7FFFFFFF

/-- The value of the digits of an exponent, unless it exceeds the limit. -/
def exponentValue (digits : List Nat) : Option Nat :=
  digits.foldlM (fun total digit =>
    if total * 10 + digit ≤ exponentLimit then some (total * 10 + digit) else none) 0

/-- Multiply a double by a power of ten, at most 308 powers at a time; nothing is answered where
the result would be infinite.

A double under 64 bits vanishes after three divisions, so the fuel is never used up. -/
def scaleFloat (fuel : Nat) (value : Float) (exponent : Int) : Option Float :=
  if exponent.natAbs ≤ 308 then
    let power := Float.ofScientific 1 false exponent.natAbs
    if 0 ≤ exponent then
      if (value * power).isInf then none else some (value * power)
    else some (value / power)
  else if value == 0 then some value
  else if 0 ≤ exponent then none
  else match fuel with
    | 0 => some 0
    | fuel + 1 =>
      scaleFloat fuel (value / Float.ofScientific 1 false 308) (exponent + 308)

def signedDouble (negative : Bool) (magnitude : Float) : Option Number :=
  (Decimal.Binary64.ofBits? (if negative then -magnitude else magnitude).toBits).map .double

/-- The double `significand * 10 ^ exponent`, unless it is infinite. -/
def double (negative : Bool) (significand : Nat) (exponent : Int) : Option Number :=
  (scaleFloat 3 (UInt64.ofNat significand).toFloat exponent).bind (signedDouble negative)

/-- An integer that fits its range, and otherwise the nearest double; so is a negative zero. -/
def integer (negative : Bool) (significand : Nat) : Option Number :=
  if negative then
    if small : 0 < significand ∧ significand ≤ 0x8000000000000000 then
      some (.integer (-(significand : Int)) (by omega))
    else signedDouble true (UInt64.ofNat significand).toFloat
  else Number.ofNat? significand

/-- The number that a spelling stands for, unless it is out of range. -/
def number? (spelling : NumberSpelling) : Option Number :=
  let (significand, dropped) := addWhole 0 spelling.whole
  if spelling.fraction = [] ∧ spelling.exponent = none ∧ dropped = 0 then
    integer spelling.negative significand
  else
    let (significand, added) := addFraction significand 0 spelling.fraction
    let exponent : Int := dropped - added
    match spelling.exponent with
    | none => double spelling.negative significand exponent
    | some (below, digits) =>
      match exponentValue digits with
      | none =>
        if significand ≠ 0 ∧ below = false then none else signedDouble spelling.negative 0
      | some value =>
        double spelling.negative significand
          (if below then exponent - value else exponent + value)

end NumberSpelling

def digitValue? (character : Char) : Option Nat :=
  if '0' ≤ character ∧ character ≤ '9' then some (character.toNat - '0'.toNat) else none

/-- The digits at the front of a text, and the rest. -/
def takeDigits (text : List Char) : List Nat × List Char :=
  ((text.takeWhile Char.isDigit).filterMap digitValue?, text.dropWhile Char.isDigit)

def takeDigitsPlus (text : List Char) : Option (List Nat × List Char) :=
  match takeDigits text with
  | ([], _) => none
  | found => some found

/-- The part before the point: a zero alone, or digits that do not start with one. -/
def takeWhole (text : List Char) : Option (List Nat × List Char) :=
  match takeDigits text with
  | ([], _) => none
  | (0 :: _ :: _, _) => none
  | found => some found

/-- The part after the point, when there is a point. -/
def takeFraction : List Char → Option (List Nat × List Char)
  | '.' :: rest => takeDigitsPlus rest
  | text => some ([], text)

/-- The exponent, when there is one. -/
def takeExponent : List Char → Option (Option (Bool × List Nat) × List Char)
  | mark :: rest =>
    if mark = 'e' ∨ mark = 'E' then
      let (below, digits) := match rest with
        | '-' :: digits => (true, digits)
        | '+' :: digits => (false, digits)
        | digits => (false, digits)
      (takeDigitsPlus digits).map fun (digits, rest) => (some (below, digits), rest)
    else some (none, mark :: rest)
  | [] => some (none, [])

/-- Read a spelled number, its sign included. -/
def takeNumber (text : List Char) : Option (NumberSpelling × List Char) := do
  let (negative, text) := match text with
    | '-' :: rest => (true, rest)
    | text => (false, text)
  let (whole, text) ← takeWhole text
  let (fraction, text) ← takeFraction text
  let (exponent, text) ← takeExponent text
  return (⟨negative, whole, fraction, exponent⟩, text)

/-- A spelled string. -/
inductive StringSpelling where
  /-- It stands for a text. -/
  | text (value : String)
  /-- It holds an escaped surrogate that is not half of a pair, and stands for no text. -/
  | unpaired
deriving DecidableEq, Repr

/-- Where a reader of strings stands. -/
inductive StringMode where
  /-- Not in an escape. -/
  | plain
  /-- After a backslash. -/
  | escape
  /-- In the digits of a code unit: how many were read, and their value. -/
  | unit (digits : Nat) (value : Nat)
deriving DecidableEq, Repr

/-- A reader of strings: the characters so far, the latest first; whether every surrogate was
paired; and the first half of a pair that may yet be completed. -/
structure StringReader where
  characters : List Char
  paired : Bool
  half : Option Nat
  mode : StringMode
deriving DecidableEq, Repr

namespace StringReader

def start : StringReader :=
  ⟨[], true, none, .plain⟩

/-- Add a character that is no code unit; a pending half then stays alone. -/
def add (reader : StringReader) (character : Char) : StringReader :=
  ⟨character :: reader.characters, reader.paired && reader.half.isNone, none, .plain⟩

/-- Whether a code unit is the first half of a surrogate pair. -/
def isFirstHalf (unit : Nat) : Bool :=
  0xD800 ≤ unit && unit ≤ 0xDBFF

/-- Whether a code unit is the second half of a surrogate pair. -/
def isSecondHalf (unit : Nat) : Bool :=
  0xDC00 ≤ unit && unit ≤ 0xDFFF

def pairCharacter (first second : Nat) : Char :=
  Char.ofNat ((first - 0xD800) * 0x400 + (second - 0xDC00) + 0x10000)

def addUnit (reader : StringReader) (unit : Nat) : StringReader :=
  match reader.half with
  | some first =>
    if isSecondHalf unit then
      ⟨pairCharacter first unit :: reader.characters, reader.paired, none, .plain⟩
    else ⟨reader.characters, false, none, .plain⟩
  | none =>
    if isFirstHalf unit then ⟨reader.characters, reader.paired, some unit, .plain⟩
    else if isSecondHalf unit then ⟨reader.characters, false, none, .plain⟩
    else ⟨Char.ofNat unit :: reader.characters, reader.paired, none, .plain⟩

/-- The character that a one-letter escape stands for. -/
def escaped? (letter : Char) : Option Char :=
  if letter = '"' ∨ letter = '\\' ∨ letter = '/' then some letter
  else if letter = 'b' then some '\x08'
  else if letter = 'f' then some '\x0C'
  else if letter = 'n' then some '\n'
  else if letter = 'r' then some '\r'
  else if letter = 't' then some '\t'
  else none

/-- What has been spelled when the closing quote is met. -/
def finish (reader : StringReader) : StringSpelling :=
  if reader.paired && reader.half.isNone then
    .text (String.ofList reader.characters.reverse)
  else .unpaired

/-- Read up to the closing quote.

A control character, an unknown escape, or the end of the text make it no string. -/
def run (reader : StringReader) : List Char → Option (StringSpelling × List Char)
  | [] => none
  | character :: rest =>
    match reader.mode with
    | .plain =>
      if character = '"' then some (reader.finish, rest)
      else if character = '\\' then run { reader with mode := .escape } rest
      else if character.toNat < 0x20 then none
      else run (reader.add character) rest
    | .escape =>
      if character = 'u' then run { reader with mode := .unit 0 0 } rest
      else match escaped? character with
        | some meant => run (reader.add meant) rest
        | none => none
    | .unit digits value =>
      match Text.Hex.value? character with
      | none => none
      | some digit =>
        if digits = 3 then run (reader.addUnit (value * 16 + digit)) rest
        else run { reader with mode := .unit (digits + 1) (value * 16 + digit) } rest

end StringReader

/-- Read a string whose opening quote has been read. -/
def takeString (text : List Char) : Option (StringSpelling × List Char) :=
  StringReader.start.run text

end HubRelay.Json
