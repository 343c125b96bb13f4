/-!
Contract: byte strings as text in groups of four digits, each digit six bits.

Owns: the digit alphabet, the written form of a byte string, and a reader that accepts exactly
the written forms: padding is required, nothing may stand between digits, and the bits that a
short last group leaves unused are zero.

Does not own: the message fields that carry such text.
-/

namespace HubRelay.Base64

def digit (value : Nat) : Char :=
  if value < 26 then Char.ofNat ('A'.toNat + value)
  else if value < 52 then Char.ofNat ('a'.toNat + (value - 26))
  else if value < 62 then Char.ofNat ('0'.toNat + (value - 52))
  else if value = 62 then '+'
  else '/'

def value? (character : Char) : Option Nat :=
  if 'A' ≤ character ∧ character ≤ 'Z' then some (character.toNat - 'A'.toNat)
  else if 'a' ≤ character ∧ character ≤ 'z' then some (character.toNat - 'a'.toNat + 26)
  else if '0' ≤ character ∧ character ≤ '9' then some (character.toNat - '0'.toNat + 52)
  else if character = '+' then some 62
  else if character = '/' then some 63
  else none

def encodeThree (first second third : Nat) : List Char :=
  [digit (first / 4), digit (first % 4 * 16 + second / 16),
    digit (second % 16 * 4 + third / 64), digit (third % 64)]

def encode : List UInt8 → List Char
  | [] => []
  | [first] =>
    [digit (first.toNat / 4), digit (first.toNat % 4 * 16), '=', '=']
  | [first, second] =>
    [digit (first.toNat / 4), digit (first.toNat % 4 * 16 + second.toNat / 16),
      digit (second.toNat % 16 * 4), '=']
  | first :: second :: third :: rest =>
    encodeThree first.toNat second.toNat third.toNat ++ encode rest

/-- The byte of a last group that holds one, when its unused bits are zero. -/
def decodeOne (first second : Char) : Option (List UInt8) := do
  let a ← value? first
  let b ← value? second
  if b % 16 = 0 then some [UInt8.ofNat (a * 4 + b / 16)] else none

/-- The bytes of a last group that holds two, when its unused bits are zero. -/
def decodeTwo (first second third : Char) : Option (List UInt8) := do
  let a ← value? first
  let b ← value? second
  let c ← value? third
  if c % 4 = 0 then
    some [UInt8.ofNat (a * 4 + b / 16), UInt8.ofNat (b % 16 * 16 + c / 4)]
  else none

def decodeThree (first second third fourth : Char) : Option (List UInt8) := do
  let a ← value? first
  let b ← value? second
  let c ← value? third
  let d ← value? fourth
  some [UInt8.ofNat (a * 4 + b / 16), UInt8.ofNat (b % 16 * 16 + c / 4),
    UInt8.ofNat (c % 4 * 64 + d)]

/-- The byte string that a text is the written form of, if it is one. -/
def decode : List Char → Option (List UInt8)
  | [] => some []
  | [first, second, '=', '='] => decodeOne first second
  | [first, second, third, '='] => decodeTwo first second third
  | first :: second :: third :: fourth :: rest => do
    let group ← decodeThree first second third fourth
    let bytes ← decode rest
    some (group ++ bytes)
  | _ => none

end HubRelay.Base64
