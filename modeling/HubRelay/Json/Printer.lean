import HubRelay.Decimal.Layout
import HubRelay.Json.Value
import HubRelay.Text.Hex

/-!
Contract: the compact text of a JSON value.

Owns: the escapes of strings, the layout of numbers, and the text of values, without blanks and
with members in the order in which the value holds them.

Does not own: reading such texts.
-/

namespace HubRelay.Json

/-- Doubles are written in positions from `0.00001` up to sixteen whole digits, whole ones with
`.0`, and otherwise with a signed exponent. -/
def doubleLayout : Decimal.Layout where
  positionalFrom := -5
  positionalTo := 15
  keepsPoint := true
  signsExponent := true

/-- A character inside a string: quotes, backslashes and control characters are escaped, those
with a letter of their own by that letter. -/
def escape (character : Char) : List Char :=
  if character = '"' then ['\\', '"']
  else if character = '\\' then ['\\', '\\']
  else if character = '\x08' then ['\\', 'b']
  else if character = '\x0C' then ['\\', 'f']
  else if character = '\n' then ['\\', 'n']
  else if character = '\r' then ['\\', 'r']
  else if character = '\t' then ['\\', 't']
  else if character.toNat < 0x20 then
    '\\' :: 'u' :: Text.Hex.lastDigits 4 character.toNat
  else [character]

def printString (text : String) : List Char :=
  '"' :: (text.toList.flatMap escape ++ ['"'])

def Number.print : Number → List Char
  | .integer value _ =>
    if value < 0 then '-' :: Decimal.digitsOf value.natAbs else Decimal.digitsOf value.natAbs
  | .double value => doubleLayout.write value

mutual

def print : Json → List Char
  | .null => ['n', 'u', 'l', 'l']
  | .boolean true => ['t', 'r', 'u', 'e']
  | .boolean false => ['f', 'a', 'l', 's', 'e']
  | .number value => value.print
  | .string value => printString value
  | .array [] => ['[', ']']
  | .array (item :: items) => '[' :: (print item ++ printItems items)
  | .object [] => ['{', '}']
  | .object ((name, value) :: members) =>
    '{' :: (printString name ++ ':' :: (print value ++ printMembers members))

/-- The items after the first one, each after a comma, and the closing bracket. -/
def printItems : List Json → List Char
  | [] => [']']
  | item :: items => ',' :: (print item ++ printItems items)

/-- The members after the first one, each after a comma, and the closing brace. -/
def printMembers : List (String × Json) → List Char
  | [] => ['}']
  | (name, value) :: members =>
    ',' :: (printString name ++ ':' :: (print value ++ printMembers members))

end

def text (value : Json) : String :=
  String.ofList value.print

end HubRelay.Json
