import HubRelay.Text.Hex
import HubRelay.Text.Lowercase
import HubRelay.Text.PrintTable

/-!
Contract: texts in quotes for people to read.

Owns: the escapes of such texts.

Does not own: the quotes of JSON or any other data notation.
-/

namespace HubRelay.Text

namespace Quoted

/-- A character between quotes.

Quotes, backslashes and the usual control characters have an escape of one letter; a character
without a shape of its own is written by its number. -/
def escape (character : Char) : List Char :=
  if character = '"' then ['\\', '"']
  else if character = '\\' then ['\\', '\\']
  else if character = '\n' then ['\\', 'n']
  else if character = '\r' then ['\\', 'r']
  else if character = '\t' then ['\\', 't']
  else if character = '\x00' then ['\\', '0']
  else if isWithin shapelessRanges character then
    ['\\', 'u', '\x7b'] ++ Hex.digits character.toNat ++ ['\x7d']
  else [character]

end Quoted

def quoted (text : String) : String :=
  String.ofList ('"' :: (text.toList.flatMap Quoted.escape ++ ['"']))

end HubRelay.Text
