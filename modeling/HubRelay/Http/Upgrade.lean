import HubRelay.Http.Message
import HubRelay.Text.Blank
import HubRelay.Text.Pieces

/-!
Contract: requests that ask to go on as a web socket.

Owns: what such a request must say, and the protocol that is agreed on.

Does not own: what goes over the socket.
-/

namespace HubRelay.Http.Upgrade

/-- A text in which the ASCII letters are in lower case. -/
def lowerAscii (text : List Char) : List Char :=
  text.map Char.toLower

/-- Whether a header holds a word anywhere, without regard to case. -/
def mentions (request : Request) (name word : String) : Bool :=
  match (request.header? name).bind Text.Utf8.decode with
  | none => false
  | some value => (List.range (value.length + 1)).any fun start =>
      word.toList.isPrefixOf ((lowerAscii value).drop start)

/-- Whether a header is a word, without regard to case. -/
def equals (request : Request) (name word : String) : Bool :=
  match request.header? name with
  | none => false
  | some value => (lowerAscii (value.map fun byte => Char.ofNat byte.toNat)) == word.toList

/-- The status that a request is refused with that does not ask for a socket properly. -/
def refusal? (request : Request) : Option Nat :=
  if request.method ≠ "GET" then some 405
  else if mentions request "connection" "upgrade" && equals request "upgrade" "websocket" &&
      equals request "sec-websocket-version" "13" &&
      (request.header? "sec-websocket-key").isSome then none
  else some 400

def offered (headers : List Header) : List String :=
  match (Header.first? headers "sec-websocket-protocol").bind Header.visible? with
  | none => []
  | some value => (Text.pieces ',' value).map fun piece =>
      String.ofList (Text.Blank.trimChars piece)

/-- The protocol that the answer names: the chosen one, if the client offered it. -/
def agreed (headers : List Header) (chosen : Option String) : Option String :=
  chosen.filter (offered headers).contains

end HubRelay.Http.Upgrade
