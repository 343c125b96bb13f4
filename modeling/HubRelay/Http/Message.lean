import HubRelay.Envelope.Context
import HubRelay.Text.Utf8

/-!
Contract: requests, and the headers that they carry.

Owns: requests as they arrive, looking a header up, and capturing headers as the context of a
connection.

Does not own: what a request asks for.

Names of headers are compared without regard to case.
-/

namespace HubRelay.Http

/-- A header: a name, and a value that can be any bytes. -/
structure Header where
  name : String
  value : List UInt8
deriving DecidableEq, Repr

namespace Header

def key (header : Header) : String :=
  header.name.map Char.toLower

/-- The value of the first header of a name, which is given in lower case. -/
def first? (headers : List Header) (name : String) : Option (List UInt8) :=
  (headers.find? (·.key = name)).map (·.value)

def isGap (byte : UInt8) : Bool :=
  byte == 0x20 || byte == 0x09

/-- A header as it arrives: blanks and tabs around its value do not belong to it. -/
def received (header : Header) : Header :=
  { header with
    value := (((header.value.dropWhile isGap).reverse).dropWhile isGap).reverse }

/-- Whether a byte may stand in a value: anything but a control character, apart from the tab. -/
def isLegal (byte : UInt8) : Bool :=
  (0x20 ≤ byte && byte ≠ 0x7F) || byte == 0x09

/-- Whether a byte is a printing character, a blank or a tab. -/
def isVisible (byte : UInt8) : Bool :=
  (0x20 ≤ byte && byte < 0x7F) || byte == 0x09

/-- The value of a header as text, if it holds visible characters only. -/
def visible? (value : List UInt8) : Option (List Char) :=
  if value.all isVisible then some (value.map fun byte => Char.ofNat byte.toNat) else none

/-- Note the value of a header, after a comma if there is one of its name already. -/
def note (noted : Dictionary String) (header : Header) : Dictionary String :=
  let value := String.ofList (Text.Utf8.decodeLossy header.value)
  match noted.get? header.key with
  | none => noted.insert header.key value
  | some earlier => noted.insert header.key (earlier ++ "," ++ value)

end Header

/-- The context of a connection that a request with these headers opens. -/
def captureContext (headers : List Header) : Context :=
  ⟨headers.foldl Header.note .empty, none⟩

/-- A request. -/
structure Request where
  method : String
  /-- The path, and after a question mark the query. -/
  target : String
  headers : List Header
  body : List UInt8
deriving Repr

namespace Request

def received (request : Request) : Request :=
  { request with headers := request.headers.map Header.received }

def resource (request : Request) : List Char :=
  request.target.toList.takeWhile (· ≠ '#')

def path (request : Request) : List Char :=
  request.resource.takeWhile (· ≠ '?')

/-- The query of a request, empty if there is none. -/
def query (request : Request) : List Char :=
  (request.resource.dropWhile (· ≠ '?')).drop 1

/-- The value of the first header of a name, which is given in lower case. -/
def header? (request : Request) (name : String) : Option (List UInt8) :=
  Header.first? request.headers name

end Request

end HubRelay.Http
