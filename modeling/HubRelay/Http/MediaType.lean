import HubRelay.Http.Message

/-!
Contract: media types, as far as they tell JSON from anything else.

Owns: the grammar of a media type with its parameters, and which media types are JSON.

Does not own: the bodies that media types describe.
-/

namespace HubRelay.Http.MediaType

def isToken (character : Char) : Bool :=
  character.isAlphanum || ['!', '#', '$', '%', '&', '\x27', '*', '+', '-', '.', '^', '_', '\x60', '|',
    '~'].contains character

/-- Where a reader of parameters stands. -/
inductive Position where
  /-- Before a name. -/
  | opening
  | name
  /-- Before a value. -/
  | assigned
  | value
  /-- Just after an opening quote. -/
  | quote
  | quoted
  /-- After a closing quote. -/
  | unquoted
deriving DecidableEq, Repr

def isQuotable (character : Char) : Bool :=
  31 < character.toNat && character.toNat ≠ 127

/-- Where a reader stands after one more character, unless that is out of place. -/
def Position.next (position : Position) (character : Char) : Option Position :=
  match position with
  | .opening =>
    if character = ' ' then some .opening else if isToken character then some .name else none
  | .name =>
    if character = '=' then some .assigned else if isToken character then some .name else none
  | .assigned =>
    if character = '"' then some .quote else if isToken character then some .value else none
  | .value =>
    if character = ';' then some .opening else if isToken character then some .value else none
  | .quote => if isQuotable character then some .quoted else none
  | .quoted =>
    if character = '"' then some .unquoted else if isQuotable character then some .quoted else none
  | .unquoted =>
    if character = ';' then some .opening else if character = ' ' then some .unquoted else none

def Position.isFinal : Position → Bool
  | .opening | .assigned | .value | .unquoted => true
  | .name | .quote | .quoted => false

def areParameters (text : List Char) : Bool :=
  match text.foldlM Position.next .opening with
  | some position => position.isFinal
  | none => false

/-- A media type: its two names, and what stands after the last plus sign of the second one. -/
structure Parts where
  kind : List Char
  subtype : List Char
  suffix : Option (List Char)
deriving DecidableEq, Repr

/-- Cut a second name at its last plus sign that is not its first character. -/
def cutSuffix (name : List Char) : List Char × Option (List Char) :=
  let suffix := (name.reverse.takeWhile (· ≠ '+')).reverse
  let before := name.take (name.length - suffix.length - 1)
  if suffix.length = name.length ∨ before.isEmpty then (name, none) else (before, some suffix)

/-- The parts of a media type, if it is well-formed. -/
def parse (text : List Char) : Option Parts :=
  let kind := text.takeWhile isToken
  match text.dropWhile isToken with
  | '/' :: rest =>
    let name := rest.takeWhile isToken
    let (subtype, suffix) := cutSuffix name
    let parts : Parts := ⟨kind, subtype, suffix⟩
    if kind.isEmpty then none
    else match rest.dropWhile isToken with
      | [] => some parts
      | ';' :: parameters => if !name.isEmpty && areParameters parameters then some parts else none
      | _ => none
  | _ => none

/-- Whether a name is the given one without regard to case. -/
def isNamed (name : List Char) (expected : String) : Bool :=
  String.ofList (name.map Char.toLower) == expected

/-- Whether a media type stands for JSON, by its second name or by its suffix. -/
def Parts.isJson (parts : Parts) : Bool :=
  isNamed parts.kind "application" &&
    (isNamed parts.subtype "json" || (parts.suffix.map (isNamed · "json")).getD false)

/-- Whether a request says that its body is JSON; its first header that gives a media type
counts. -/
def announcesJson (request : Request) : Bool :=
  match (request.header? "content-type").bind Header.visible? with
  | none => false
  | some text => ((parse text).map Parts.isJson).getD false

end HubRelay.Http.MediaType
