import HubRelay.Json.Literal

/-!
Contract: the syntax tree of a text that is JSON up to some point.

Owns:
- the tree, in which the place where a text stops being JSON is a node or an open end;
- reading a tree off the front of any text.

Does not own: what a tree is refused for, and which members an object should have.

Reading never fails.  What is wrong with a text is found by whoever walks the tree, from left
to right, so that a value of the wrong kind is reported before a syntax error after it.
-/

namespace HubRelay.Json

/-- The syntax tree of a text. -/
inductive Document where
  /-- No value can start here, or the one that does is misspelled. -/
  | broken
  | null
  | boolean (value : Bool)
  /-- A spelled number, unless it is out of range. -/
  | number (value : Option Number)
  | string (spelling : StringSpelling)
  /-- The items of an array; if it is not closed, JSON ends after the last one. -/
  | array (items : List Document) (closed : Bool)
  /-- The members of an object; if it is not closed, JSON ends after the last one, or where a name
  should come next. -/
  | object (members : List (StringSpelling × Document)) (closed : Bool)
deriving Repr, Inhabited

namespace Document

/-- The blanks that may stand between the parts of a JSON text. -/
def isGap (character : Char) : Bool :=
  character = ' ' || character = '\t' || character = '\n' || character = '\r'

def skipGap (text : List Char) : List Char :=
  text.dropWhile isGap

/-- What comes after a literal word, if the text starts with it. -/
def takeWord : List Char → List Char → Option (List Char)
  | [], rest => some rest
  | _ :: _, [] => none
  | expected :: word, character :: rest =>
    if expected = character then takeWord word rest else none

def word (meaning : Document) (letters text : List Char) : Document × List Char :=
  match takeWord letters text with
  | some rest => (meaning, rest)
  | none => (.broken, [])

mutual

/-- Read a tree; the fuel bounds the number of values, names and separators. -/
def read : Nat → List Char → Document × List Char
  | 0, _ => (.broken, [])
  | fuel + 1, text =>
    match skipGap text with
    | [] => (.broken, [])
    | '"' :: rest =>
      match takeString rest with
      | some (spelling, rest) => (.string spelling, rest)
      | none => (.broken, [])
    | '[' :: rest =>
      match skipGap rest with
      | ']' :: rest => (.array [] true, rest)
      | rest => readItems fuel [] rest
    | '{' :: rest =>
      match skipGap rest with
      | '}' :: rest => (.object [] true, rest)
      | '"' :: rest => readMembers fuel [] rest
      | _ => (.object [] false, [])
    | 'n' :: rest => word .null ['u', 'l', 'l'] rest
    | 't' :: rest => word (.boolean true) ['r', 'u', 'e'] rest
    | 'f' :: rest => word (.boolean false) ['a', 'l', 's', 'e'] rest
    | rest =>
      match takeNumber rest with
      | some (spelling, rest) => (.number spelling.number?, rest)
      | none => (.broken, [])

/-- Read the items of an array from an item on; those before it come latest first. -/
def readItems : Nat → List Document → List Char → Document × List Char
  | 0, items, _ => (.array items.reverse false, [])
  | fuel + 1, items, text =>
    match read fuel text with
    | (item, rest) =>
      match skipGap rest with
      | ',' :: rest => readItems fuel (item :: items) rest
      | ']' :: rest => (.array (item :: items).reverse true, rest)
      | _ => (.array (item :: items).reverse false, [])

/-- Read the members of an object from inside a name on; those before it come latest first. -/
def readMembers : Nat → List (StringSpelling × Document) → List Char → Document × List Char
  | 0, members, _ => (.object members.reverse false, [])
  | fuel + 1, members, text =>
    match takeString text with
    | none => (.object members.reverse false, [])
    | some (name, rest) =>
      match skipGap rest with
      | ':' :: rest =>
        match read fuel rest with
        | (value, rest) =>
          match skipGap rest with
          | ',' :: rest =>
            match skipGap rest with
            | '"' :: rest => readMembers fuel ((name, value) :: members) rest
            | _ => (.object ((name, value) :: members).reverse false, [])
          | '}' :: rest => (.object ((name, value) :: members).reverse true, rest)
          | _ => (.object ((name, value) :: members).reverse false, [])
      | _ => (.object ((name, .broken) :: members).reverse false, [])

end

/-- The tree at the front of a text, and what stands after it. -/
def ofText (text : List Char) : Document × List Char :=
  read (2 * text.length + 2) text

end Document

end HubRelay.Json
