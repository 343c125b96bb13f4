import HubRelay.Toml.Lexeme

/-!
Contract: TOML texts.

Owns: values with what is nested in them, lines, headers, and the table that a text stands for.

Does not own: the words of a text.
-/

namespace HubRelay.Toml

/-- A text without the blanks, comments and line ends at its front; the fuel bounds the lines. -/
def skipLines : Nat → List Char → List Char
  | 0, text => text
  | fuel + 1, text =>
    match skipGap text with
    | '#' :: rest =>
      match takeNewline (rest.dropWhile isPlain) with
      | some rest => skipLines fuel rest
      | none => '#' :: rest
    | rest =>
      match takeNewline rest with
      | some rest => skipLines fuel rest
      | none => rest

/-- A text without all blanks, comments and line ends at its front. -/
def skipSpace (text : List Char) : List Char :=
  skipLines text.length text

mutual

/-- Take a value in which lists and tables may nest to the given depth; the fuel bounds the number
of values and separators. -/
def takeValue : Nat → Nat → List Char → Option (Value × List Char)
  | 0, _, _ => none
  | fuel + 1, depth, text =>
    match text with
    | '"' :: _ | '\x27' :: _ => (takeString text).map fun (value, rest) => (.text value, rest)
    | '[' :: rest =>
      match depth with
      | 0 => none
      | depth + 1 => takeItems fuel depth [] rest
    | '\x7b' :: rest =>
      match depth with
      | 0 => none
      | depth + 1 =>
        match skipGap rest with
        | '\x7d' :: rest => some (.table [], rest)
        | _ => takePairs fuel depth [] rest
    | 't' :: _ => (takeWord "true" text).map fun rest => (.boolean true, rest)
    | 'f' :: _ => (takeWord "false" text).map fun rest => (.boolean false, rest)
    | _ => takeQuantity text

/-- Take the items of a list up to its end; those before come latest first. -/
def takeItems : Nat → Nat → List Value → List Char → Option (Value × List Char)
  | 0, _, _, _ => none
  | fuel + 1, depth, items, text =>
    match skipSpace text with
    | ']' :: rest => some (.list items.reverse, rest)
    | rest => do
      let (item, rest) ← takeValue fuel depth rest
      match skipSpace rest with
      | ',' :: rest => takeItems fuel depth (item :: items) rest
      | ']' :: rest => some (.list (item :: items).reverse, rest)
      | _ => none

/-- Take the pairs of a table in one line up to its end. -/
def takePairs : Nat → Nat → Entries → List Char → Option (Value × List Char)
  | 0, _, _, _ => none
  | fuel + 1, depth, entries, text => do
    let (path, name, rest) ← takeKey text
    let rest ← takeMark '=' rest
    let (value, rest) ← takeValue fuel depth (skipGap rest)
    let entries ← Entries.assign path name value .header entries
    match skipGap rest with
    | ',' :: rest => takePairs fuel depth entries rest
    | '\x7d' :: rest => some (.table (finishEntries entries), rest)
    | _ => none

end

/-- A text that is read: the entries of the whole, and the path to the table that lines go to. -/
structure State where
  entries : Entries
  path : List String

def readPair (state : State) (text : List Char) : Option (State × List Char) := do
  let (path, name, rest) ← takeKey text
  let rest ← takeMark '=' rest
  let rest := skipGap rest
  let (value, rest) ← takeValue (2 * rest.length + 1) depthLimit rest
  let entries ← Entries.change false (Entries.assign path name value) state.path .header
    state.entries
  some ({ state with entries := entries }, rest)

def readHeader (state : State) (text : List Char) : Option (State × List Char) := do
  let several := match text with
    | '[' :: _ => true
    | _ => false
  let (path, name, rest) ← takeKey (if several then text.drop 1 else text)
  let rest ← takeMark ']' rest
  let rest ← if several then takeMark ']' rest else some rest
  let act := fun (_ : TableOrigin) entries =>
    if several then Entries.openNext name entries else Entries.openTable name entries
  let entries ← Entries.change false act path .header state.entries
  some (⟨entries, path ++ [name]⟩, rest)

def readLine (state : State) (text : List Char) : Option (State × List Char) := do
  let (state, rest) ← match text with
    | '#' :: _ | '\n' :: _ | '\r' :: _ => some (state, text)
    | '[' :: rest => readHeader state rest
    | _ => readPair state text
  let rest ← takeLineEnd rest
  some (state, rest)

/-- Read all lines; the fuel bounds their number. -/
def readLines : Nat → State → List Char → Option State
  | 0, _, _ => none
  | fuel + 1, state, text =>
    match skipGap text with
    | [] => some state
    | rest => do
      let (state, rest) ← readLine state rest
      readLines fuel state rest

/-- The entries of the table that a text stands for, if it is well-formed.  A mark of the byte order
may come first. -/
def read (text : List Char) : Option (List (String × Value)) :=
  let text := match text with
    | '\uFEFF' :: rest => rest
    | text => text
  (readLines (text.length + 1) ⟨[], []⟩ text).map fun state => finishEntries state.entries

end HubRelay.Toml
