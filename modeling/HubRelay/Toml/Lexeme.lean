import HubRelay.Decimal.Layout
import HubRelay.Text.Hex
import HubRelay.Toml.Value

/-!
Contract: the words of a TOML text.

Owns: blanks, comments and line ends; keys; strings; numbers; dates and times.

Does not own: how words make up a text.

Each reader takes a word off the front of a text and answers what it stands for and the rest.
-/

namespace HubRelay.Toml

/-! ## Blanks -/

def isGap (character : Char) : Bool :=
  character = ' ' || character = '\t'

/-- Whether a character may stand in a comment, and in a string if it has no other meaning. -/
def isPlain (character : Char) : Bool :=
  character = '\t' || (0x20 ≤ character.toNat && character.toNat ≠ 0x7F)

def skipGap (text : List Char) : List Char :=
  text.dropWhile isGap

def skipComment : List Char → List Char
  | '#' :: rest => rest.dropWhile isPlain
  | text => text

def takeNewline : List Char → Option (List Char)
  | '\n' :: rest => some rest
  | '\r' :: '\n' :: rest => some rest
  | _ => none

/-- What comes after the rest of a line in which nothing else may stand. -/
def takeLineEnd (text : List Char) : Option (List Char) :=
  match skipComment (skipGap text) with
  | [] => some []
  | rest => takeNewline rest

/-! ## Strings -/

/-- How a string is spelled. -/
structure StringStyle where
  quote : Char
  /-- Whether backslashes start escapes. -/
  escapes : Bool
  /-- Whether it has three quotes at either end and may hold several lines. -/
  lines : Bool
deriving DecidableEq, Repr

/-- Where a reader of strings stands. -/
inductive StringMode where
  | plain
  /-- After a backslash. -/
  | escape
  /-- In the digits of a code point: how many are missing, and their value so far. -/
  | code (missing : Nat) (value : Nat)
  /-- After a backslash that hides a line end; whether the line end has come. -/
  | hiding (crossed : Bool)
  /-- After the first half of a line end that is hidden. -/
  | hidingReturn
  /-- After the first half of a line end. -/
  | carriage
  /-- After so many quotes. -/
  | quotes (count : Nat)
deriving DecidableEq, Repr

/-- The character that a one-letter escape stands for. -/
def escaped? (letter : Char) : Option Char :=
  if letter = '"' ∨ letter = '\\' then some letter
  else if letter = 'b' then some '\x08'
  else if letter = 'f' then some '\x0C'
  else if letter = 'n' then some '\n'
  else if letter = 'r' then some '\r'
  else if letter = 't' then some '\t'
  else none

/-- Read one character that is not a closing quote: the characters read so far, the latest first,
and where the reader then stands. -/
def readPlain (style : StringStyle) (found : List Char) (character : Char) :
    Option (List Char × StringMode) :=
  if character = style.quote then if style.lines then some (found, .quotes 1) else none
  else if style.escapes ∧ character = '\\' then some (found, .escape)
  else if style.lines ∧ character = '\n' then some (character :: found, .plain)
  else if style.lines ∧ character = '\r' then some (found, .carriage)
  else if isPlain character then some (character :: found, .plain)
  else none

def readEscape (style : StringStyle) (found : List Char) (character : Char) :
    Option (List Char × StringMode) :=
  if character = 'u' then some (found, .code 4 0)
  else if character = 'U' then some (found, .code 8 0)
  else if style.lines ∧ isGap character then some (found, .hiding false)
  else if style.lines ∧ character = '\n' then some (found, .hiding true)
  else if style.lines ∧ character = '\r' then some (found, .hidingReturn)
  else (escaped? character).map fun meant => (meant :: found, .plain)

/-- Read one digit of a code point, which must be that of a character when it is complete. -/
def readCode (found : List Char) (missing value : Nat) (character : Char) :
    Option (List Char × StringMode) :=
  match Text.Hex.value? character with
  | none => none
  | some digit =>
    let value := value * 16 + digit
    if 1 < missing then some (found, .code (missing - 1) value)
    else if value.isValidChar then some (Char.ofNat value :: found, .plain)
    else none

/-- Read one character after a backslash that hides a line end. -/
def readHidden (style : StringStyle) (found : List Char) (crossed : Bool) (character : Char) :
    Option (List Char × StringMode) :=
  if isGap character then some (found, .hiding crossed)
  else if character = '\n' then some (found, .hiding true)
  else if character = '\r' then some (found, .hidingReturn)
  else if crossed then readPlain style found character
  else none

/-- Read up to the end of a string.

Of five quotes in a row, and no more, three end the string. -/
def readString (style : StringStyle) :
    StringMode → List Char → List Char → Option (String × List Char)
  | .quotes count, found, [] =>
    if 3 ≤ count then
      some (String.ofList (List.replicate (count - 3) style.quote ++ found).reverse, [])
    else none
  | _, _, [] => none
  | mode, found, character :: rest =>
    let next : Option (List Char × StringMode) := match mode with
      | .plain => readPlain style found character
      | .escape => readEscape style found character
      | .code missing value => readCode found missing value character
      | .hiding crossed => readHidden style found crossed character
      | .hidingReturn => if character = '\n' then some (found, .hiding true) else none
      | .carriage => if character = '\n' then some ('\n' :: found, .plain) else none
      | .quotes count =>
        if character = style.quote then some (found, .quotes (count + 1))
        else readPlain style (List.replicate count style.quote ++ found) character
    let ended : Option (List Char × List Char) := match mode with
      | .plain =>
        if character = style.quote ∧ style.lines = false then some (found, rest) else none
      | .quotes count =>
        if character = style.quote then
          if count = 4 then some (style.quote :: style.quote :: found, rest) else none
        else if 3 ≤ count then
          some (List.replicate (count - 3) style.quote ++ found, character :: rest)
        else none
      | _ => none
    match ended, next with
    | some (found, rest), _ => some (String.ofList found.reverse, rest)
    | none, some (found, mode) => readString style mode found rest
    | none, none => none

/-- What comes after a line end right at the start of a string of several lines. -/
def skipFirstNewline (text : List Char) : List Char :=
  (takeNewline text).getD text

def takeShortString : List Char → Option (String × List Char)
  | '"' :: rest => readString ⟨'"', true, false⟩ .plain [] rest
  | '\x27' :: rest => readString ⟨'\x27', false, false⟩ .plain [] rest
  | _ => none

def takeString : List Char → Option (String × List Char)
  | '"' :: '"' :: '"' :: rest =>
    readString ⟨'"', true, true⟩ .plain [] (skipFirstNewline rest)
  | '\x27' :: '\x27' :: '\x27' :: rest =>
    readString ⟨'\x27', false, true⟩ .plain [] (skipFirstNewline rest)
  | text => takeShortString text

/-! ## Keys -/

/-- Whether a character may stand in a key without quotes. -/
def isBare (character : Char) : Bool :=
  character.isAlphanum || character = '_' || character = '-'

def takeName (text : List Char) : Option (String × List Char) :=
  match text with
  | '"' :: _ | '\x27' :: _ => takeShortString text
  | _ =>
    match text.takeWhile isBare with
    | [] => none
    | name => some (String.ofList name, text.dropWhile isBare)

/-- How many parts a key may have, at most; the same bound holds for nested values. -/
def depthLimit : Nat := 79

/-- Take the parts of a key, with dots and blanks between them; so many more are allowed. -/
def takeNames : Nat → List Char → Option (List String × List Char)
  | 0, _ => none
  | more + 1, text => do
    let (name, rest) ← takeName (skipGap text)
    match skipGap rest with
    | '.' :: rest =>
      let (names, rest) ← takeNames more rest
      some (name :: names, rest)
    | rest => some ([name], rest)

/-- Take a key with the blanks around it: all parts but the last, the last one, and the rest. -/
def takeKey (text : List Char) : Option (List String × String × List Char) := do
  let (names, rest) ← takeNames depthLimit text
  let name ← names.getLast?
  some (names.dropLast, name, rest)

/-! ## Numbers -/

/-- Take further digits, of which a single underscore may keep two apart. -/
def takeMoreDigits (isDigit : Char → Bool) : List Char → List Char × List Char
  | '_' :: character :: rest =>
    if isDigit character then
      let (digits, rest) := takeMoreDigits isDigit rest
      (character :: digits, rest)
    else ([], '_' :: character :: rest)
  | character :: rest =>
    if isDigit character then
      let (digits, rest) := takeMoreDigits isDigit rest
      (character :: digits, rest)
    else ([], character :: rest)
  | [] => ([], [])

/-- Take digits, at least one. -/
def takeDigits (isDigit : Char → Bool) : List Char → Option (List Char × List Char)
  | character :: rest =>
    if isDigit character then
      let (digits, rest) := takeMoreDigits isDigit rest
      some (character :: digits, rest)
    else none
  | [] => none

/-- Take decimal digits without a leading zero, or a zero alone. -/
def takeWhole : List Char → Option (List Char × List Char)
  | '0' :: rest => some (['0'], rest)
  | text => takeDigits Char.isDigit text

/-- Take a sign: whether it is a minus sign, and the rest. -/
def takeSign : List Char → Bool × List Char
  | '-' :: rest => (true, rest)
  | '+' :: rest => (false, rest)
  | text => (false, text)

def integer? (value : Int) : Option Value :=
  if -0x8000000000000000 ≤ value ∧ value < 0x8000000000000000 then some (.integer value) else none

def numberOf (base : Nat) (digits : List Char) : Nat :=
  digits.foldl (fun total digit => total * base + (Text.Hex.value? digit).getD 0) 0

def isDigitOf (base : Nat) (character : Char) : Bool :=
  match Text.Hex.value? character with
  | some digit => digit < base
  | none => false

/-- Take the digits of an integer in another base than ten. -/
def takeBased (base : Nat) (text : List Char) : Option (Value × List Char) := do
  let (digits, rest) ← takeDigits (isDigitOf base) text
  let value ← integer? (numberOf base digits)
  some (value, rest)

def takeInteger : List Char → Option (Value × List Char)
  | '0' :: 'x' :: rest => takeBased 16 rest
  | '0' :: 'o' :: rest => takeBased 8 rest
  | '0' :: 'b' :: rest => takeBased 2 rest
  | text => do
    let (negative, rest) := takeSign text
    let (digits, rest) ← takeWhole rest
    let magnitude : Int := numberOf 10 digits
    let value ← integer? (if negative then -magnitude else magnitude)
    some (value, rest)

/-- Take an exponent: its value, zero if there is none, whether there is one, and the rest. -/
def takeExponent : List Char → Option (Int × Bool × List Char)
  | mark :: rest =>
    if mark = 'e' ∨ mark = 'E' then do
      let (negative, rest) := takeSign rest
      let (digits, rest) ← takeDigits Char.isDigit rest
      let magnitude : Int := numberOf 10 digits
      some (if negative then -magnitude else magnitude, true, rest)
    else some (0, false, mark :: rest)
  | [] => some (0, false, [])

/-- Whether `number * 10 ^ exponent` is too large for a double: at least half-way from the greatest
double to the next power of two. -/
def isTooLarge (number : Nat) (exponent : Int) : Bool :=
  let power := exponent + ((Decimal.digitsOf number).length : Int)
  number ≠ 0 && (310 < power || (308 < power &&
    (Nat.pow 2 1024 - Nat.pow 2 970) * Nat.pow 10 (-exponent).toNat ≤
      number * Nat.pow 10 exponent.toNat))

/-- Take a floating-point number that is written in digits.  It has a point or an exponent, and is
not too large; below, there is no bound. -/
def takeDecimal (text : List Char) : Option (Value × List Char) := do
  let (negative, rest) := takeSign text
  let (whole, rest) ← takeWhole rest
  let (fraction, rest) ← match rest with
    | '.' :: rest => takeDigits Char.isDigit rest
    | rest => some ([], rest)
  let (exponent, scaled, rest) ← takeExponent rest
  if fraction = [] ∧ scaled = false then none
  else if !negative && isTooLarge (numberOf 10 (whole ++ fraction)) (exponent - fraction.length) then
    none
  else some (.float, rest)

/-- What comes after a word, if a text starts with it. -/
def takeWord (word : String) (text : List Char) : Option (List Char) :=
  if word.toList.isPrefixOf text then some (text.drop word.length) else none

def takeFloat (text : List Char) : Option (Value × List Char) :=
  (takeDecimal text).or <|
    let (_, rest) := takeSign text
    ((takeWord "inf" rest).or (takeWord "nan" rest)).map fun rest => (.float, rest)

/-! ## Dates and times -/

def takeFixed (width : Nat) (text : List Char) : Option (Nat × List Char) :=
  let digits := text.take width
  if digits.length = width ∧ digits.all Char.isDigit then some (numberOf 10 digits, text.drop width)
  else none

def takeBetween (low high : Nat) (text : List Char) : Option (Nat × List Char) := do
  let (value, rest) ← takeFixed 2 text
  if low ≤ value ∧ value ≤ high then some (value, rest) else none

/-- What comes after a character, if a text starts with it. -/
def takeMark (mark : Char) : List Char → Option (List Char)
  | character :: rest => if character = mark then some rest else none
  | [] => none

def isLeap (year : Nat) : Bool :=
  year % 4 = 0 && (year % 100 ≠ 0 || year % 400 = 0)

def daysOf (year month : Nat) : Nat :=
  if month = 2 then if isLeap year then 29 else 28
  else if month = 4 ∨ month = 6 ∨ month = 9 ∨ month = 11 then 30
  else 31

def takeDate (text : List Char) : Option (List Char) := do
  let (year, rest) ← takeFixed 4 text
  let rest ← takeMark '-' rest
  let (month, rest) ← takeBetween 1 12 rest
  let rest ← takeMark '-' rest
  let (_, rest) ← takeBetween 1 (daysOf year month) rest
  some rest

def takeClock (text : List Char) : Option (List Char) := do
  let (_, rest) ← takeBetween 0 23 text
  let rest ← takeMark ':' rest
  let (_, rest) ← takeBetween 0 59 rest
  some rest

def takeTime (text : List Char) : Option (List Char) := do
  let rest ← takeClock text
  let rest ← takeMark ':' rest
  let (_, rest) ← takeBetween 0 60 rest
  match rest with
  | '.' :: character :: more =>
    if character.isDigit then some (more.dropWhile Char.isDigit) else some rest
  | _ => some rest

/-- What comes after the distance from universal time, if there is any. -/
def skipOffset (text : List Char) : List Char :=
  match text with
  | 'Z' :: rest | 'z' :: rest => rest
  | '+' :: rest | '-' :: rest => (takeClock rest).getD text
  | _ => text

/-- What comes after the time of a date, if there is any. -/
def skipTimeOfDate (text : List Char) : List Char :=
  match text with
  | character :: rest =>
    if character = 'T' ∨ character = 't' ∨ character = ' ' then
      ((takeTime rest).map skipOffset).getD text
    else text
  | [] => text

/-- Take a date, a time, or both. -/
def takeMoment (text : List Char) : Option (Value × List Char) :=
  (((takeDate text).map skipTimeOfDate).or (takeTime text)).map fun rest => (.moment, rest)

/-- Take a number, a date or a time. -/
def takeQuantity (text : List Char) : Option (Value × List Char) :=
  (takeMoment text).or ((takeFloat text).or (takeInteger text))

end HubRelay.Toml
