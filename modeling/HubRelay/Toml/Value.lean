/-!
Contract: the values of a TOML text.

Owns: values, looking an entry of a table up, and tables under construction, which remember how
they came about.

Does not own: the spelling of values.

A table that is under construction was opened by a header of its own, or passed through by a
longer header, or made by a key with dots.  What may still be added to it depends on that.
-/

namespace HubRelay.Toml

/-- A value. -/
inductive Value where
  | text (value : String)
  | integer (value : Int)
  /-- A floating-point number, of which nothing else is kept. -/
  | float
  | boolean (value : Bool)
  /-- A date, a time, or both, of which nothing else is kept. -/
  | moment
  | list (items : List Value)
  | table (entries : List (String × Value))
deriving Repr, Inhabited

def valueOf? (entries : List (String × Value)) (name : String) : Option Value :=
  (entries.find? (·.1 = name)).map (·.2)

/-- How a table came about. -/
inductive TableOrigin where
  /-- It has a header of its own, or is the whole text. -/
  | header
  /-- A header passed through it on the way to another table. -/
  | passage
  /-- A key with dots made it. -/
  | dotted
deriving DecidableEq, Repr

/-- What a name stands for while tables are under construction. -/
inductive Node where
  | value (value : Value)
  | table (origin : TableOrigin) (entries : List (String × Node))
  /-- Tables under one name, all but the last one finished. -/
  | tables (earlier : List (List (String × Node))) (latest : List (String × Node))

/-- The entries of a table under construction. -/
abbrev Entries := List (String × Node)

namespace Entries

def node? (entries : Entries) (name : String) : Option Node :=
  (entries.find? (·.1 = name)).map (·.2)

/-- Let a name that is there stand for something else. -/
def replace (entries : Entries) (name : String) (node : Node) : Entries :=
  entries.map fun entry => if entry.1 = name then (name, node) else entry

def add (entries : Entries) (name : String) (node : Node) : Entries :=
  entries ++ [(name, node)]

/-- Change the table at the end of a path, making those tables on the way that are not there.

A path leads through the last of several tables under one name, but not through a value.  A path
of dots does not lead into a table that has a header. -/
def change (dotted : Bool) (act : TableOrigin → Entries → Option Entries) :
    List String → TableOrigin → Entries → Option Entries
  | [], origin, entries => act origin entries
  | name :: path, _, entries =>
    match entries.node? name with
    | none => do
      let origin := if dotted then TableOrigin.dotted else .passage
      let inner ← change dotted act path origin []
      some (entries.add name (.table origin inner))
    | some (.value _) => none
    | some (.tables earlier latest) => do
      let inner ← change dotted act path .header latest
      some (entries.replace name (.tables earlier inner))
    | some (.table origin inner) =>
      if dotted ∧ origin = .header then none
      else do
        let inner ← change dotted act path origin inner
        some (entries.replace name (.table origin inner))

/-- Give a value to a name at the end of a path of dots.

The name must be new.  Where there are dots, the table before the last one must have been made by
dots; where there are none, it must not. -/
def assign (path : List String) (name : String) (value : Value) (origin : TableOrigin)
    (entries : Entries) : Option Entries :=
  change true (fun origin entries =>
    if origin = .dotted ↔ path = [] then none
    else if (entries.node? name).isSome then none
    else some (entries.add name (.value value))) path origin entries

/-- Open a table under a name, which must be new or have been passed through only. -/
def openTable (name : String) (entries : Entries) : Option Entries :=
  match entries.node? name with
  | none => some (entries.add name (.table .header []))
  | some (.table .passage inner) => some (entries.replace name (.table .header inner))
  | some _ => none

/-- Open one more table under a name, which must be new or stand for several tables. -/
def openNext (name : String) (entries : Entries) : Option Entries :=
  match entries.node? name with
  | none => some (entries.add name (.tables [] []))
  | some (.tables earlier latest) =>
    some (entries.replace name (.tables (earlier ++ [latest]) []))
  | some _ => none

end Entries

mutual

def Node.finish : Node → Value
  | .value value => value
  | .table _ entries => .table (finishEntries entries)
  | .tables earlier latest => .list (finishTables earlier ++ [.table (finishEntries latest)])

def finishEntries : List (String × Node) → List (String × Value)
  | [] => []
  | (name, node) :: entries => (name, node.finish) :: finishEntries entries

def finishTables : List (List (String × Node)) → List Value
  | [] => []
  | entries :: tables => .table (finishEntries entries) :: finishTables tables

end

end HubRelay.Toml
