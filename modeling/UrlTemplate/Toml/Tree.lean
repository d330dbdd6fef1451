import UrlTemplate.Toml.Value

/-! # Putting TOML tables together

The keys and headers of a document define tables piece by piece. While that
goes on, each table remembers how it came to be: a table may be defined by one
header only, dotted keys may add only to tables made by dotted keys, and values
once written are closed.
-/

namespace UrlTemplate.Toml

/-- How a table came to be. -/
inductive Origin where
  /-- On the way to a table that a header names. -/
  | passed
  /-- By a dotted key. -/
  | dotted
  /-- By a header, or as the document itself. -/
  | header
  deriving DecidableEq, Repr

/-- What a key holds while a document is read. -/
inductive Node where
  /-- A value written behind `=`. -/
  | value (v : Value)
  | table (origin : Origin) (entries : List (String × Node))
  /-- An array of tables, the last of which is open. -/
  | tables (done : List (List (String × Node))) (last : List (String × Node))

/-- The entries of a table under construction. -/
abbrev Entries := List (String × Node)

namespace Entries

/-- Replaces the entry of a key, or adds one at the end. -/
def put (entries : Entries) (key : String) (node : Node) : Entries :=
  if entries.any (·.1 = key) then
    entries.map fun entry => if entry.1 = key then (key, node) else entry
  else entries ++ [(key, node)]

/-- Defines a value under a key that is still free. -/
def add (entries : Entries) (key : String) (v : Value) : Option Entries :=
  if entries.any (·.1 = key) then none else some (entries ++ [(key, .value v)])

/-- Defines a value by the parts of a dotted key, from a table of the given
origin on. Tables missing on the way are made. Only a table made by dotted keys
takes the last part. -/
def extend (origin : Origin) (entries : Entries) : List String → Value → Option Entries
  | [], _ => none
  | [key], v => if origin = .dotted then entries.add key v else none
  | key :: more, v =>
    match entries.lookup key with
    | none => do put entries key (.table .dotted (← extend .dotted [] more v))
    | some (.table .header _) => none
    | some (.table origin inner) => do
      put entries key (.table origin (← extend origin inner more v))
    | some (.tables done last) => do put entries key (.tables done (← extend .header last more v))
    | some (.value _) => none

/-- Defines a value by a key of one or more parts. -/
def define (entries : Entries) (key : List String) (v : Value) : Option Entries :=
  match key with
  | [key] => entries.add key v
  | parts => entries.extend .header parts v

/-- Changes the table that a header path leads to. Tables missing on the way
are made, and an array of tables stands for its last one. -/
def within (entries : Entries) (change : Entries → Option Entries) :
    List String → Option Entries
  | [] => change entries
  | key :: more =>
    match entries.lookup key with
    | none => do put entries key (.table .passed (← within [] change more))
    | some (.table origin inner) => do
      put entries key (.table origin (← within inner change more))
    | some (.tables done last) => do put entries key (.tables done (← within last change more))
    | some (.value _) => none

/-- Opens a table by its header. -/
def openTable (key : String) (entries : Entries) : Option Entries :=
  match entries.lookup key with
  | none => put entries key (.table .header [])
  | some (.table .passed inner) => put entries key (.table .header inner)
  | some _ => none

/-- Opens one more table of an array by its header. -/
def openElement (key : String) (entries : Entries) : Option Entries :=
  match entries.lookup key with
  | none => put entries key (.tables [] [])
  | some (.tables done last) => put entries key (.tables (done ++ [last]) [])
  | some _ => none

end Entries

mutual

/-- The value that a finished node stands for. -/
def Node.toValue : Node → Value
  | .value v => v
  | .table _ entries => .table (Node.toTable entries)
  | .tables done last => .array (Node.toTables done ++ [.table (Node.toTable last)])

def Node.toTable : List (String × Node) → List (String × Value)
  | [] => []
  | (key, node) :: entries => (key, node.toValue) :: Node.toTable entries

def Node.toTables : List (List (String × Node)) → List Value
  | [] => []
  | entries :: more => .table (Node.toTable entries) :: Node.toTables more

end

end UrlTemplate.Toml
