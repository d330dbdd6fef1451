import UrlTemplate.Toml.Scalar
import UrlTemplate.Toml.Text
import UrlTemplate.Toml.Tree

/-! # TOML documents

`Toml.read` reads a document, version 1.1 of the language. Arrays and inline
tables may spread over lines and end in a comma; they may be nested
`maxNesting` deep.
-/

namespace UrlTemplate.Toml

/-- How deep arrays and inline tables may be nested. -/
def maxNesting : Nat := 80

/-- Takes a definition over, or fails when it clashes with an earlier one. -/
def settle (entries : Option Entries) : Reader Entries :=
  match entries with
  | some entries => pure entries
  | none => Reader.fail

/-- Reads a key and a value and defines them in a table. -/
def keyValue (value : Reader Value) (entries : Entries) : Reader Entries := do
  let key ← dottedKey
  blanks
  Reader.expect ['=']
  blanks
  let v ← value
  settle (entries.define key v)

/-- Reads the rest of an array after its opening bracket. -/
def array (value : Reader Value) : Reader Value :=
  Reader.repeated (fun items => do
    layout
    if ← Reader.accept [']'] then pure (.inr (.array items))
    else
      let items := items ++ [← value]
      layout
      if ← Reader.accept [','] then pure (.inl items)
      else
        Reader.expect [']']
        pure (.inr (.array items))) []

/-- Reads the rest of an inline table after its opening brace. -/
def inlineTable (value : Reader Value) : Reader Value :=
  Reader.repeated (fun (entries : Entries) => do
    layout
    if ← Reader.accept ['\x7d'] then pure (.inr (.table (Node.toTable entries)))
    else
      let entries ← keyValue value entries
      layout
      if ← Reader.accept [','] then pure (.inl entries)
      else
        Reader.expect ['\x7d']
        pure (.inr (.table (Node.toTable entries)))) []

/-- Reads a value with at most `depth` levels of nesting. -/
def value : (depth : Nat) → Reader Value
  | 0 => do
    match ← string? with
    | some text => pure (.string (String.ofList text))
    | none => scalar
  | depth + 1 => do
    match ← string? with
    | some text => pure (.string (String.ofList text))
    | none =>
      if ← Reader.accept ['['] then array (value depth)
      else if ← Reader.accept ['\x7b'] then inlineTable (value depth)
      else scalar

/-- What has been read of a document: its tables, and the path of the one that
is open. -/
structure Progress where
  entries : Entries := []
  path : List String := []

/-- Reads the rest of a header after its opening bracket. -/
def header (entries : Entries) : Reader Progress := do
  let many ← Reader.accept ['[']
  blanks
  let path ← dottedKey
  blanks
  Reader.expect (if many then [']', ']'] else [']'])
  let name := path.getLast?.getD ""
  let change := if many then Entries.openElement name else Entries.openTable name
  let entries ← settle (entries.within change path.dropLast)
  pure { entries, path }

/-- Reads a key and a value into the open table. -/
def openKeyValue (p : Progress) : Reader Progress := do
  let key ← dottedKey
  blanks
  Reader.expect ['=']
  blanks
  let v ← value maxNesting
  let entries ← settle (p.entries.within (·.define key v) p.path)
  pure { p with entries }

/-- Reads the lines of a document. -/
def document : Reader Table :=
  Reader.repeated (fun (p : Progress) => do
    blanks
    match ← Reader.peek? with
    | none => pure (.inr (Node.toTable p.entries))
    | some c =>
      let p ←
        if c = '#' ∨ c = '\n' ∨ c = '\r' then pure p
        else if ← Reader.accept ['['] then header p.entries
        else openKeyValue p
      lineEnd
      pure (.inl p)) {}

/-- The table that a document defines. A byte order mark at its start does not
count. -/
def read (text : List Char) : Except Reader.Fault Table := do
  let body := match text with
    | '\ufeff' :: rest => rest
    | _ => text
  Prod.fst <$> document.run body

end UrlTemplate.Toml
