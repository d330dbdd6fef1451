import UrlTemplate.Text.Hex
import UrlTemplate.Toml.Layout

/-! # TOML strings

Basic strings stand in `"` and know escapes, literal strings stand in `'` and
know none. Either kind may be tripled to spread over lines; then a line end
right after the opening quotes does not count, and up to two quotes may stand
before the closing ones.
-/

namespace UrlTemplate.Toml

/-- Reads a character given by `count` hexadecimal digits. -/
def codePoint (count : Nat) : Reader Char := do
  match charOfHex? (← Reader.take count) with
  | some c => pure c
  | none => Reader.fail

/-- Reads what follows a backslash in a basic string. -/
def escaped : Reader Char := do
  match ← Reader.next with
  | 'b' => pure '\x08'
  | 't' => pure '\t'
  | 'n' => pure '\n'
  | 'f' => pure '\x0c'
  | 'r' => pure '\r'
  | 'e' => pure '\x1b'
  | '"' => pure '"'
  | '\\' => pure '\\'
  | 'x' => codePoint 2
  | 'u' => codePoint 4
  | 'U' => codePoint 8
  | _ => Reader.fail

/-- Reads the rest of a basic string after its opening quote. -/
def basicString : Reader (List Char) :=
  Reader.repeated (fun read => do
    match ← Reader.next with
    | '"' => pure (.inr read)
    | '\\' => pure (.inl (read ++ [← escaped]))
    | c =>
      Reader.require (isPlain c)
      pure (.inl (read ++ [c]))) []

/-- Reads the rest of a literal string after its opening quote. -/
def literalString : Reader (List Char) := do
  let read ← Reader.span fun c => isPlain c && c ≠ '\''
  Reader.expect ['\'']
  pure read

/-- Takes a line end that a backslash protects, with the blanks around it and
the empty lines after it; says whether there was one. -/
def foldedLine : Reader Bool := do
  let here ← get
  blanks
  if ← newline then
    Reader.repeated (fun (_ : Unit) => do
      blanks
      if ← newline then pure (.inl ()) else pure (.inr true)) ()
  else
    set here
    pure false

/-- Reads the rest of a string in tripled quotes, after the opening ones. Line
ends belong to it as they are. What a backslash means is up to `protect`; it
answers `none` when the backslash and what follows it add nothing. -/
def tripled (quote : Char) (protect : Option (Reader (Option Char))) : Reader (List Char) := do
  let _ ← newline
  Reader.repeated (fun read => do
    if ← Reader.accept [quote, quote, quote] then
      -- quotes right before the closing ones belong to the text
      let extra ← Reader.span (· = quote)
      Reader.require (extra.length ≤ 2)
      pure (.inr (read ++ extra))
    else if ← Reader.accept ['\r', '\n'] then pure (.inl (read ++ ['\r', '\n']))
    else if ← Reader.accept ['\n'] then pure (.inl (read ++ ['\n']))
    else
      match ← Reader.next, protect with
      | '\\', some meaning => pure (.inl (read ++ (← meaning).toList))
      | c, _ =>
        Reader.require (isPlain c)
        pure (.inl (read ++ [c]))) []

/-- Reads the rest of a basic string in tripled quotes. -/
def tripledBasic : Reader (List Char) :=
  tripled '"' (some do if ← foldedLine then pure none else some <$> escaped)

/-- Reads the rest of a literal string in tripled quotes. -/
def tripledLiteral : Reader (List Char) := tripled '\'' none

/-- Reads a string of any kind, if one starts here. -/
def string? : Reader (Option (List Char)) := do
  if ← Reader.accept ['"', '"', '"'] then some <$> tripledBasic
  else if ← Reader.accept ['"'] then some <$> basicString
  else if ← Reader.accept ['\'', '\'', '\''] then some <$> tripledLiteral
  else if ← Reader.accept ['\''] then some <$> literalString
  else pure none

/-- A character of a bare key. -/
def isBare (c : Char) : Bool := c.isAlphanum || c = '_' || c = '-'

/-- Reads one part of a key: bare, or a string on one line. -/
def simpleKey : Reader String := do
  if ← Reader.accept ['"'] then String.ofList <$> basicString
  else if ← Reader.accept ['\''] then String.ofList <$> literalString
  else
    let read ← Reader.span isBare
    Reader.require (!read.isEmpty)
    pure (String.ofList read)

/-- Reads a key: its parts, which dots separate. -/
def dottedKey : Reader (List String) :=
  Reader.repeated (fun read => do
    let read := read ++ [← simpleKey]
    blanks
    if ← Reader.accept ['.'] then
      blanks
      pure (.inl read)
    else pure (.inr read)) []

end UrlTemplate.Toml
