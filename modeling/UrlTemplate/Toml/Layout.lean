import UrlTemplate.Text.Reader

/-! # Layout of TOML documents

Blanks, comments and line ends, and how a place in a document is reported.
-/

namespace UrlTemplate.Toml

/-- The wording of a fault in `text`, with its line and column. -/
def faultMessage (fault : Reader.Fault) (text : List Char) : String :=
  let before := text.take (text.length - fault.left)
  let line := before.count '\n' + 1
  let column := (before.reverse.takeWhile (· ≠ '\n')).length + 1
  s!"TOML parse error at line {line}, column {column}"

/-- A character that a comment or a string may hold on one line. -/
def isPlain (c : Char) : Bool := c = '\t' || (0x20 ≤ c.toNat && c.toNat ≠ 0x7f)

/-- Takes spaces and tabs. -/
def blanks : Reader Unit := do
  let _ ← Reader.span fun c => c = ' ' || c = '\t'

/-- Takes a line end, if there is one here. -/
def newline : Reader Bool := do
  if ← Reader.accept ['\n'] then pure true else Reader.accept ['\r', '\n']

/-- Takes a comment, if there is one here. -/
def comment : Reader Unit := do
  if ← Reader.accept ['#'] then
    let _ ← Reader.span isPlain

/-- Takes what may follow an expression: blanks, a comment, the end of the line
or of the text. -/
def lineEnd : Reader Unit := do
  blanks
  comment
  unless ← newline do
    Reader.require (← Reader.peek?).isNone

/-- Takes blanks, comments and line ends, wherever a value may spread over lines. -/
def layout : Reader Unit :=
  Reader.repeated (fun (_ : Unit) => do
    blanks
    comment
    if ← newline then pure (.inl ()) else pure (.inr ())) ()

end UrlTemplate.Toml
