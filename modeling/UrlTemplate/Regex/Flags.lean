import UrlTemplate.Text.Reader
import UrlTemplate.Unicode.Property

/-! # Flags of a regex

Flags change what the rest of a group means. A parser of regexes is a reader
that knows the flags of the place it is at, and the names of the groups before
it.
-/

namespace UrlTemplate.Regex

/-- How an expression is to be understood. -/
structure Flags where
  /-- Case makes no difference. -/
  ignoreCase : Bool := false
  /-- `^` and `$` hold at every line. -/
  multiLine : Bool := false
  /-- `.` means line ends too. -/
  dotAll : Bool := false
  /-- Lines may end in a carriage return. -/
  crlf : Bool := false
  /-- Classes mean all characters, not only those of ASCII. -/
  unicode : Bool := true
  /-- Blanks and comments mean nothing. -/
  layout : Bool := false
  deriving DecidableEq, Repr

/-- The letters of the flags. The flag `U` exchanges the two kinds of
repetition, which makes no difference here. -/
def flagLetters : List Char := ['i', 'm', 's', 'U', 'u', 'R', 'x']

def Flags.set (flags : Flags) (letter : Char) (value : Bool) : Flags :=
  match letter with
  | 'i' => { flags with ignoreCase := value }
  | 'm' => { flags with multiLine := value }
  | 's' => { flags with dotAll := value }
  | 'R' => { flags with crlf := value }
  | 'u' => { flags with unicode := value }
  | 'x' => { flags with layout := value }
  | _ => flags

/-- Turns the flags of letters on, and off those that stand behind a hyphen. -/
def Flags.change (flags : Flags) (letters : List Char) : Flags :=
  let on := letters.takeWhile (· ≠ '-')
  let off := letters.drop (on.length + 1)
  off.foldl (·.set · false) (on.foldl (·.set · true) flags)

/-- What a parser knows of the place it is at. -/
structure Context where
  flags : Flags := {}
  /-- The names of the groups so far. -/
  names : List String := []

/-- Reads a regex from the front. -/
abbrev Parser := StateT Context Reader

namespace Parser

variable {α σ ρ : Type}

def flags : Parser Flags := Context.flags <$> get

def setFlags (flags : Flags) : Parser Unit := modify fun c => { c with flags }

/-- The text from this place on. -/
def ahead : Parser (List Char) := (get : Reader (List Char))

/-- Goes to the place where this text lies ahead. -/
def goTo (text : List Char) : Parser Unit := (set text : Reader Unit)

/-- Runs a step until it gives a result. A step that gives none takes at least
one character. -/
def repeated (step : σ → Parser (σ ⊕ ρ)) (s : σ) : Parser ρ := do
  Reader.repeatUpTo Reader.fail step ((← ahead).length + 1) s

end Parser

/-- A text from its first character on that is neither a blank nor in a
comment. -/
def withoutLayout (inComment : Bool) : List Char → List Char
  | [] => []
  | c :: rest =>
    if inComment then withoutLayout (c ≠ '\n') rest
    else if Unicode.isBlank c then withoutLayout false rest
    else if c = '#' then withoutLayout true rest
    else c :: rest

/-- Takes blanks and comments, where they mean nothing. -/
def skipLayout : Parser Unit := do
  if (← Parser.flags).layout then Parser.goTo (withoutLayout false (← Parser.ahead))

/-- Takes the letters of flags, up to the character behind them. -/
def flagChange : Parser (List Char) := do
  let letters ← Reader.span fun c => c ≠ ':' && c ≠ ')'
  Reader.require (letters.all fun c => c = '-' || flagLetters.contains c)
  Reader.require (letters.eraseDups.length = letters.length)
  Reader.require (letters.getLast? ≠ some '-')
  pure letters

end UrlTemplate.Regex
