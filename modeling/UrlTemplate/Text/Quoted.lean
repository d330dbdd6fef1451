import UrlTemplate.Unicode.Printable

/-! # Quoted text

Messages and listings quote text so that it stays on one line and can be read
back: a quote and a backslash get a backslash, newline, carriage return, tab
and NUL are written as a letter or digit behind one, and every other character
that does not show by itself is written as its code point in hexadecimal,
between braces.
-/

namespace UrlTemplate.Quoted

/-- The hexadecimal digits of a number, in lower case, without leading zeros. -/
def hex (n : Nat) : List Char := Nat.toDigits 16 n

/-- A character as it stands between two `quote`s. -/
def escapeChar (quote : Char) (c : Char) : List Char :=
  if c = '\x00' then ['\\', '0']
  else if c = '\t' then ['\\', 't']
  else if c = '\r' then ['\\', 'r']
  else if c = '\n' then ['\\', 'n']
  else if c = '\\' then ['\\', '\\']
  else if c = quote then ['\\', quote]
  else if Unicode.isShown c then [c]
  else ['\\', 'u', '\x7b'] ++ hex c.toNat ++ ['\x7d']

/-- A text in double quotes. -/
def text (t : List Char) : List Char := '"' :: t.flatMap (escapeChar '"') ++ ['"']

/-- A character in single quotes. -/
def char (c : Char) : List Char := '\'' :: escapeChar '\'' c ++ ['\'']

/-- A text that may be missing. -/
def optional : Option (List Char) → List Char
  | some t => "Some(".toList ++ text t ++ ")".toList
  | none => "None".toList

end UrlTemplate.Quoted
