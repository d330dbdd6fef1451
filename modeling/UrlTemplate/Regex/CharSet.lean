import UrlTemplate.Text.Hex
import UrlTemplate.Unicode.CaseFold
import UrlTemplate.Unicode.Property

/-! # Sets of characters

A set is given by its membership test.
-/

namespace UrlTemplate.Regex

/-- A set of characters. -/
abbrev CharSet := Char → Bool

namespace CharSet

def none : CharSet := fun _ => false

def single (c : Char) : CharSet := fun d => d == c

/-- The characters between two, these included. -/
def range (first last : Char) : CharSet := fun c => first ≤ c && c ≤ last

def union (s t : CharSet) : CharSet := fun c => s c || t c

def inter (s t : CharSet) : CharSet := fun c => s c && t c

def diff (s t : CharSet) : CharSet := fun c => s c && !t c

/-- The characters of exactly one of the sets. -/
def symmDiff (s t : CharSet) : CharSet := fun c => s c != t c

def compl (s : CharSet) : CharSet := fun c => !s c

/-- The characters that differ only in case from one in the set. -/
def fold (s : CharSet) : CharSet := fun c => (Unicode.caseVariants c).any s

/-- As `fold`, but only ASCII letters have case. -/
def foldAscii (s : CharSet) : CharSet := fun c => s c || s c.toLower || s c.toUpper

def digit (unicode : Bool) : CharSet :=
  if unicode then Unicode.Category.decimalNumber.has else Char.isDigit

def space (unicode : Bool) : CharSet :=
  if unicode then Unicode.isBlank else fun c => c = ' ' || ('\t' ≤ c && c ≤ '\r')

def word (unicode : Bool) : CharSet :=
  if unicode then Unicode.isWord else fun c => c.isAlphanum || c = '_'

/-- The ASCII set of a given name. -/
def asciiNamed? (name : String) : Option CharSet :=
  match name with
  | "alnum" => some Char.isAlphanum
  | "alpha" => some Char.isAlpha
  | "ascii" => some fun c => c.toNat ≤ 0x7f
  | "blank" => some fun c => c = ' ' || c = '\t'
  | "cntrl" => some fun c => c.toNat ≤ 0x1f || c.toNat = 0x7f
  | "digit" => some Char.isDigit
  | "graph" => some fun c => '!' ≤ c && c ≤ '~'
  | "lower" => some Char.isLower
  | "print" => some fun c => ' ' ≤ c && c ≤ '~'
  | "punct" => some fun c => '!' ≤ c && c ≤ '~' && !c.isAlphanum
  | "space" => some (space false)
  | "upper" => some Char.isUpper
  | "word" => some (word false)
  | "xdigit" => some isHexDigit
  | _ => Option.none

end CharSet

end UrlTemplate.Regex
