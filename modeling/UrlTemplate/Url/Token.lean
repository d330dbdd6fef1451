import UrlTemplate.Text.Escape
import UrlTemplate.Text.Order

/-! # The tokens of a URL

A URL is a list of tokens that carry the text they were read from, so writing
the texts one after the other gives the URL back. `Param` is one entry of a
query string; entries are ordered by name, then value, then the text as
written, all three by code points.
-/

namespace UrlTemplate.Url

inductive PathToken where
  | separator
  | segment (text : List Char)
  deriving DecidableEq, Repr

/-- One entry of a query string. -/
structure Param where
  /-- The entry as it stands in the URL. -/
  raw : List Char
  /-- The text before the first unprotected `=`, or all of it. -/
  name : List Char
  /-- The text after the first unprotected `=`, or nothing. -/
  value : List Char
  deriving DecidableEq, Repr

/-- Reads an entry by cutting it at its first unprotected `=`. -/
def Param.ofRaw (raw : List Char) : Param :=
  match Escape.splitAtBare '=' raw with
  | some (name, value) => { raw, name, value }
  | none => { raw, name := raw, value := [] }

@[simp] theorem Param.raw_ofRaw (raw : List Char) : (Param.ofRaw raw).raw = raw := by
  unfold Param.ofRaw
  split <;> rfl

/-- The order of entries: by name, then value, then raw text. -/
def Param.le (a b : Param) : Bool :=
  decide (a.name < b.name) || (decide (a.name = b.name) &&
    (decide (a.value < b.value) || (decide (a.value = b.value) && textLe a.raw b.raw)))

/-- A structural piece of a URL. -/
inductive Token where
  | scheme (text : List Char)
  | schemeSeparator
  | authority (text : List Char)
  | path (token : PathToken)
  | querySeparator
  | param (entry : Param)
  | paramSeparator
  | fragmentSeparator
  | fragment (text : List Char)
  | finish
  deriving DecidableEq, Repr

namespace Token

/-- The text that a token stands for. -/
def text : Token → List Char
  | scheme text | authority text | path (.segment text) | fragment text => text
  | param entry => entry.raw
  | schemeSeparator => [':', '/', '/']
  | path .separator => ['/']
  | querySeparator => ['?']
  | paramSeparator => ['&']
  | fragmentSeparator => ['#']
  | finish => []

/-- The scheme, its separator and the authority, which every pattern keeps. -/
def isAuthority : Token → Bool
  | scheme _ | schemeSeparator | authority _ => true
  | _ => false

def path? : Token → Option PathToken
  | path token => some token
  | _ => none

def param? : Token → Option Param
  | param entry => some entry
  | _ => none

def fragment? : Token → Option (List Char)
  | fragment text => some text
  | _ => none

end Token

/-- Writes a URL: the texts of its tokens, one after the other. -/
def write (tokens : List Token) : List Char := tokens.flatMap Token.text

@[simp] theorem write_append (a b : List Token) : write (a ++ b) = write a ++ write b := by
  simp [write]

end UrlTemplate.Url
