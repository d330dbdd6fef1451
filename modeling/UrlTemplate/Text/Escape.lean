/-! # Backslash escapes

A backslash protects the character after it. `unescape` drops the protecting
backslashes, and `splitAtBare` cuts a text at the first place where a given
character stands unprotected. Both read a text two characters at a time
whenever the first one is a backslash, so they agree on what is protected.
-/

namespace UrlTemplate.Escape

/-- Drops every protecting backslash and keeps what it protects. A backslash
at the very end protects nothing and is dropped too. -/
def unescape : List Char → List Char
  | [] => []
  | '\\' :: [] => []
  | '\\' :: c :: rest => c :: unescape rest
  | c :: rest => c :: unescape rest

/-- The texts before and after the first unprotected `d`, with their
backslashes; `none` when `d` never stands unprotected. -/
def splitAtBare (d : Char) : List Char → Option (List Char × List Char)
  | [] => none
  | '\\' :: [] => none
  | '\\' :: c :: rest =>
    (splitAtBare d rest).map fun (before, after) => ('\\' :: c :: before, after)
  | c :: rest =>
    if c = d then some ([], rest)
    else (splitAtBare d rest).map fun (before, after) => (c :: before, after)

end UrlTemplate.Escape
