import UrlTemplate.Scan
import UrlTemplate.SortWithin
import UrlTemplate.Text.Order
import UrlTemplate.Pattern.Token
import UrlTemplate.Pattern.SyntaxError

/-! # Reading a pattern

`Pattern.read` reads a pattern as a list of rules. The path comes first: `/`
separates segments, `*` stands for any segment, `-` alone drops one, other
text must be there. `?` starts the query rule, which is nothing, `*`, `-` or a
list of names in brackets; `#` starts the fragment rule, which is nothing, `*`
or `-`, and text that must be there. A backslash makes the next character
literal. The names of a list are sorted.
-/

namespace UrlTemplate.Pattern

open Scan (View Reply)

/-- The part of a pattern that a scan has reached. -/
inductive Zone where
  /-- The path; `fresh` at its start and after an unprotected `/`. -/
  | path (fresh : Bool)
  | query
  | paramList
  | fragment
  deriving DecidableEq, Repr

abbrev Answer := Except SyntaxError (Reply Zone Token)

/-- The waiting literal text as a rule, when there is some. -/
def closeSegment (literal : List Char) : List Token :=
  if literal.isEmpty then [] else [.path (.matchSegment literal)]

/-- The waiting literal text as a param name, when there is some. -/
def closeName (literal : List Char) : List Token :=
  if literal.isEmpty then [] else [.query (.name literal)]

/-- The waiting literal text as a fragment, when there is some. -/
def closeFragment (literal : List Char) : List Token :=
  if literal.isEmpty then [] else [.fragment (.matchFragment literal)]

/-- Starts the query rule at a `?`, after the tokens `written`. -/
def openQuery (v : View Zone) (written : List Token) : Answer :=
  match v.peek 1 with
  | none => pure { state := .query, emit := written, take := true }
  | some '*' => pure { state := .query, emit := written, take := true, skip := 1 }
  | some '-' =>
    pure { state := .query, emit := written ++ [.query .omitQuery], take := true, skip := 1 }
  | some '[' =>
    if v.peek 2 = some '^' then
      pure { state := .paramList, emit := written ++ [.query .denyList], take := true, skip := 2 }
    else
      pure { state := .paramList, emit := written ++ [.query .allowList], take := true, skip := 1 }
  | some _ => throw { fault := .malformedQuery, index := v.index + 1 }

/-- Starts the fragment rule at a `#`, after the tokens `written`. -/
def openFragment (v : View Zone) (written : List Token) : Reply Zone Token :=
  match v.peek 1 with
  | some '-' =>
    { state := .fragment
      emit := written ++ [.fragment .omitFragment]
      take := true
      skip := 1 }
  | some '*' => { state := .fragment, emit := written, take := true, skip := 1 }
  | _ => { state := .fragment, emit := written, take := true }

/-- A `-` in the path: the whole path when it is the whole of it, else one
segment; it stands alone between separators. -/
def minusStep (v : View Zone) (fresh : Bool) : Answer :=
  let next := v.peek 1
  let last := next = none ∨ next = some '?' ∨ next = some '#'
  if fresh = false ∨ ¬ (last ∨ next = some '/') then
    throw { fault := .minus, index := v.index }
  else if v.index = 0 ∧ last then
    pure { state := .path false, emit := [.path .omitPath] }
  else
    pure { state := .path false, emit := [.path .omitSegment] }

def pathStep (v : View Zone) (fresh : Bool) : Answer :=
  let written := closeSegment v.literal
  match v.symbol with
  | none => pure { state := .path false, emit := written ++ [.finish], take := true }
  | some '\\' => pure { state := .path false, escape := true }
  | some '/' => pure { state := .path true, emit := written ++ [.path .separator], take := true }
  | some '*' => pure { state := .path false, emit := written ++ [.path .glob], take := true }
  | some '-' => minusStep v fresh
  | some '?' => openQuery v written
  | some '#' => pure (openFragment v written)
  | some '[' => throw { fault := .openBracket, index := v.index }
  | some ']' => throw { fault := .closeBracket, index := v.index }
  | some ',' => throw { fault := .comma, index := v.index }
  | some _ => pure { state := .path false, keep := true }

/-- A step after the query rule: only a fragment rule may follow. -/
def queryStep (v : View Zone) : Answer :=
  match v.symbol with
  | none => pure { state := .query, emit := [.finish] }
  | some '#' => pure (openFragment v [])
  | some '[' => throw { fault := .openBracket, index := v.index }
  | some ']' => throw { fault := .closeBracket, index := v.index }
  | some ',' => throw { fault := .comma, index := v.index }
  | some c => throw { fault := .afterQuery c, index := v.index }

/-- A step in a list of param names. Empty names are dropped. -/
def paramListStep (v : View Zone) : Answer :=
  match v.symbol with
  | none => throw { fault := .unclosedParamList, index := v.index }
  | some '\\' => pure { state := .paramList, escape := true }
  | some ',' => pure { state := .paramList, emit := closeName v.literal, take := true }
  | some ']' => pure { state := .query, emit := closeName v.literal, take := true }
  | some '[' => throw { fault := .openBracket, index := v.index }
  | some '^' => throw { fault := .caret, index := v.index }
  | some '-' => throw { fault := .minus, index := v.index }
  | some c =>
    if c = '?' ∨ c = '#' ∨ c = '*' ∨ c = '/' then
      throw { fault := .inParamList c, index := v.index }
    else
      pure { state := .paramList, keep := true }

/-- A step in the fragment, where only a backslash has a meaning. -/
def fragmentStep (v : View Zone) : Reply Zone Token :=
  match v.symbol with
  | none =>
    { state := .fragment, emit := closeFragment v.literal ++ [.finish], take := true }
  | some '\\' => { state := .fragment, escape := true }
  | some _ => { state := .fragment, keep := true }

def readStep (v : View Zone) : Answer :=
  match v.state with
  | .path fresh => pathStep v fresh
  | .query => queryStep v
  | .paramList => paramListStep v
  | .fragment => pure (fragmentStep v)

/-- The tokens of a pattern before its param names are sorted. -/
def scan (pattern : List Char) : Except SyntaxError (List Token) :=
  Scan.run readStep (.path true) pattern

/-- Sorts the param names among the places that hold one. -/
def sortNames (tokens : List Token) : List Token :=
  sortWithin Token.name? (fun text => .query (.name text)) textLe tokens

/-- The tokens of a pattern, or what is wrong with it. -/
def read (pattern : List Char) : Except SyntaxError (List Token) :=
  sortNames <$> scan pattern

end UrlTemplate.Pattern
