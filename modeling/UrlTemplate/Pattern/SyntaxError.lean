import UrlTemplate.Text.Quoted

/-! # What can be wrong with a pattern

A pattern that cannot be read has one fault, at a position counted in
characters.
-/

namespace UrlTemplate.Pattern

/-- Why a pattern cannot be read. -/
inductive Fault where
  /-- A `[` that does not follow `?`. -/
  | openBracket
  /-- A `,` outside a list of param names. -/
  | comma
  /-- A `]` outside a list of param names. -/
  | closeBracket
  /-- A `^` inside a list of param names. -/
  | caret
  /-- A `-` that does not stand alone. -/
  | minus
  /-- Something after `?` that starts no query rule. -/
  | malformedQuery
  /-- A character after the end of the query rule. -/
  | afterQuery (c : Char)
  /-- A character with a meaning elsewhere, inside a list of param names. -/
  | inParamList (c : Char)
  /-- A list of param names that is not closed. -/
  | unclosedParamList
  deriving DecidableEq, Repr

/-- A fault and its place. -/
structure SyntaxError where
  fault : Fault
  /-- How many characters of the pattern stand before the fault. -/
  index : Nat
  deriving DecidableEq, Repr

/-- The wording of a fault. -/
def SyntaxError.message (e : SyntaxError) : String :=
  let index := e.index
  match e.fault with
  | .openBracket => s!"'[' must follow '?' like ?[param1,param2,...] (at {index})"
  | .comma => s!"',' can only appear in a param list like ?[param,param,...] (at {index})"
  | .closeBracket => s!"']' must follow '[' like ?[param1,param2,...] (at {index})"
  | .caret => s!"'^' must follow '[' like ?[^param1,param2,...] (at {index})"
  | .minus =>
    s!"'-' can only appear at beginning or after a '/' or '?' or '#' and must stand alone (at {index}), try escaping it like \\-"
  | .malformedQuery =>
    s!"expect '[' + comma separated list of param names + ']' like ?[param1,param2] or ?[^param3] (at {index})"
  | .afterQuery c =>
    "unexpected " ++ String.ofList (Quoted.char c) ++ s!" after the query rule (at {index})"
  | .inParamList c =>
    "unexpected " ++ String.ofList (Quoted.char c) ++ s!" in param list (at {index}), try escaping it"
  | .unclosedParamList =>
    s!"expect ']' to end a comma separated list of param names like ?[param1] (at {index})"

end UrlTemplate.Pattern
