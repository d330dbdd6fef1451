/-! # TOML values

Numbers and dates are kept as written: whoever needs their value reads it.
-/

namespace UrlTemplate.Toml

/-- A TOML value. A table keeps its keys in the order they were first defined. -/
inductive Value where
  | string (text : String)
  | boolean (value : Bool)
  | number (text : String)
  | moment (text : String)
  | array (items : List Value)
  | table (entries : List (String × Value))

/-- The entries of a table by key. -/
abbrev Table := List (String × Value)

def Table.get? (t : Table) (key : String) : Option Value := t.lookup key

end UrlTemplate.Toml
