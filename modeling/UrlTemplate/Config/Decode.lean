import UrlTemplate.Config.Check
import UrlTemplate.Toml.Document
import UrlTemplate.Toml.Number

/-! # Configurations as TOML

A document has the keys `root`, `root-config-lookup-disable-env-var` and
`rules`, none of which it needs. A rule is a table with a `pattern` and perhaps
a `name` and a `url_pattern`, or an array that starts with these three: name,
URL pattern, pattern. Other keys mean nothing, but what they hold must be in
range.
-/

namespace UrlTemplate

open Toml (Table Value)

/-- Why a text is no configuration. -/
inductive DecodeError where
  | notToml (place : String)
  /-- A key holds something else than it should. -/
  | wrongType (key expected : String)
  | missing (key : String)
  | outOfRange
  deriving DecidableEq, Repr

def DecodeError.message : DecodeError → String
  | notToml place => place
  | wrongType key expected => "TOML parse error: " ++ key ++ " must be " ++ expected
  | missing key => "TOML parse error: " ++ key ++ " is missing"
  | outOfRange => "TOML parse error: a number is out of range"

namespace Config

/-- A value that must be a text. -/
def textOf (key : String) : Value → Except DecodeError String
  | .string text => .ok text
  | _ => .error (.wrongType key "a string")

/-- The text of a key, if the table has it. -/
def text? (table : Table) (key : String) : Except DecodeError (Option String) :=
  (table.get? key).mapM (textOf key)

/-- The entries whose keys mean nothing must be in range. -/
def checkRest (known : List String) (table : Table) : Except DecodeError Unit :=
  if Table.inRange (table.filter (·.1 ∉ known)) then .ok () else .error .outOfRange

/-- A rule written as a table. -/
def ruleOfTable (table : Table) : Except DecodeError Rule := do
  let name ← text? table "name"
  let urlPattern ← text? table "url_pattern"
  checkRest ["name", "url_pattern", "pattern"] table
  match ← text? table "pattern" with
  | some pattern => pure { name, urlPattern, pattern }
  | none => throw (.missing "pattern")

/-- A rule written as a table, or as an array of its three texts, whatever
follows them. -/
def ruleOf : Value → Except DecodeError Rule
  | .table entries => ruleOfTable entries
  | .array (name :: urlPattern :: pattern :: _) => do
    pure {
      name := ← textOf "name" name
      urlPattern := ← textOf "url_pattern" urlPattern
      pattern := ← textOf "pattern" pattern }
  | .array _ => .error (.missing "pattern")
  | _ => .error (.wrongType "rule" "a table")

def rulesOf : Option Value → Except DecodeError (List Rule)
  | none => .ok []
  | some (.array items) => items.mapM ruleOf
  | some _ => .error (.wrongType "rules" "an array")

def rootOf : Option Value → Except DecodeError Bool
  | none => .ok false
  | some (.boolean b) => .ok b
  | some _ => .error (.wrongType "root" "a boolean")

/-- The configuration that a document describes. -/
def ofTable (table : Table) : Except DecodeError Config := do
  let root ← rootOf (table.get? "root")
  let disablingVariable ← text? table "root-config-lookup-disable-env-var"
  let rules ← rulesOf (table.get? "rules")
  checkRest ["root", "root-config-lookup-disable-env-var", "rules"] table
  pure { root, disablingVariable, rules }

/-- The configuration that a text describes. -/
def decode (text : String) : Except DecodeError Config :=
  match Toml.read text.toList with
  | .ok table => ofTable table
  | .error fault => .error (.notToml (Toml.faultMessage fault text.toList))

/-- The configuration that a text describes, or what is wrong with it in words. -/
def decodeToml (text : String) : Except String Config := (decode text).mapError (·.message)

/-- Reads and checks the text of a configuration file. How a text describes a
configuration is up to `decode`. -/
def load (decode : String → Except String Config) (path text : String) : Checked Config := do
  match decode text with
  | .error cause => throw (.malformed path cause)
  | .ok config =>
    config.check path
    pure config

end Config

end UrlTemplate
