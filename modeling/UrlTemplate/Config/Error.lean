import UrlTemplate.Log
import UrlTemplate.Pattern.SyntaxError

/-! # What can be wrong with configuration files
-/

namespace UrlTemplate

/-- Why configuration files cannot be used. -/
inductive ConfigError where
  /-- The file cannot be read as text. -/
  | unreadable (path cause : String)
  | malformed (path cause : String)
  | badRegex (regex cause : String)
  | badPattern (rule pattern : String) (cause : Pattern.SyntaxError)
  | duplicateName (name path : String)
  deriving DecidableEq, Repr

namespace ConfigError

/-- The wording of an error, without its cause. -/
def message : ConfigError → String
  | unreadable path _ => "Failed to read config file: " ++ path
  | malformed path _ => "Failed to parse config file: " ++ path
  | badRegex regex _ => "Invalid regex in url_pattern: " ++ regex
  | badPattern rule pattern _ =>
    "Invalid pattern " ++ String.ofList (Quoted.text pattern.toList) ++ " in rule " ++ rule
  | duplicateName name path =>
    "Duplicate rule name " ++ String.ofList (Quoted.text name.toList) ++ " in " ++ path

/-- The wording of what lies behind an error. -/
def cause? : ConfigError → Option String
  | unreadable _ cause | malformed _ cause | badRegex _ cause => some cause
  | badPattern _ _ cause => some cause.message
  | duplicateName _ _ => none

end ConfigError

/-- A computation that keeps a log and may fail on a configuration. -/
abbrev Checked := ExceptT ConfigError Logged

end UrlTemplate
