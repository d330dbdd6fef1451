import UrlTemplate.Config.Error
import UrlTemplate.Config.Rule
import UrlTemplate.Transform

/-! # Checking a configuration

Every pattern must be readable, and no two rules may have the same name. The
first rule that breaks one of these is reported; of one rule, its pattern
before its name.
-/

namespace UrlTemplate

/-- Reads the pattern of a rule, which messages call `label`. -/
def Rule.tokens (rule : Rule) (label : String) : Checked (List Pattern.Token) := do
  match ← patternTokens rule.pattern.toList with
  | .ok tokens => pure tokens
  | .error cause => throw (.badPattern label rule.pattern cause)

def Rule.check (rule : Rule) (position : Nat) : Checked Unit := do
  let _ ← rule.tokens (rule.label position)

/-- Checks the rules from a position on, after rules with the names `seen`. -/
def checkRules (path : String) (seen : List String) (position : Nat) : List Rule → Checked Unit
  | [] => pure ()
  | rule :: more => do
    rule.check position
    match rule.name with
    | none => checkRules path seen (position + 1) more
    | some name =>
      if name ∈ seen then throw (.duplicateName name path)
      else checkRules path (name :: seen) (position + 1) more

/-- Checks a configuration that comes from a file. -/
def Config.check (config : Config) (path : String) : Checked Unit :=
  checkRules path [] 0 config.rules

end UrlTemplate
