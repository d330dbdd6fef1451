/-! # Rules and configurations

A configuration is a list of rules, each of which says which URLs it is for and
what pattern they get, together with two settings on where to look for further
configurations.
-/

namespace UrlTemplate

structure Rule where
  /-- What messages call the rule. -/
  name : Option String := none
  /-- The regex of the URLs that the rule is for; every URL when missing. -/
  urlPattern : Option String := none
  /-- The pattern that they get. -/
  pattern : String
  deriving DecidableEq, Repr

/-- What messages call the rule at a position, counted from zero. -/
def Rule.label (rule : Rule) (position : Nat) : String :=
  rule.name.getD s!"#{position + 1}"

/-- What a configuration file says. -/
structure Config where
  /-- Directories above are not searched. -/
  root : Bool := false
  /-- The environment variable that turns the user's own file off. -/
  disablingVariable : Option String := none
  /-- The rules, the more important one first. -/
  rules : List Rule := []
  deriving DecidableEq, Repr

end UrlTemplate
