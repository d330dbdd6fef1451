/-! # The tokens of a pattern

A pattern says what to keep of a URL's path, query and fragment. Its rules
come in this order: path rules, query rules, fragment rules, each kind being
a type of its own, and an end marker closes the list.
-/

namespace UrlTemplate.Pattern

inductive PathRule where
  /-- The path has a separator here. -/
  | separator
  /-- Any segment, or all that is left when this is the last path rule. -/
  | glob
  | omitPath
  | omitSegment
  | matchSegment (text : List Char)
  deriving DecidableEq, Repr

/-- Rules that stand for one segment of the path. -/
def PathRule.isSegment : PathRule → Bool
  | glob | omitSegment | matchSegment _ => true
  | separator | omitPath => false

inductive QueryRule where
  /-- The names that follow are kept. -/
  | allowList
  /-- The names that follow are dropped. -/
  | denyList
  | name (text : List Char)
  | omitQuery
  deriving DecidableEq, Repr

inductive FragmentRule where
  | matchFragment (text : List Char)
  | omitFragment
  deriving DecidableEq, Repr

inductive Token where
  | path (rule : PathRule)
  | query (rule : QueryRule)
  | fragment (rule : FragmentRule)
  | finish
  deriving DecidableEq, Repr

namespace Token

def isPath : Token → Bool
  | path _ => true
  | _ => false

def isQuery : Token → Bool
  | query _ => true
  | _ => false

def isFragment : Token → Bool
  | fragment _ => true
  | _ => false

def path? : Token → Option PathRule
  | path rule => some rule
  | _ => none

def name? : Token → Option (List Char)
  | query (.name text) => some text
  | _ => none

end Token

/-- The tokens of the empty pattern, which only normalizes. -/
def empty : List Token := [.finish]

end UrlTemplate.Pattern
