import UrlTemplate.Config.Discovery

/-! # Selecting the rule for a URL

The rules of all configurations form one list, in which the first rule that is
for a URL wins. How a regex describes a set of URLs is up to `regex`.
-/

namespace UrlTemplate

/-- A rule and the path of the file that it comes from. -/
structure SourcedRule where
  rule : Rule
  source : String
  deriving DecidableEq, Repr

/-- The rules of a list of configurations, in order. -/
def mergeRules (configs : List LoadedConfig) : List SourcedRule :=
  configs.flatMap fun loaded =>
    loaded.config.rules.map fun rule => { rule, source := loaded.path.text }

/-- A set of URLs. -/
abbrev UrlTest := List Char → Bool

/-- A rule that is ready for use. -/
structure CompiledRule where
  rule : Rule
  /-- The URLs that it is for; all when missing. -/
  test : Option UrlTest
  /-- The pattern that they get. -/
  tokens : List Pattern.Token
  source : String

def CompiledRule.applies (rule : CompiledRule) (url : List Char) : Bool :=
  rule.test.all fun test => test url

/-- What messages call a rule in use: its name or, without one, its pattern. -/
def CompiledRule.title (rule : CompiledRule) : String := rule.rule.name.getD rule.rule.pattern

/-- Compiles the regex of a rule, if it has one. -/
def Rule.compileTest (regex : String → Except String UrlTest) (rule : Rule) :
    Checked (Option UrlTest) := do
  match rule.urlPattern with
  | none => pure none
  | some text =>
    match regex text with
    | .ok test => pure (some test)
    | .error cause => throw (.badRegex text cause)

/-- Makes a rule ready: its regex before its pattern. A rule without a name is
called by its file. -/
def SourcedRule.compile (regex : String → Except String UrlTest) (r : SourcedRule) :
    Checked CompiledRule := do
  let test ← r.rule.compileTest regex
  let tokens ← r.rule.tokens (r.rule.name.getD r.source)
  pure { rule := r.rule, test, tokens, source := r.source }

/-- Makes rules ready, up to the first that cannot be. -/
def compileRules (regex : String → Except String UrlTest) (rules : List SourcedRule) :
    Checked (List CompiledRule) :=
  rules.mapM (·.compile regex)

/-- The first rule that is for a URL. -/
def selectRule (rules : List CompiledRule) (url : List Char) : Option CompiledRule :=
  rules.find? (·.applies url)

end UrlTemplate
