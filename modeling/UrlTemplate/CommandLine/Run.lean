import UrlTemplate.CommandLine.Arguments
import UrlTemplate.CommandLine.Session
import UrlTemplate.Config.Selection
import UrlTemplate.Config.Template
import UrlTemplate.Describe
import UrlTemplate.Unicode.Blank

/-! # Runs of the program

`run` says what a run does and how it ends, given its arguments and what it can
see of the world.
-/

namespace UrlTemplate.CommandLine

/-- What a run can see. -/
structure World extends Surroundings where
  directory : Path
  input : ByteArray

/-- The languages in which a run is told what to do: those of its arguments and of configuration
files. -/
structure Languages where
  /-- The configuration that a text describes, or what is wrong with it. -/
  config : String → Except String Config
  /-- The URLs that a regex describes, or what is wrong with it. -/
  regex : String → Except String UrlTest
  /-- What arguments ask for, or why they ask for nothing. -/
  arguments : List String → Except Stop Invocation := readArguments

/-- A text without blanks at its ends. -/
def trim (text : List Char) : List Char :=
  ((text.dropWhile Unicode.isBlank).reverse.dropWhile Unicode.isBlank).reverse

/-- The lines of a text that hold more than blanks, without blanks at their
ends. -/
def filledLines (text : String) : List String :=
  (((text.splitOn "\n").map fun line => trim line.toList).filter (· ≠ [])).map String.ofList

/-- The URLs to answer: those given or, without any, those of the input. -/
def urlsToAnswer (world : World) (given : List String) : Session (List String) := do
  if given.isEmpty then
    match String.fromUTF8? world.input with
    | some text => pure (filledLines text)
    | none => throw {
        message := "Failed to read URLs from stdin"
        causes := ["stream did not contain valid UTF-8"] }
  else pure given

/-! ## Answering URLs -/

/-- Where the pattern for a URL comes from. -/
inductive Source where
  | fixed (pattern : String)
  /-- The first rule that is for the URL; the empty pattern without one. -/
  | rules (compiled : List CompiledRule)

def Source.rule? (source : Source) (url : String) : Option CompiledRule :=
  match source with
  | .fixed _ => none
  | .rules compiled => selectRule compiled url.toList

/-- The pattern for URLs that get this rule. -/
def Source.pattern (source : Source) (rule : Option CompiledRule) : String :=
  match source with
  | .fixed pattern => pattern
  | .rules _ => (rule.map (·.rule.pattern)).getD ""

/-- The given pattern or, without one, the configured rules. -/
def loadSource (languages : Languages) (world : World) (pattern : Option String) :
    Session Source := do
  match pattern with
  | some pattern => pure (.fixed pattern)
  | none =>
    let configs ← Session.orFail "Failed to load configuration"
      (discover languages.config world.toSurroundings world.directory)
    let rules ← Session.orFail "Failed to compile rules"
      (compileRules languages.regex (mergeRules configs))
    Session.debug s!"{rules.length} configured rules"
    pure (.rules rules)

/-- Prints the tokens of a URL, and those of the pattern unless it is empty. -/
def printTokens (url pattern : String) : Session Unit := do
  Session.printLine ("url: " ++ url)
  let tokens ← Session.logged (urlTokens url.toList)
  Session.act (.print (String.ofList (Url.describe tokens)))
  if pattern ≠ "" then
    match ← Session.logged (patternTokens pattern.toList) with
    | .error e => throw {
        message := "Invalid pattern " ++ String.ofList (Quoted.text pattern.toList)
        causes := [e.message] }
    | .ok rules =>
      Session.printLine ("pattern: " ++ pattern)
      Session.act (.print (String.ofList (Pattern.describe rules)))

/-- Prints what a pattern makes of a URL, or complains that it does not fit;
says whether it did. -/
def printStrictly (url pattern : String) : Session Bool := do
  match ← Session.logged (tryTransform url.toList pattern.toList) with
  | .ok result =>
    Session.printLine (String.ofList result)
    pure true
  | .error e =>
    Session.complainLine ("error: " ++ url ++ ": " ++ e.message)
    pure false

/-- Prints what a pattern makes of a URL, as well as it can. A rule brings its
pattern already read. -/
def printPlainly (url pattern : String) (rule : Option CompiledRule) : Session Unit := do
  let result ← Session.logged <| match rule with
    | some rule => transformWith url.toList rule.tokens
    | none => transform url.toList pattern.toList
  Session.printLine (String.ofList result)

/-- Answers a URL; says whether all went well. -/
def answerUrl (mode : Mode) (source : Source) (url : String) : Session Bool := do
  let rule := source.rule? url
  if let some rule := rule then
    Session.debug (url ++ ": using rule " ++ String.ofList (Quoted.text rule.title.toList) ++
      " from " ++ rule.source)
  let pattern := source.pattern rule
  match mode with
  | .plain => do printPlainly url pattern rule; pure true
  | .strict => printStrictly url pattern
  | .tokens => do printTokens url pattern; pure true

/-- Answers URLs one by one; says whether all went well. -/
def answerUrls (mode : Mode) (source : Source) (urls : List String) : Session Bool := do
  let answers ← urls.mapM (answerUrl mode source)
  pure (answers.all id)

/-! ## Working on configuration files -/

/-- Creates a configuration file in the working directory. -/
def createConfig (world : World) (overwrite : Bool) : Session Unit := do
  let path := world.directory.entry configFileName
  let there := world.tree path
  if there.isPresent && !overwrite then
    throw { message := configFileName ++ " already exists. Use --force to overwrite." }
  match there with
  | .directory => throw {
      message := "Failed to write " ++ configFileName
      causes := ["Is a directory (os error 21)"] }
  | _ =>
    Session.act (.create path Config.template)
    Session.printLine ("Created " ++ configFileName)

def ruleLines (rule : Rule) (position : Nat) : List String :=
  ["  Rule " ++ rule.label position ++ ":"] ++
    (rule.urlPattern.map ("    url_pattern: " ++ ·)).toList ++
    ["    pattern: " ++ rule.pattern, ""]

def configLines (loaded : LoadedConfig) : List String :=
  ["# Source: " ++ loaded.path.text, s!"# root: {loaded.config.root}"] ++
    (loaded.config.disablingVariable.map
      ("# root-config-lookup-disable-env-var: " ++ ·)).toList ++
    [s!"# rules: {loaded.config.rules.length}", ""] ++
    loaded.config.rules.zipIdx.flatMap fun (rule, position) => ruleLines rule position

/-- The lines that show where the user's own file is looked for. -/
def userLines (world : World) : List String :=
  match world.userPath? with
  | none => []
  | some path =>
    ["User config path: " ++ path.text,
      if (world.tree path).isPresent then "  (exists)" else "  (not found)"]

/-- Prints the configurations that hold in the working directory. -/
def showConfigs (languages : Languages) (world : World) : Session Unit := do
  let configs ← Session.orFail "Failed to discover config files"
    (discover languages.config world.toSurroundings world.directory)
  if configs.isEmpty then Session.printLine "No configuration files found."
  else
    let lines := ["Configuration files (in cascade order):", ""] ++
      configs.flatMap configLines ++ userLines world
    lines.forM Session.printLine

/-- Complains about a configuration, with what lies behind the error. -/
def complainConfig (e : ConfigError) (cause : Option String) : Session Unit := do
  Session.complainLine ("Configuration error: " ++ e.message)
  if let some cause := cause then Session.complainLine ("  caused by: " ++ cause)

/-- Checks the configurations that hold in the working directory, and their
rules; says whether all is well. What lies behind a bad regex is left out. -/
def checkConfigs (languages : Languages) (world : World) : Session Bool := do
  match ← Session.logged (discover languages.config world.toSurroundings world.directory).run with
  | .error e =>
    complainConfig e e.cause?
    pure false
  | .ok configs =>
    match ← Session.logged (compileRules languages.regex (mergeRules configs)).run with
    | .error e =>
      complainConfig e none
      pure false
    | .ok _ =>
      if configs.isEmpty then Session.printLine "No configuration files found."
      else
        Session.printLine "All configuration files are valid:"
        configs.forM fun loaded =>
          Session.printLine s!"  {loaded.path.text} ({loaded.config.rules.length} rules)"
      pure true

/-! ## The whole run -/

/-- Does what is asked for; says whether all went well. -/
def Request.perform (languages : Languages) (world : World) : Request → Session Bool
  | create overwrite => do
    createConfig world overwrite
    pure true
  | showConfigs => do
    CommandLine.showConfigs languages world
    pure true
  | checkConfigs => CommandLine.checkConfigs languages world
  | answer mode pattern urls => do
    let urls ← urlsToAnswer world urls
    let source ← loadSource languages world pattern
    answerUrls mode source urls

/-- What a run does, and the exit code that it ends with. -/
structure Outcome where
  code : UInt32
  events : List Event
  deriving DecidableEq, Repr

/-- The level of records that are shown at a verbosity. -/
def isShownAt (verbosity : Nat) (level : Level) : Bool :=
  match level with
  | .debug => 1 ≤ verbosity
  | .trace => 2 ≤ verbosity

/-- The event takes place at a verbosity. -/
def Event.takesPlace (verbosity : Nat) : Event → Bool
  | record r => isShownAt verbosity r.level
  | _ => true

/-- What a session does at a verbosity, and how it ends. -/
def Session.outcome (verbosity : Nat) (session : Session Bool) : Outcome :=
  let run := session.run
  let events := run.log.filter (·.takesPlace verbosity)
  match run.value with
  | .ok good => { code := if good then 0 else 1, events }
  | .error failure => { code := 1, events := events ++ [.complain failure.text] }

def versionText : String := "urlpat 0.1.0\n"

def usageText : String := String.join ([
  "Usage: urlpat [OPTIONS] [URLS]...",
  "       urlpat [OPTIONS] config <show|validate>",
  "",
  "Options:",
  "  -p, --pattern <PATTERN>  Use this pattern instead of the configured rules",
  "      --strict             Report malformed patterns and URLs that do not fit",
  "      --tokens             Print tokens instead of results",
  "      --init               Create a template .urlpat.toml",
  "      --force              Overwrite an existing .urlpat.toml with --init",
  "  -v, --verbose...         Log more",
  "  -h, --help               Print help",
  "  -V, --version            Print version"].map (· ++ "\n"))

/-- What a run with these arguments does. -/
def run (languages : Languages) (world : World) (arguments : List String) : Outcome :=
  match languages.arguments arguments with
  | .ok invocation =>
    (invocation.request.perform languages world).outcome invocation.verbosity
  | .error .version => { code := 0, events := [.print versionText] }
  | .error .help => { code := 0, events := [.print usageText] }
  | .error (.usage argument) =>
    { code := 2
      events := [.complain ("error: unexpected argument '" ++ argument ++ "'\n\n" ++ usageText)] }

/-- What a run prints to the standard output. -/
def Outcome.output (outcome : Outcome) : String :=
  String.join (outcome.events.filterMap fun
    | .print text => some text
    | _ => none)

/-- What a run prints to the standard error output. -/
def Outcome.complaints (outcome : Outcome) : String :=
  String.join (outcome.events.filterMap fun
    | .complain text => some text
    | .record r => some (r.line ++ "\n")
    | _ => none)

end UrlTemplate.CommandLine
