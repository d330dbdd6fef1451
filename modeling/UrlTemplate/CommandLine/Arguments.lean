/-! # The arguments of a run

The command line has two forms. `config show` and `config validate` work on the
configuration files; they must stand at the very start. Otherwise options and
URLs may be mixed in any order, `--` ends the options, and every option but
`--verbose` may be given once.

Arguments are read from left to right, and the first of them that settles the
run ends the reading: a usage error, `--version` or `--help`.
-/

namespace UrlTemplate.CommandLine

/-- How URLs are answered. -/
inductive Mode where
  /-- By what the pattern makes of them, as well as it can. -/
  | plain
  /-- By what the pattern makes of them, if they fit it. -/
  | strict
  /-- By their tokens and those of the pattern. -/
  | tokens
  deriving DecidableEq, Repr

/-- What a run is asked to do. -/
inductive Request where
  /-- Write a configuration file to start from. -/
  | create (overwrite : Bool)
  | showConfigs
  | checkConfigs
  /-- Answer URLs; read them from the standard input when there are none. -/
  | answer (mode : Mode) (pattern : Option String) (urls : List String)
  deriving DecidableEq, Repr

/-- What a run is asked to do, and how much it tells about it. -/
structure Invocation where
  request : Request
  verbosity : Nat := 0
  deriving DecidableEq, Repr

/-- Why the reading of arguments ends early. -/
inductive Stop where
  | usage (argument : String)
  | version
  | help
  deriving DecidableEq, Repr

/-- The options and URLs given so far. -/
structure Given where
  pattern : Option String := none
  strict : Bool := false
  tokens : Bool := false
  create : Bool := false
  overwrite : Bool := false
  verbosity : Nat := 0
  urls : List String := []
  deriving DecidableEq, Repr

namespace Given

def addPattern (g : Given) (pattern : String) : Except Stop Given :=
  if g.pattern.isSome then .error (.usage "--pattern") else .ok { g with pattern }

/-- Adds the option of this name, which takes no value. -/
def addFlag (g : Given) (name : String) : Except Stop Given :=
  match name with
  | "verbose" => .ok { g with verbosity := g.verbosity + 1 }
  | "strict" => if g.strict then .error (.usage name) else .ok { g with strict := true }
  | "tokens" => if g.tokens then .error (.usage name) else .ok { g with tokens := true }
  | "init" => if g.create then .error (.usage name) else .ok { g with create := true }
  | "force" => if g.overwrite then .error (.usage name) else .ok { g with overwrite := true }
  | "version" => .error .version
  | "help" => .error .help
  | _ => .error (.usage name)

def addUrl (g : Given) (url : String) : Given := { g with urls := g.urls ++ [url] }

/-- What is asked for once all arguments are read. -/
def request (g : Given) : Except Stop Request :=
  if g.overwrite && !g.create then .error (.usage "--force")
  else if g.create then .ok (.create g.overwrite)
  else
    let mode := if g.tokens then .tokens else if g.strict then .strict else .plain
    .ok (.answer mode g.pattern g.urls)

end Given

/-- The name of an option that a letter stands for. -/
def longName (letter : Char) : String :=
  if letter = 'v' then "verbose"
  else if letter = 'V' then "version"
  else if letter = 'h' then "help"
  else ""

/-- What an argument is, by its look. -/
inductive Shape where
  | url
  | terminator
  /-- An option by its name, and the value attached to it. -/
  | long (name : String) (value : Option String)
  /-- Options by their letters. -/
  | short (letters : List Char)
  deriving DecidableEq, Repr

/-- Tells options from URLs. A single hyphen is a URL. -/
def Shape.of (argument : String) : Shape :=
  match argument.toList with
  | ['-', '-'] => .terminator
  | '-' :: '-' :: text =>
    match text.span (· ≠ '=') with
    | (name, _ :: value) => .long (String.ofList name) (some (String.ofList value))
    | (name, []) => .long (String.ofList name) none
  | '-' :: c :: letters => .short (c :: letters)
  | _ => .url

/-- Adds options given by letters. The letter `p` takes what follows it as the
pattern, with or without an equals sign; says whether it found nothing there. -/
def addLetters (g : Given) : List Char → Except Stop (Given × Bool)
  | [] => .ok (g, false)
  | 'p' :: [] => .ok (g, true)
  | 'p' :: '=' :: value => (·, false) <$> g.addPattern (String.ofList value)
  | 'p' :: value => (·, false) <$> g.addPattern (String.ofList value)
  | letter :: letters => do addLetters (← g.addFlag (longName letter)) letters

def readOptions (g : Given) : List String → Except Stop Given
  | [] => .ok g
  | argument :: more =>
    match Shape.of argument with
    | .url => readOptions (g.addUrl argument) more
    | .terminator => .ok { g with urls := g.urls ++ more }
    | .long name (some value) =>
      if name = "pattern" then do readOptions (← g.addPattern value) more
      else .error (.usage argument)
    | .long name none => do
      if name = "pattern" then withValue g more
      else readOptions (← g.addFlag name) more
    | .short letters => do
      let (g, valueIsNext) ← addLetters g letters
      if valueIsNext then withValue g more else readOptions g more
where
  /-- Reads on after an option whose value is the next argument. -/
  withValue (g : Given) : List String → Except Stop Given
    | [] => .error (.usage "--pattern")
    | value :: more =>
      if Shape.of value = .url then do readOptions (← g.addPattern value) more
      else .error (.usage "--pattern")

/-- Counts the options of an argument that may stand behind a subcommand. -/
def verbosityOf (argument : String) : Except Stop Nat :=
  match Shape.of argument with
  | .long "verbose" none => .ok 1
  | .long "help" none => .error .help
  | .short letters =>
    match letters.find? (· ≠ 'v') with
    | none => .ok letters.length
    | some 'h' => .error .help
    | some _ => .error (.usage argument)
  | _ => .error (.usage argument)

/-- Reads what follows `config show` or `config validate`. -/
def readTail (verbosity : Nat) : List String → Except Stop Nat
  | [] => .ok verbosity
  | [argument] =>
    if argument = "--" then .ok verbosity
    else (verbosity + ·) <$> verbosityOf argument
  | argument :: more => do readTail (verbosity + (← verbosityOf argument)) more

/-- Reads what follows `config`. An option behind the second word takes
precedence over those before it. -/
def readConfig (verbosity : Nat) : List String → Except Stop Invocation
  | [] => .error (.usage "config")
  | argument :: more => do
    let request? : Option Request :=
      match argument with
      | "show" => some .showConfigs
      | "validate" => some .checkConfigs
      | _ => none
    match request? with
    | some request =>
      let inner ← readTail 0 more
      pure { request, verbosity := if inner = 0 then verbosity else inner }
    | none =>
      if argument = "help" then throw .help
      else readConfig (verbosity + (← verbosityOf argument)) more

def readArguments (arguments : List String) : Except Stop Invocation :=
  match arguments with
  | "config" :: more => readConfig 0 more
  | "help" :: _ => .error .help
  | _ => do
    let g ← readOptions {} arguments
    pure { request := ← g.request, verbosity := g.verbosity }

end UrlTemplate.CommandLine
