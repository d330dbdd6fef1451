import UrlTemplate.Config.Decode
import UrlTemplate.Path

/-! # Finding configuration files

A configuration holds for its directory and all that is below. `discover` goes
from a directory upwards and takes every configuration file on the way, until
one says that it is the root; the file in the user's home comes last, unless a
file already found names an environment variable that turns it off. The files
are listed in this order, the one nearest to the directory first.
-/

namespace UrlTemplate

def configFileName : String := ".urlpat.toml"

/-- A configuration and the file that it comes from. -/
structure LoadedConfig where
  path : Path
  config : Config
  deriving DecidableEq, Repr

/-- What the search for configuration files depends on. -/
structure Surroundings where
  tree : Tree
  /-- The user's own directory. -/
  home : Option Path
  /-- The environment variables; `none` when unset or not text. -/
  environment : String → Option String

/-- The path of the user's own configuration file. -/
def Surroundings.userPath? (s : Surroundings) : Option Path := s.home.map (·.entry configFileName)

/-- The value of a variable turns something on. -/
def isTruthy (value : String) : Bool :=
  !(["", "0", "false", "no"].contains (value.map Char.toLower))

/-- The variable that turns the user's own file off, if this configuration
names one that does. -/
def LoadedConfig.disabledBy? (loaded : LoadedConfig) (s : Surroundings) : Option String :=
  loaded.config.disablingVariable.filter fun name => (s.environment name).any isTruthy

namespace Discovery

variable (decode : String → Except String Config)

/-- Loads a file, if there is one. The log tells so in the words `notice`. -/
def loadFile? (tree : Tree) (notice : String) (path : Path) : Checked (Option LoadedConfig) := do
  match (tree path).text? with
  | none => pure none
  | some content =>
    Logged.write .debug (notice ++ path.text)
    match content with
    | .error cause => throw (.unreadable path.text cause)
    | .ok text => pure (some { path, config := ← Config.load decode path.text text })

/-- Loads the files of directories, up to the first that says it is the root. -/
def loadUntilRoot (tree : Tree) : List Path → Checked (List LoadedConfig)
  | [] => pure []
  | directory :: more => do
    match ← loadFile? decode tree "loading config " (directory.entry configFileName) with
    | none => loadUntilRoot tree more
    | some loaded =>
      if loaded.config.root then pure [loaded]
      else pure (loaded :: (← loadUntilRoot tree more))

/-- Loads the user's own file, after others have been loaded. -/
def loadUser? (s : Surroundings) (found : List LoadedConfig) :
    Checked (Option LoadedConfig) := do
  match found.findSome? fun loaded => (loaded.disabledBy? s).map (loaded.path, ·) with
  | some (path, name) =>
    Logged.write .debug (path.text ++ " disables user config lookup via $" ++ name)
    pure none
  | none =>
    match s.userPath? with
    | none =>
      Logged.write .debug "no home directory, skipping user config"
      pure none
    | some path =>
      if found.any (·.path = path) then pure none
      else loadFile? decode s.tree "loading user config " path

end Discovery

/-- The configurations that hold in a directory, the most important one first. -/
def discover (decode : String → Except String Config) (s : Surroundings) (start : Path) :
    Checked (List LoadedConfig) := do
  let found ← Discovery.loadUntilRoot decode s.tree start.upwards
  pure (found ++ (← Discovery.loadUser? decode s found).toList)

end UrlTemplate
