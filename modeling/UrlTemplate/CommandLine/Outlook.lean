import UrlTemplate.CommandLine.Run

/-! # What a run looks at

A run sees little of the world: the places where configuration files may be, the
environment variables that these name, and the standard input if it is to read
URLs from there. Whoever starts a run has to look at these and at nothing else.
-/

namespace UrlTemplate.CommandLine

/-- The paths that a run in a directory may look at. -/
def pathsOfInterest (home : Option Path) (directory : Path) : List Path :=
  (directory.upwards ++ home.toList).map (·.entry configFileName)

/-- The environment variables that files name. -/
def variablesOfInterest (languages : Languages) (entries : List Entry) : List String :=
  entries.filterMap fun entry => do
    let .ok text ← entry.text? | none
    let .ok config := languages.config text | none
    config.disablingVariable

/-- The run reads its standard input. -/
def readsInput (languages : Languages) (arguments : List String) : Bool :=
  match languages.arguments arguments with
  | .ok { request := .answer _ _ [], .. } => true
  | _ => false

/-- The world as it is known from looking at some paths and variables. -/
def World.ofKnown (directory : Path) (home : Option Path) (entries : List (Path × Entry))
    (settings : List (String × String)) (input : ByteArray) : World :=
  { directory
    home
    input
    tree := fun path => ((entries.find? (·.1 = path)).map (·.2)).getD .missing
    environment := fun name => settings.lookup name }

end UrlTemplate.CommandLine
