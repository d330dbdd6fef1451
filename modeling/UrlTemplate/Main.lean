import UrlTemplate.CommandLine.Outlook
import UrlTemplate.Regex.Read

/-! # The program

Looks at what a run may look at, and carries out what the run does.
-/

namespace UrlTemplate.CommandLine

/-- The program's configuration files are TOML with regexes in it. -/
def languages : Languages :=
  { config := Config.decodeToml, regex := Regex.compile, arguments := readArguments }

/-- What a path leads to. -/
def lookAt (path : Path) : IO Entry := do
  try
    pure (.file (← IO.FS.readBinFile path.text))
  catch e =>
    match e with
    | .noFileOrDirectory .. => pure .missing
    | .inappropriateType _ code _ => pure (if code = 21 then .directory else .missing)
    | e => pure (.unreadable (toString e))

/-- Reads a stream to its end. -/
partial def readToEnd (stream : IO.FS.Stream) (read : ByteArray) : IO ByteArray := do
  let more ← stream.read 65536
  if more.isEmpty then pure read else readToEnd stream (read ++ more)

def carryOut (event : Event) : IO Unit := do
  match event with
  | .print text => IO.print text
  | .complain text => IO.eprint text
  | .record r => IO.eprintln r.line
  | .create path content => IO.FS.writeFile path.text content

/-- Carries out the run with these arguments, and gives its exit code. -/
def carryOutRun (arguments : List String) : IO UInt32 := do
  let directory := Path.ofText (← IO.currentDir).toString
  let home := ((← IO.getEnv "HOME").filter (· ≠ "")).map Path.ofText
  let entries ← (pathsOfInterest home directory).mapM fun path => do
    pure (path, ← lookAt path)
  let settings ← (variablesOfInterest languages (entries.map (·.2))).filterMapM fun name => do
    pure ((← IO.getEnv name).map (name, ·))
  let input ← if readsInput languages arguments then readToEnd (← IO.getStdin) ByteArray.empty
    else pure ByteArray.empty
  let world := World.ofKnown directory home entries settings input
  let outcome := run languages world arguments
  outcome.events.forM carryOut
  pure outcome.code

end UrlTemplate.CommandLine

def main (arguments : List String) : IO UInt32 :=
  UrlTemplate.CommandLine.carryOutRun arguments
