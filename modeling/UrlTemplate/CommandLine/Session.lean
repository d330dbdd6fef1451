import UrlTemplate.Config.Error
import UrlTemplate.Path

/-! # What a run does to the world

A run prints, logs and creates files. All of this is its log of events, in
order; a run that cannot go on ends with a failure, after the events up to
there.
-/

namespace UrlTemplate.CommandLine

/-- Something that a run does. -/
inductive Event where
  /-- Prints to the standard output. -/
  | print (text : String)
  /-- Prints to the standard error output. -/
  | complain (text : String)
  /-- Writes a log record to the standard error output. -/
  | record (r : Record)
  /-- Creates a file, in place of what was there. -/
  | create (path : Path) (content : String)
  deriving DecidableEq, Repr

/-- Why a run cannot go on: a message, and what lies behind it, outermost
first. -/
structure Failure where
  message : String
  causes : List String := []
  deriving DecidableEq, Repr

/-- A cause below its heading, with its further lines indented. The causes are
numbered when there are several. -/
def causeText (number : Option Nat) (cause : String) : String :=
  let (first, others) := match number with
    | some n => (s!"    {n}: ", "       ")
    | none => ("    ", "    ")
  first ++ ("\n" ++ others).intercalate (cause.splitOn "\n")

def Failure.text (f : Failure) : String :=
  let causes := match f.causes with
    | [] => []
    | [cause] => [causeText none cause]
    | causes => causes.zipIdx.map fun (cause, n) => causeText (some n) cause
  let heading := if causes.isEmpty then [] else ["", "Caused by:"]
  "\n".intercalate (("error: " ++ f.message) :: heading ++ causes) ++ "\n"

/-- A computation with events that may end in a failure. -/
abbrev Session := ExceptT Failure (Traced Event)

namespace Session

variable {α : Type}

def act (event : Event) : Session Unit := ExceptT.lift (Traced.event event)

def printLine (line : String) : Session Unit := act (.print (line ++ "\n"))

def complainLine (line : String) : Session Unit := act (.complain (line ++ "\n"))

def debug (text : String) : Session Unit := act (.record { level := .debug, text })

/-- Runs a computation that keeps a log. -/
def logged (x : Logged α) : Session α := ExceptT.lift (x.mapLog .record)

/-- Runs a computation on configurations, whose errors end the run with a
message of its own. -/
def orFail (message : String) (x : Checked α) : Session α := do
  match ← logged x.run with
  | .ok a => pure a
  | .error e => throw { message, causes := e.message :: e.cause?.toList }

end Session

end UrlTemplate.CommandLine
