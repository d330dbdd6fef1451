/-! # Paths and what they lead to

A path is absolute: it is the list of the names that lead from the root of the
file system to a place, the innermost first.
-/

namespace UrlTemplate

/-- An absolute path, by its names, the innermost first. -/
structure Path where
  names : List String
  deriving DecidableEq, Repr

namespace Path

def text (path : Path) : String := "/" ++ "/".intercalate path.names.reverse

/-- The path that an absolute text names. -/
def ofText (text : String) : Path := ⟨((text.splitOn "/").filter (· ≠ "")).reverse⟩

def entry (directory : Path) (name : String) : Path := ⟨name :: directory.names⟩

/-- The paths that the names lead past, the longest first. -/
def upwardsFrom : List String → List Path
  | [] => [⟨[]⟩]
  | name :: names => ⟨name :: names⟩ :: upwardsFrom names

/-- A directory and those above it, the innermost first. -/
def upwards (directory : Path) : List Path := upwardsFrom directory.names

theorem entry_inj {a b : Path} {name : String} (h : a.entry name = b.entry name) : a = b := by
  cases a; cases b; simpa [entry] using h

end Path

/-- What a path leads to. -/
inductive Entry where
  | missing
  | directory
  | file (content : ByteArray)
  /-- A file whose content cannot be had. -/
  | unreadable (cause : String)

def Entry.isPresent : Entry → Bool
  | missing => false
  | _ => true

/-- The text of a file, or why it cannot be had; `none` when it is not a file. -/
def Entry.text? : Entry → Option (Except String String)
  | missing | directory => none
  | file content =>
    match String.fromUTF8? content with
    | some text => some (.ok text)
    | none => some (.error "stream did not contain valid UTF-8")
  | unreadable cause => some (.error cause)

/-- A file system, seen from its root. -/
abbrev Tree := Path → Entry

end UrlTemplate
