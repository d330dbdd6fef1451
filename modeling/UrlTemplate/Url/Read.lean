import UrlTemplate.Scan
import UrlTemplate.SortWithin
import UrlTemplate.Url.Token

/-! # Reading a URL

`Url.read` reads any text as a URL, in one canonical form: runs of `/` count
as one, a `/` at the end of a path stays only as the root path, empty query
entries and a lone `?` or `#` at the end go away, query entries are sorted,
and `scheme://host` has the root path unless something else follows. What is
no structure is kept as literal text, with its backslashes.
-/

namespace UrlTemplate.Url

open Scan (View Reply)

/-- The part of a URL that a scan has reached. -/
inductive Zone where
  /-- Nothing but literal text so far; a `://` here makes it a scheme. -/
  | start
  | authority
  | path
  | query
  | fragment
  deriving DecidableEq, Repr

/-- What a scan of a URL remembers. -/
structure ReadState where
  zone : Zone := .start
  hasAuthority : Bool := false
  /-- A path separator has been emitted. -/
  pathStarted : Bool := false
  /-- A path segment has been emitted. -/
  segmentSeen : Bool := false
  /-- A query separator has been emitted. -/
  queryOpen : Bool := false
  deriving DecidableEq, Repr

namespace ReadState

/-- The tokens at the end of a URL. `scheme://host` gets the same root path as
`scheme://host/`, unless a query or a fragment follows. -/
def finish (s : ReadState) : List Token :=
  if s.hasAuthority && !s.pathStarted && !s.queryOpen && s.zone != .fragment then
    [.path .separator, .finish]
  else
    [.finish]

/-- Starts the fragment after a `#`, unless the text ends there. -/
def openFragment (s : ReadState) (next : Option Char) : List Token × ReadState :=
  match next with
  | none => ([], s)
  | some _ => ([.fragmentSeparator], { s with zone := .fragment })

/-- Writes the waiting literal text as a path segment. -/
def closeSegment (s : ReadState) (literal : List Char) : List Token × ReadState :=
  if literal.isEmpty then ([], s)
  else ([.path (.segment literal)], { s with segmentSeen := true })

/-- Writes the waiting literal text as a query entry, behind `?` for the first
entry and `&` for the others. There are no empty entries. -/
def closeParam (s : ReadState) (literal : List Char) : List Token × ReadState :=
  if literal.isEmpty then ([], s)
  else if s.queryOpen then ([.paramSeparator, .param (.ofRaw literal)], s)
  else ([.querySeparator, .param (.ofRaw literal)], { s with queryOpen := true })

/-- A `/` before another one is no separator, nor is one that ends a path with
segments. -/
def slash (s : ReadState) (next : Option Char) : List Token × ReadState :=
  let s := { s with zone := .path }
  let trailing := next = none ∨ next = some '?' ∨ next = some '#'
  if next = some '/' ∨ (trailing ∧ s.segmentSeen) then ([], s)
  else ([.path .separator], { s with pathStarted := true })

/-- What a character that ends a path segment, or the end of the text, starts. -/
def delimiter (s : ReadState) (symbol next : Option Char) : List Token × ReadState :=
  match symbol with
  | some '/' => s.slash next
  | some '?' => ([], { s with zone := .query })
  | some '#' => s.openFragment next
  | some _ => ([], s)
  | none => (s.finish, s)

def endSegment (s : ReadState) (literal : List Char) (symbol next : Option Char) :
    List Token × ReadState :=
  let (written, s) := s.closeSegment literal
  let (more, s) := s.delimiter symbol next
  (written ++ more, s)

/-- Ends the authority; what ends it also delimits the path. -/
def endAuthority (s : ReadState) (literal : List Char) (symbol next : Option Char) :
    List Token × ReadState :=
  let (more, s) :=
    delimiter { s with hasAuthority := true, zone := .path } symbol next
  (.authority literal :: more, s)

end ReadState

/-- The characters that end a path segment or an authority. -/
def isDelimiter (c : Char) : Bool := c = '/' || c = '?' || c = '#'

def keepLiteral (s : ReadState) : Reply ReadState Token := { state := s, keep := true }

/-- Emits tokens; the waiting literal text is in them. -/
def emitTokens (written : List Token × ReadState) : Reply ReadState Token :=
  { state := written.2, emit := written.1, take := true }

/-- A step in a path, or before it is known that there is no scheme. -/
def pathStep (v : View ReadState) : Reply ReadState Token :=
  if v.symbol.any (!isDelimiter ·) then keepLiteral v.state
  else emitTokens (v.state.endSegment v.literal v.symbol (v.peek 1))

/-- A step where a scheme may still end. -/
def startStep (v : View ReadState) : Reply ReadState Token :=
  if v.symbol = some ':' ∧ v.peek 1 = some '/' ∧ v.peek 2 = some '/' then
    { state := { v.state with zone := .authority }
      emit := [.scheme v.literal, .schemeSeparator]
      take := true
      skip := 2 }
  else pathStep v

def authorityStep (v : View ReadState) : Reply ReadState Token :=
  if v.symbol.any (!isDelimiter ·) then keepLiteral v.state
  else emitTokens (v.state.endAuthority v.literal v.symbol (v.peek 1))

def queryStep (v : View ReadState) : Reply ReadState Token :=
  let (written, s) := v.state.closeParam v.literal
  match v.symbol with
  | some '&' => emitTokens (written, s)
  | some '#' =>
    let (more, s) := s.openFragment (v.peek 1)
    emitTokens (written ++ more, s)
  | some _ => keepLiteral v.state
  | none => emitTokens (written ++ s.finish, s)

/-- A step in the fragment, which reaches to the end of the text. -/
def fragmentStep (v : View ReadState) : Reply ReadState Token :=
  match v.symbol with
  | some _ => keepLiteral v.state
  | none => emitTokens (.fragment v.literal :: v.state.finish, v.state)

/-- One step of reading a URL. A backslash is kept, and so is the character it
protects, whatever that is. -/
def readStep (v : View ReadState) : Reply ReadState Token :=
  if v.symbol = some '\\' then { state := v.state, keep := true, escape := true }
  else
    match v.state.zone with
    | .start => startStep v
    | .authority => authorityStep v
    | .path => pathStep v
    | .query => queryStep v
    | .fragment => fragmentStep v

/-- The tokens of a URL before its query entries are sorted. -/
def scan (url : List Char) : List Token :=
  Scan.run (m := Id) (fun v => pure (readStep v)) {} url |>.run

/-- Sorts the query entries among the places that hold one. -/
def sortParams (tokens : List Token) : List Token :=
  sortWithin Token.param? .param Param.le tokens

/-- The canonical tokens of a URL. Every text is a URL. -/
def read (url : List Char) : List Token := sortParams (scan url)

end UrlTemplate.Url
