import UrlTemplate.Apply.Mismatch
import UrlTemplate.Pattern.Token
import UrlTemplate.Url.Token

/-! # Applying path rules

The path rules of a pattern walk along the path of a URL and write the part
of it that is kept. A separator is written late, just before the segment that
follows it, so that dropping segments leaves no doubled or trailing separator.
A pattern without path rules keeps the path as it is.
-/

namespace UrlTemplate.Apply

open Pattern (PathRule)
open Url (PathToken)

/-- What has been written of a path. -/
structure Written where
  tokens : List PathToken := []
  /-- A separator goes before the next segment. -/
  pending : Bool := false

namespace Written

/-- Writes the separator that is pending. -/
def flush (w : Written) : Written :=
  if w.pending then { tokens := w.tokens ++ [.separator] } else w

/-- Writes a segment. -/
def segment (w : Written) (text : List Char) : Written :=
  let w := w.flush
  { w with tokens := w.tokens ++ [.segment text] }

/-- Copies path tokens. -/
def copy (w : Written) (path : List PathToken) : Written :=
  { w with tokens := w.tokens ++ path }

/-- The path at the end: one that came to nothing but a separator is the root. -/
def finish (w : Written) : List PathToken :=
  if w.pending && w.tokens.isEmpty then [.separator] else w.tokens

end Written

/-- The path without its first token, if that is a segment. -/
def dropSegment : List PathToken → List PathToken
  | .segment _ :: path => path
  | path => path

/-- Walks the rules along the path. What the rules leave of the path is copied
when `copyRest` holds and dropped otherwise. -/
def walk (copyRest : Bool) : List PathRule → List PathToken → Written →
    Except Mismatch (List PathToken)
  | [], path, w => pure ((if copyRest then w.copy path else w).finish)
  | .separator :: rules, path, w =>
    match path with
    | .separator :: path => walk copyRest rules path { w with pending := !rules.isEmpty }
    | path =>
      if rules.isEmpty && path.isEmpty then walk copyRest rules path w
      else throw .noSeparator
  | .matchSegment expected :: rules, path, w =>
    match path with
    | .segment found :: path =>
      if Escape.unescape found = expected then walk copyRest rules path (w.segment found)
      else throw (.segment expected found)
    | _ => throw .noSegment
  | .glob :: [], path, w =>
    -- the last rule takes all that is left, which is nothing only at the root
    if path.isEmpty && !(w.pending && w.tokens.isEmpty) then throw .noSegment
    else pure (w.flush.copy path).finish
  | .glob :: rules, path, w =>
    match path with
    | .segment found :: path => walk copyRest rules path (w.segment found)
    | _ => throw .noSegment
  | .omitSegment :: rules, path, w =>
    -- the separator after a dropped segment goes along with it
    match rules, dropSegment path with
    | .separator :: rules, .separator :: path => walk copyRest rules path w
    | rules, path => walk copyRest rules path w
  | .omitPath :: _, _, w => pure w.tokens

/-- A pattern that starts with a segment means the same with a `/` before it:
the separator at the start of the path is taken and pending. -/
def enter (rules : List PathRule) (path : List PathToken) : List PathToken × Written :=
  match rules.head?.any PathRule.isSegment, path with
  | true, .separator :: path => (path, { pending := true })
  | _, path => (path, {})

/-- The path that path rules make of a path. -/
def fitPath (copyRest : Bool) (rules : List PathRule) (path : List PathToken) :
    Except Mismatch (List PathToken) :=
  if rules.isEmpty then pure path
  else
    let (path, w) := enter rules path
    walk copyRest rules path w

/-- The path rules at the start of a pattern. -/
def leadingPathRules (pattern : List Pattern.Token) : List PathRule :=
  (pattern.takeWhile Pattern.Token.isPath).filterMap Pattern.Token.path?

/-- What stands after those path rules is a query or fragment rule. -/
def stopsAtMarker (pattern : List Pattern.Token) : Bool :=
  (pattern.dropWhile Pattern.Token.isPath).head?.any fun rule => rule.isQuery || rule.isFragment

/-- Path rules that end in a segment before a query or fragment rule keep the
rest of the path. -/
def copiesRest (pattern : List Pattern.Token) : Bool :=
  stopsAtMarker pattern && (leadingPathRules pattern).getLast?.any PathRule.isSegment

/-- Applies the path rules of a pattern to the path of a URL. -/
def applyPath (url : List Url.Token) (pattern : List Pattern.Token) :
    Except Mismatch (List Url.Token) :=
  List.map .path <$>
    fitPath (copiesRest pattern) (leadingPathRules pattern) (url.filterMap Url.Token.path?)

end UrlTemplate.Apply
