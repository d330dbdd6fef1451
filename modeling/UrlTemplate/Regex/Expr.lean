import UrlTemplate.Regex.CharSet

/-! # Regular expressions

An expression is built from characters and assertions on places. Whether a
repetition prefers more or fewer rounds makes no difference to whether a text
matches, so it is not recorded.
-/

namespace UrlTemplate.Regex

/-- An assertion on a place in a text. -/
inductive Look where
  | start
  | finish
  /-- The start of a line; with `crlf`, lines may end in a carriage return. -/
  | lineStart (crlf : Bool)
  | lineFinish (crlf : Bool)
  /-- A word starts or ends here. -/
  | boundary (unicode : Bool)
  /-- No word starts or ends here. -/
  | noBoundary (unicode : Bool)
  | wordStart (unicode : Bool)
  | wordFinish (unicode : Bool)
  /-- No word comes right before this place. -/
  | wordStartHalf (unicode : Bool)
  /-- No word goes on from this place. -/
  | wordFinishHalf (unicode : Bool)
  deriving DecidableEq, Repr

/-- The assertion holds between two characters, which are missing at the ends
of the text. -/
def Look.holds (look : Look) (before after : Option Char) : Bool :=
  let word (unicode : Bool) (c : Option Char) : Bool := c.any (CharSet.word unicode)
  match look with
  | start => before.isNone
  | finish => after.isNone
  | lineStart false => before.all (· = '\n')
  | lineStart true => before.all fun c => c = '\n' || (c = '\r' && after ≠ some '\n')
  | lineFinish false => after.all (· = '\n')
  | lineFinish true => after.all fun c => c = '\r' || (c = '\n' && before ≠ some '\r')
  | boundary u => word u before != word u after
  | noBoundary u => word u before == word u after
  | wordStart u => !word u before && word u after
  | wordFinish u => word u before && !word u after
  | wordStartHalf u => !word u before
  | wordFinishHalf u => !word u after

/-- An expression over leaves of some kind. -/
inductive Expr (α : Type) where
  | empty
  | leaf (a : α)
  | seq (r s : Expr α)
  | alt (r s : Expr α)
  /-- At least `min` rounds, and at most `max` if given. -/
  | times (r : Expr α) (min : Nat) (max : Option Nat)

def Expr.map {α β : Type} (f : α → β) : Expr α → Expr β
  | empty => empty
  | leaf a => leaf (f a)
  | seq r s => seq (r.map f) (s.map f)
  | alt r s => alt (r.map f) (s.map f)
  | times r min max => times (r.map f) min max

/-- What an expression asks of a text: a character, or an assertion to hold. -/
inductive Leaf where
  | char (set : CharSet)
  | look (look : Look)

/-- The expression matches nothing but the empty text. -/
def Expr.onlyEmpty : Expr Leaf → Bool
  | empty | leaf (.look _) => true
  | leaf (.char _) => false
  | seq r s | alt r s => r.onlyEmpty && s.onlyEmpty
  | times r _ max => r.onlyEmpty || max = some 0

end UrlTemplate.Regex
