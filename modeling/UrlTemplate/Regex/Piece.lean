import UrlTemplate.Regex.Expr

/-! # Pieces of an expression

While an expression is read, each piece of it goes with how deeply it nests and
with an estimate of how much room an automaton for it takes. Both are limited.
-/

namespace UrlTemplate.Regex

/-- How deeply an expression may nest. -/
def maxDepth : Nat := 250

/-- How much room an automaton may take, in bytes. -/
def maxRoom : Nat := 10485760

/-- The room of one state of an automaton. -/
def stateRoom : Nat := 32

/-- The room of a set of characters of many ranges. -/
def tableRoom : Nat := 20000

/-- A set of characters, as it is read. -/
structure ClassPiece where
  set : CharSet
  depth : Nat := 0
  room : Nat := stateRoom

def total (numbers : List Nat) : Nat := numbers.foldl (fun sum n => sum + n) 0

def largest (numbers : List Nat) : Nat := numbers.foldl (fun most n => max most n) 0

namespace ClassPiece

def union (items : List ClassPiece) : ClassPiece :=
  match items with
  | [] => { set := CharSet.none, room := 0 }
  | [item] => item
  | items => {
      set := fun c => items.any (·.set c)
      depth := 1 + largest (items.map (·.depth))
      room := total (items.map (·.room)) }

def combine (op : CharSet → CharSet → CharSet) (a b : ClassPiece) : ClassPiece :=
  { set := op a.set b.set, depth := 1 + max a.depth b.depth, room := a.room + b.room }

end ClassPiece

/-- A part of an expression, as it is read. -/
structure Piece where
  expr : Expr Leaf
  depth : Nat := 0
  room : Nat := stateRoom
  /-- It can be repeated. -/
  repeatable : Bool := true

namespace Piece

def empty : Piece := { expr := .empty, room := 0 }

/-- A character of a set. -/
def ofSet (set : CharSet) (room : Nat) : Piece := { expr := .leaf (.char set), room }

def ofLook (look : Look) : Piece := { expr := .leaf (.look look) }

def concat (items : List Piece) : Piece :=
  match items with
  | [] => empty
  | [item] => item
  | items => {
      expr := items.foldr (fun item expr => .seq item.expr expr) .empty
      depth := 1 + largest (items.map (·.depth))
      room := total (items.map (·.room)) }

def choice (first : Piece) (others : List Piece) : Piece :=
  if others.isEmpty then first
  else {
    expr := others.foldl (fun expr other => .alt expr other.expr) first.expr
    depth := 1 + largest ((first :: others).map (·.depth))
    room := total ((first :: others).map (·.room + stateRoom)) }

def group (inner : Piece) : Piece :=
  { expr := inner.expr, depth := 1 + inner.depth, room := inner.room + 2 * stateRoom }

/-- A repeated piece. What is always empty counts once. -/
def times (inner : Piece) (least : Nat) (most : Option Nat) : Piece :=
  let (least, most) :=
    if inner.expr.onlyEmpty then (min least 1, some (min (most.getD 1) 1)) else (least, most)
  let copies := most.getD (max least 1)
  { expr := .times inner.expr least most
    depth := 1 + inner.depth
    room := copies * inner.room + (copies - least + 1) * stateRoom }

end Piece

end UrlTemplate.Regex
