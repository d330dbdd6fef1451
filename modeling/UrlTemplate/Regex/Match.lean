import UrlTemplate.Regex.Expr

/-! # Matching

Against a fixed text, an expression is a map from sets of places to sets of
places: those where a match can end that starts at one of the given ones. A set
of places is a number whose bits tell which places are in it, so that all starts
are followed at once and an expression is walked through once for all of them.
-/

namespace UrlTemplate.Regex

/-- What a leaf does to a set of places. -/
inductive Step where
  /-- Moves over the character behind each of these places; drops the others. -/
  | advance (places : Nat)
  /-- Keeps these places. -/
  | keep (places : Nat)
  deriving DecidableEq, Repr

/-- The set that a step leads to. -/
def Step.apply : Step → Nat → Nat
  | advance places, x => (x &&& places) <<< 1
  | keep places, x => x &&& places

/-- The number whose bits are these, the lowest first. -/
def bitsOf (bits : List Bool) : Nat := bits.foldr (fun b n => 2 * n + b.toNat) 0

/-- The places of a text, each with the characters around it. -/
def placesOf (text : List Char) : List (Option Char × Option Char) :=
  let around := text.map some
  (none :: around).zip (around ++ [none])

/-- What a leaf does to sets of places of a text. -/
def Leaf.on (text : List Char) : Leaf → Step
  | char set => .advance (bitsOf (text.map set))
  | look l => .keep (bitsOf ((placesOf text).map fun (before, after) => l.holds before after))

/-- Applies a map `n` times, or up to a set that it does not change. -/
def rounds (f : Nat → Nat) : Nat → Nat → Nat
  | 0, x => x
  | n + 1, x =>
    let y := f x
    if y = x then x else rounds f n y

/-- Adds what a map leads to, `n` times or up to a set that this does not change. -/
def spread (f : Nat → Nat) (n x : Nat) : Nat := rounds (fun x => x ||| f x) n x

/-- The places where a match that starts at one of the given places can end. A
text of `size` characters has one place more, so an unbounded repetition brings
nothing new after `size + 1` rounds. -/
def image (size : Nat) : Expr Step → Nat → Nat
  | .empty, x => x
  | .leaf step, x => step.apply x
  | .seq r s, x => image size s (image size r x)
  | .alt r s, x => image size r x ||| image size s x
  | .times r min max, x =>
    let more := match max with
      | some max => max - min
      | none => size + 1
    spread (image size r) more (rounds (image size r) min x)

/-- The expression matches somewhere in the text. -/
def isMatch (r : Expr Leaf) (text : List Char) : Bool :=
  let everywhere := 1 <<< (text.length + 1) - 1
  image text.length (r.map (·.on text)) everywhere ≠ 0

end UrlTemplate.Regex
