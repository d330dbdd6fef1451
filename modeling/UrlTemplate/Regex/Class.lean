import UrlTemplate.Regex.Escape

/-! # Classes in brackets

A class lists characters, ranges and other classes. Lists can be joined by `&&`
(the characters of both), `--` (those of the first only) and `~~` (those of
exactly one), from left to right.
-/

namespace UrlTemplate.Regex

/-- A character as an item of a class. Where only ASCII is meant, it must be
ASCII. -/
def classChar (c : Char) : Parser Char := do
  Reader.require ((← Parser.flags).unicode || c.toNat ≤ 0x7f)
  pure c

/-- Reads an item of a class that may be the end of a range. -/
def classAtom : Parser Atom := do
  let c ← Reader.next
  if c = '\\' then escape else pure (.literal c false)

/-- The item of a class that an atom stands for by itself. -/
def classItem (atom : Atom) : Parser ClassPiece := do
  match atom with
  | .literal c _ => pure { set := .single (← classChar c) }
  | .set piece => pure piece
  | .look _ => Reader.fail

/-- The end of a range that an atom stands for. -/
def rangeEnd (atom : Atom) : Parser Char := do
  match atom with
  | .literal c _ => classChar c
  | _ => Reader.fail

/-- The character that tells whether a hyphen begins a range: the first one
behind it that counts. -/
def peekBehind (layout : Bool) (rest : List Char) : Option Char :=
  if !layout then rest.head?
  else
    let behind := rest.dropWhile Unicode.isBlank
    let behind := match behind with
      | '#' :: comment => comment.dropWhile Unicode.isBlank
      | _ => behind
    behind.head? <|> rest.head?

/-- Reads a character, a set or a range. -/
def classRange : Parser ClassPiece := do
  let first ← classAtom
  skipLayout
  let layout := (← Parser.flags).layout
  match ← Parser.ahead with
  | [] => Reader.fail
  | c :: rest =>
    let behind := peekBehind layout rest
    if c ≠ '-' ∨ behind = some ']' ∨ behind = some '-' then classItem first
    else
      let _ ← Reader.next
      skipLayout
      let last ← classAtom
      let a ← rangeEnd first
      let b ← rangeEnd last
      Reader.require (a ≤ b)
      pure { set := .range a b }

/-- A named ASCII set at the start of a text, such as `[:alpha:]`: whether it is
negated, the set, and the text behind it. -/
def asciiSet? (text : List Char) : Option (Bool × CharSet × List Char) := do
  let ('[' :: ':' :: text) := text | none
  let (negated, text) := match text with
    | '^' :: text => (true, text)
    | text => (false, text)
  match text.span (· ≠ ':') with
  | (name, ':' :: ']' :: rest) =>
    let set ← CharSet.asciiNamed? (String.ofList name)
    some (negated, set, rest)
  | _ => none

/-- Takes the name of a set operator, if it is the next thing. -/
def setOperator? : Parser (Option (CharSet → CharSet → CharSet)) := do
  if ← Reader.accept ['&', '&'] then pure (some .inter)
  else if ← Reader.accept ['-', '-'] then pure (some .diff)
  else if ← Reader.accept ['~', '~'] then pure (some .symmDiff)
  else pure none

/-- What has been read of a class: the list that is open, and the operator
before it with what it is applied to. -/
structure OpenClass where
  before : Option (ClassPiece × (CharSet → CharSet → CharSet)) := none
  items : List ClassPiece := []

/-- The class up to here. An operator sees both of its sides closed under case. -/
def OpenClass.close (c : OpenClass) : Parser ClassPiece := do
  let last := ClassPiece.union c.items
  match c.before with
  | none => pure last
  | some (first, op) =>
    pure (.combine op (← foldAndNegate false first) (← foldAndNegate false last))

def OpenClass.add (c : OpenClass) (item : ClassPiece) : OpenClass :=
  { c with items := c.items ++ [item] }

/-- Reads the hyphens that stand for themselves at the start of a class, or a
closing bracket there. -/
def leadingItems : Parser OpenClass := do
  let hyphens ← spanWithLayout (· = '-')
  let c : OpenClass := { items := hyphens.map fun _ => { set := .single '-' } }
  if hyphens.isEmpty then
    if ← Reader.accept [']'] then
      skipLayout
      return c.add { set := .single ']' }
  pure c

/-- Reads a class after its opening bracket. Classes in it are read by `inner`. -/
def classBody (inner : Parser ClassPiece) : Parser ClassPiece := do
  skipLayout
  let negated ← Reader.accept ['^']
  skipLayout
  let c ← leadingItems
  Parser.repeated (fun (c : OpenClass) => do
    skipLayout
    match asciiSet? (← Parser.ahead) with
    | some (negated, set, rest) =>
      Parser.goTo rest
      pure (.inl (c.add (← foldAndNegate negated { set })))
    | none =>
      if ← Reader.accept ['['] then
        pure (.inl (c.add (← inner)))
      else if ← Reader.accept [']'] then
        let piece ← c.close
        pure (.inr (← foldAndNegate negated { piece with depth := 1 + piece.depth }))
      else
        match ← setOperator? with
        | some op => pure (.inl { before := some (← c.close, op) })
        | none => pure (.inl (c.add (← classRange)))) c

/-- Reads a class after its opening bracket, with classes in it nested at most
`depth` deep. -/
def bracketClass : (depth : Nat) → Parser ClassPiece
  | 0 => Reader.fail
  | depth + 1 => classBody (bracketClass depth)

end UrlTemplate.Regex
