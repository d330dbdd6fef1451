import UrlTemplate.Regex.Flags
import UrlTemplate.Regex.Piece
import UrlTemplate.Text.Hex

/-! # Escapes in a regex

What a backslash and the characters after it mean.
-/

namespace UrlTemplate.Regex

/-- The smallest parts of a regex. -/
inductive Atom where
  /-- A character. One written by two hexadecimal digits may stand for a byte. -/
  | literal (c : Char) (isByte : Bool)
  | set (piece : ClassPiece)
  | look (look : Look)

/-- The character whose code point these hexadecimal digits write. -/
def charOfHex (digits : List Char) : Parser Char := do
  match charOfHex? digits with
  | some c => pure c
  | none => Reader.fail

/-- Takes characters that satisfy `p`, with layout after each. -/
def spanWithLayout (p : Char → Bool) : Parser (List Char) :=
  Parser.repeated (fun read => do
    match ← Reader.peek? with
    | some c =>
      if p c then
        let _ ← Reader.next
        skipLayout
        pure (.inl (read ++ [c]))
      else pure (.inr read)
    | none => pure (.inr read)) []

/-- Takes `count` hexadecimal digits, with layout after each. -/
def hexDigits : (count : Nat) → Parser (List Char)
  | 0 => pure []
  | count + 1 => do
    let c ← Reader.next
    Reader.require (isHexDigit c)
    skipLayout
    pure (c :: (← hexDigits count))

/-- Reads a character given by its code point: by `count` digits, or by any
number of them in braces. -/
def hexLiteral (count : Nat) : Parser Atom := do
  skipLayout
  if ← Reader.accept ['\x7b'] then
    skipLayout
    let digits ← spanWithLayout isHexDigit
    Reader.expect ['\x7d']
    pure (.literal (← charOfHex digits) false)
  else
    pure (.literal (← charOfHex (← hexDigits count)) (count = 2))

/-- The set as the flags want it: closed under case, then negated. A negated set
would hold bytes that are no characters if only ASCII is meant. -/
def foldAndNegate (negated : Bool) (piece : ClassPiece) : Parser ClassPiece := do
  let flags ← Parser.flags
  Reader.require (flags.unicode || !negated)
  let set :=
    if !flags.ignoreCase then piece.set
    else if flags.unicode then piece.set.fold
    else piece.set.foldAscii
  pure { piece with set := if negated then set.compl else set }

/-- Reads a set given by the name of a property. -/
def namedSet (negated : Bool) : Parser Atom := do
  Reader.require (← Parser.flags).unicode
  skipLayout
  let (found, negated) ← do
    if ← Reader.accept ['\x7b'] then
      skipLayout
      let name ← spanWithLayout (· ≠ '\x7d')
      Reader.expect ['\x7d']
      let text (cs : List Char) := String.ofList cs
      pure <| match splitAtUnequal name with
        | some (key, value) => (Unicode.valueNamed? (text key) (text value), !negated)
        | none =>
          match splitAt ':' name <|> splitAt '=' name with
          | some (key, value) => (Unicode.valueNamed? (text key) (text value), negated)
          | none => (Unicode.setNamed? (text name), negated)
    else
      let c ← Reader.next
      Reader.require (c ≠ '\\')
      pure (Unicode.setNamed? (String.singleton c), negated)
  match found with
  | some set => .set <$> foldAndNegate negated { set, room := tableRoom }
  | none => Reader.fail
where
  /-- Cuts a name at the first `c`. -/
  splitAt (c : Char) (name : List Char) : Option (List Char × List Char) :=
    match name.span (· ≠ c) with
    | (key, _ :: value) => some (key, value)
    | _ => none
  /-- Cuts a name at the first `!=`. -/
  splitAtUnequal : List Char → Option (List Char × List Char)
    | '!' :: '=' :: value => some ([], value)
    | c :: rest => (splitAtUnequal rest).map fun (key, value) => (c :: key, value)
    | [] => none

/-- Reads the rest of an assertion on words that a name in braces makes more
precise, if there is one. -/
def wordLook : Parser Look := do
  let unicode := (← Parser.flags).unicode
  let here ← Parser.ahead
  let isNameChar (c : Char) : Bool := c.isAlpha || c = '-'
  if ← Reader.accept ['\x7b'] then
    skipLayout
    let c ← Reader.peek?
    Reader.require c.isSome
    if c.any isNameChar then
      let name ← spanWithLayout isNameChar
      Reader.expect ['\x7d']
      match String.ofList name with
      | "start" => pure (.wordStart unicode)
      | "end" => pure (.wordFinish unicode)
      | "start-half" => pure (.wordStartHalf unicode)
      | "end-half" => pure (.wordFinishHalf unicode)
      | _ => Reader.fail
    else
      Parser.goTo here
      pure (.boundary unicode)
  else pure (.boundary unicode)

/-- A set that a letter means, or everything else if the letter is upper case. -/
def letterSet (c : Char) : Parser Atom := do
  let unicode := (← Parser.flags).unicode
  let piece : ClassPiece := match c.toLower with
    | 'd' => { set := .digit unicode, room := if unicode then 3000 else stateRoom }
    | 's' => { set := .space unicode, room := if unicode then 600 else stateRoom }
    | _ => { set := .word unicode, room := if unicode then tableRoom else stateRoom }
  Reader.require (unicode || c.isLower)
  pure (.set { piece with set := if c.isUpper then piece.set.compl else piece.set })

/-- Reads what follows a backslash. -/
def escape : Parser Atom := do
  let c ← Reader.next
  let unicode := (← Parser.flags).unicode
  let literal (c : Char) : Parser Atom := pure (.literal c false)
  match c with
  | 'x' => hexLiteral 2
  | 'u' => hexLiteral 4
  | 'U' => hexLiteral 8
  | 'p' => namedSet false
  | 'P' => namedSet true
  | 'd' | 's' | 'w' | 'D' | 'S' | 'W' => letterSet c
  | 'a' => literal '\x07'
  | 'f' => literal '\x0c'
  | 't' => literal '\t'
  | 'n' => literal '\n'
  | 'r' => literal '\r'
  | 'v' => literal '\x0b'
  | 'A' => pure (.look .start)
  | 'z' => pure (.look .finish)
  | 'b' => .look <$> wordLook
  | 'B' => pure (.look (.noBoundary unicode))
  | '<' => pure (.look (.wordStart unicode))
  | '>' => pure (.look (.wordFinish unicode))
  | c =>
    Reader.require (c.toNat ≤ 0x7f && !c.isAlphanum)
    literal c

end UrlTemplate.Regex
