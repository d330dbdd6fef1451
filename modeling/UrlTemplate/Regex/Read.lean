import UrlTemplate.Regex.Class
import UrlTemplate.Regex.Match

/-! # Reading regexes

`compile` turns the text of a regex into the test whether it matches somewhere
in a text. There are no assertions on what lies ahead or behind, and no
references back to groups; texts that ask for these are refused.
-/

namespace UrlTemplate.Regex

/-- The set of a character that may be written in either case. -/
def charSet (flags : Flags) (c : Char) : CharSet :=
  if !flags.ignoreCase then .single c
  else if flags.unicode then CharSet.fold (.single c)
  else if c.toNat ≤ 0x7f then CharSet.foldAscii (.single c)
  else .single c

/-- The piece that an atom stands for outside a class. -/
def atomPiece (atom : Atom) : Parser Piece := do
  let flags ← Parser.flags
  match atom with
  | .literal c isByte =>
    Reader.require (flags.unicode || !isByte || c.toNat ≤ 0x7f)
    pure (.ofSet (charSet flags c) (stateRoom * c.utf8Size))
  | .set piece => pure { Piece.ofSet piece.set piece.room with depth := piece.depth }
  | .look look => pure (.ofLook look)

/-- The characters that a dot means. -/
def dotSet (flags : Flags) : CharSet :=
  if flags.dotAll then fun _ => true
  else if flags.crlf then fun c => c ≠ '\r' && c ≠ '\n'
  else fun c => c ≠ '\n'

/-- Reads a character, a set or an assertion. -/
def atom : Parser Piece := do
  let flags ← Parser.flags
  match ← Reader.next with
  | '\\' => atomPiece (← escape)
  | '.' =>
    -- bytes that are no characters are never meant
    Reader.require flags.unicode
    pure (.ofSet (dotSet flags) 600)
  | '^' => pure (.ofLook (if flags.multiLine then .lineStart flags.crlf else .start))
  | '$' => pure (.ofLook (if flags.multiLine then .lineFinish flags.crlf else .finish))
  | c => atomPiece (.literal c false)

/-! ## Repetitions -/

def repeatLast (items : List Piece) (least : Nat) (most : Option Nat) : Parser (List Piece) := do
  match items.getLast? with
  | some item =>
    Reader.require item.repeatable
    pure (items.dropLast ++ [item.times least most])
  | none => Reader.fail

/-- The largest number of rounds that can be asked for. -/
def maxRounds : Nat := 0xffffffff

/-- Takes a number, with blanks around it; there may be none. -/
def number? : Parser (Option Nat) := do
  let _ ← Reader.span Unicode.isBlank
  let digits ← spanWithLayout Char.isDigit
  let _ ← spanWithLayout Unicode.isBlank
  if digits.isEmpty then pure none
  else
    let n := digitsValue 10 digits
    Reader.require (n ≤ maxRounds)
    pure (some n)

def number : Parser Nat := do
  match ← number? with
  | some n => pure n
  | none => Reader.fail

/-- Takes the numbers of a counted repetition, after its opening brace. -/
def counts : Parser (Nat × Option Nat) := do
  skipLayout
  let least ← number
  let most ← do
    if ← Reader.accept [','] then
      skipLayout
      if (← Reader.peek?) = some '\x7d' then pure none else some <$> number
    else pure (some least)
  Reader.expect ['\x7d']
  Reader.require (most.all (least ≤ ·))
  pure (least, most)

/-! ## Groups -/

/-- Takes the name of a group, up to the bracket behind it. No other group may
have it. -/
def groupName : Parser Unit := do
  let name ← Reader.span (· ≠ '>')
  Reader.expect ['>']
  let isFirst (c : Char) : Bool := c = '_' || Unicode.isAlphabetic c
  let isLater (c : Char) : Bool :=
    c = '_' || c = '.' || c = '[' || c = ']' || Unicode.isAlphanumeric c
  Reader.require (name.head?.any isFirst && (name.drop 1).all isLater)
  let name := String.ofList name
  let context ← get
  Reader.require (!context.names.contains name)
  set { context with names := name :: context.names }

/-- Reads a group after its opening parenthesis, or a change of flags for the
rest of the group around it. -/
def group (inner : Parser Piece) : Parser Piece := do
  skipLayout
  let flags ← Parser.flags
  let body : Parser Piece := do
    let piece ← inner
    Reader.expect [')']
    Parser.setFlags flags
    pure piece.group
  let named ← do
    if ← Reader.accept ['?', 'P', '<'] then pure true else Reader.accept ['?', '<']
  if named then
    groupName
    body
  else if ← Reader.accept ['?'] then
    let letters ← flagChange
    Parser.setFlags (flags.change letters)
    if ← Reader.accept [':'] then body
    else
      Reader.expect [')']
      Reader.require (!letters.isEmpty)
      pure { Piece.empty with repeatable := false }
  else body

/-! ## Expressions -/

/-- What has been read of an expression: the finished alternatives, and the
pieces of the one that is open. -/
structure OpenExpr where
  branches : List Piece := []
  items : List Piece := []

/-- The expression up to here. -/
def OpenExpr.close (e : OpenExpr) : Piece :=
  match e.branches ++ [Piece.concat e.items] with
  | [] => Piece.empty
  | first :: others => Piece.choice first others

/-- Reads an expression up to a closing parenthesis or the end of the text.
Groups in it are read by `inner`, and classes nested up to `depth` deep. -/
def alternatives (depth : Nat) (inner : Parser Piece) : Parser Piece :=
  Parser.repeated (fun (e : OpenExpr) => do
    let add (piece : Piece) : OpenExpr := { e with items := e.items ++ [piece] }
    let again (least : Nat) (most : Option Nat) : Parser (OpenExpr ⊕ Piece) := do
      let items ← repeatLast e.items least most
      let _ ← Reader.accept ['?']
      pure (.inl { e with items })
    skipLayout
    match ← Reader.peek? with
    | none | some ')' => pure (.inr e.close)
    | some '|' =>
      let _ ← Reader.next
      pure (.inl { branches := e.branches ++ [Piece.concat e.items] })
    | some '(' =>
      let _ ← Reader.next
      pure (.inl (add (← group inner)))
    | some '[' =>
      let _ ← Reader.next
      let piece ← bracketClass depth
      pure (.inl (add { Piece.ofSet piece.set piece.room with depth := piece.depth }))
    | some '?' =>
      let _ ← Reader.next
      again 0 (some 1)
    | some '*' =>
      let _ ← Reader.next
      again 0 none
    | some '+' =>
      let _ ← Reader.next
      again 1 none
    | some '\x7b' =>
      let _ ← Reader.next
      let (least, most) ← counts
      skipLayout
      again least most
    | some _ => pure (.inl (add (← atom)))) {}

/-- Reads an expression whose groups are nested at most `depth` deep. -/
def expression : (depth : Nat) → Parser Piece
  | 0 => Reader.fail
  | depth + 1 => alternatives (depth + 1) (expression depth)

/-- Why a regex cannot be compiled. -/
inductive RegexError where
  /-- It cannot be read at the place where so many characters are left. -/
  | unreadable (left : Nat)
  | tooDeep
  | tooLarge
  deriving DecidableEq, Repr

def RegexError.message (regex : String) : RegexError → String
  | unreadable left =>
    "regex parse error:\n    " ++ regex ++ "\nerror: unexpected character at " ++
      toString (regex.length - left)
  | tooDeep =>
    "regex parse error:\n    " ++ regex ++ "\nerror: more than " ++ toString maxDepth ++ " levels"
  | tooLarge => s!"Compiled regex exceeds size limit of {maxRoom} bytes."

def read (regex : List Char) : Except RegexError (Expr Leaf) := do
  match ((expression (maxDepth + 1)).run {}).run regex with
  | .error fault => throw (.unreadable fault.left)
  | .ok ((piece, _), rest) =>
    if !rest.isEmpty then throw (.unreadable rest.length)
    else if maxDepth < piece.depth then throw .tooDeep
    else if maxRoom < piece.room then throw .tooLarge
    else pure piece.expr

/-- The test whether a regex matches somewhere in a text, or why there is none. -/
def compile (regex : String) : Except String (List Char → Bool) :=
  match read regex.toList with
  | .ok expr => .ok (isMatch expr)
  | .error e => .error (e.message regex)

end UrlTemplate.Regex
