/-! # Reading text from the front

A `Reader` takes characters from the front of a text and fails at a place in
it. Repetition goes through `repeatUpTo`, which runs a step again and again as
long as there can be text left for it.
-/

namespace UrlTemplate

/-- Where a text stops being readable: how many characters are left there. -/
structure Reader.Fault where
  left : Nat
  deriving DecidableEq, Repr

/-- Reads from the front of a text. -/
abbrev Reader := StateT (List Char) (Except Reader.Fault)

namespace Reader

variable {α σ ρ : Type}

def fail : Reader α := do
  let rest ← get
  throw { left := rest.length }

/-- Reads on only if the condition holds. -/
def require (condition : Bool) : Reader Unit := if condition then pure () else fail

/-- The next character, which stays in the text. -/
def peek? : Reader (Option Char) := List.head? <$> get

def next : Reader Char := do
  match ← get with
  | c :: rest => set rest; pure c
  | [] => fail

def take (n : Nat) : Reader (List Char) := do
  let rest ← get
  require (n ≤ rest.length)
  set (rest.drop n)
  pure (rest.take n)

/-- Takes a given text, if it is the next one; says whether it was. -/
def accept (expected : List Char) : Reader Bool := do
  let rest ← get
  if expected.isPrefixOf rest then
    set (rest.drop expected.length)
    pure true
  else
    pure false

/-- Takes a given text, which must be the next one. -/
def expect (expected : List Char) : Reader Unit := do require (← accept expected)

/-- Takes characters as long as they satisfy `p`. -/
def span (p : Char → Bool) : Reader (List Char) := do
  let rest ← get
  set (rest.dropWhile p)
  pure (rest.takeWhile p)

/-- Runs a step up to `fuel` times, until it gives a result. -/
def repeatUpTo {m : Type → Type} [Monad m] (giveUp : m ρ) (step : σ → m (σ ⊕ ρ)) :
    Nat → σ → m ρ
  | 0, _ => giveUp
  | fuel + 1, s => do
    match ← step s with
    | .inl s => repeatUpTo giveUp step fuel s
    | .inr r => pure r

/-- Runs a step until it gives a result. A step that gives none takes at least
one character, so there are at most as many steps as characters, and one more. -/
def repeated (step : σ → Reader (σ ⊕ ρ)) (s : σ) : Reader ρ := do
  repeatUpTo fail step ((← get).length + 1) s

end Reader

end UrlTemplate
