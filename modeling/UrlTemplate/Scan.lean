/-! # Scanning with protected and skipped characters

`Scan.run` walks a text from left to right and asks a step function what each
position means. A step sees the characters ahead of it, the literal text
gathered so far and a state of the caller's own; it answers with tokens to
emit and with what should happen to the characters that follow: how many are
passed over, and whether the next one is taken literally. Past the last
character the step is asked once more, with nothing ahead. That last question
is always put, whatever skips and protections are still open.
-/

namespace UrlTemplate.Scan

/-- What a step sees. -/
structure View (σ : Type) where
  /-- How many characters stand before this position. -/
  index : Nat
  /-- The characters from this position on; empty at the end of the text. -/
  ahead : List Char
  /-- The literal text gathered since it was last taken. -/
  literal : List Char
  state : σ

variable {σ τ : Type} {m : Type → Type}

/-- The character `n` places ahead, `none` past the end of the text. -/
def View.peek (v : View σ) (n : Nat) : Option Char := v.ahead[n]?

/-- The character at this position, `none` at the end of the text. -/
def View.symbol (v : View σ) : Option Char := v.ahead.head?

def View.hasLiteral (v : View σ) : Bool := !v.literal.isEmpty

/-- What a step answers. -/
structure Reply (σ τ : Type) where
  /-- The caller's state from here on. -/
  state : σ
  emit : List τ := []
  /-- The gathered literal text has been used up. -/
  take : Bool := false
  /-- The character at this position joins the literal text. -/
  keep : Bool := false
  /-- How many of the following characters are passed over. -/
  skip : Nat := 0
  /-- The first character that is not passed over joins the literal text unseen. -/
  escape : Bool := false

/-- What a scan carries from one position to the next. -/
structure Pending (σ : Type) where
  state : σ
  literal : List Char := []
  skip : Nat := 0
  escape : Bool := false

def Pending.view (p : Pending σ) (index : Nat) (ahead : List Char) : View σ :=
  { index, ahead, literal := p.literal, state := p.state }

/-- What is carried on from a step at the character `c`. -/
def Pending.after (p : Pending σ) (reply : Reply σ τ) (c : Char) : Pending σ :=
  let literal := if reply.take then [] else p.literal
  { state := reply.state
    literal := if reply.keep then literal ++ [c] else literal
    skip := reply.skip
    escape := reply.escape }

/-- Scans the rest of a text. -/
def go [Monad m] (step : View σ → m (Reply σ τ)) (index : Nat) (p : Pending σ) :
    List Char → m (List τ)
  | [] => do
    let reply ← step (p.view index [])
    pure reply.emit
  | c :: rest =>
    if 0 < p.skip then
      go step (index + 1) { p with skip := p.skip - 1 } rest
    else if p.escape then
      go step (index + 1) { p with escape := false, literal := p.literal ++ [c] } rest
    else do
      let reply ← step (p.view index (c :: rest))
      let more ← go step (index + 1) (p.after reply c) rest
      pure (reply.emit ++ more)

/-- The tokens that the steps emit on `text`, in order. -/
def run [Monad m] (step : View σ → m (Reply σ τ)) (state : σ) (text : List Char) :
    m (List τ) :=
  go step 0 { state } text

end UrlTemplate.Scan
