/-! # Computations that keep a log

What a computation reports on the way is part of its result: `Traced ε α` is a
value together with the events that happened while it was made, in order. The
events of `Logged` are log records.
-/

namespace UrlTemplate

/-- A value and what happened while it was made. -/
structure Traced (ε α : Type) where
  value : α
  log : List ε := []

namespace Traced

variable {ε α β : Type}

instance : Monad (Traced ε) where
  pure value := { value }
  bind x f := { value := (f x.value).value, log := x.log ++ (f x.value).log }

instance : LawfulMonad (Traced ε) :=
  LawfulMonad.mk' (Traced ε)
    (by intro α x; simp [Functor.map])
    (by intro α β a f; simp [Pure.pure, Bind.bind])
    (by intro α β γ x f g; simp [Bind.bind, List.append_assoc])

def event (e : ε) : Traced ε Unit := { value := (), log := [e] }

/-- The same value, with its events seen as others. -/
def mapLog {ε' : Type} (f : ε → ε') (x : Traced ε α) : Traced ε' α :=
  { value := x.value, log := x.log.map f }

@[simp] theorem value_pure (a : α) : (pure a : Traced ε α).value = a := rfl

@[simp] theorem log_pure (a : α) : (pure a : Traced ε α).log = [] := rfl

@[simp] theorem value_bind (x : Traced ε α) (f : α → Traced ε β) :
    (x >>= f).value = (f x.value).value := rfl

@[simp] theorem log_bind (x : Traced ε α) (f : α → Traced ε β) :
    (x >>= f).log = x.log ++ (f x.value).log := rfl

@[simp] theorem value_event (e : ε) : (event e).value = () := rfl

@[simp] theorem log_event (e : ε) : (event e).log = [e] := rfl

@[simp] theorem value_mapLog {ε' : Type} (f : ε → ε') (x : Traced ε α) :
    (x.mapLog f).value = x.value := rfl

@[simp] theorem log_mapLog {ε' : Type} (f : ε → ε') (x : Traced ε α) :
    (x.mapLog f).log = x.log.map f := rfl

end Traced

/-- How much detail a record gives. -/
inductive Level where
  | debug
  | trace
  deriving DecidableEq, Repr

def Level.name : Level → String
  | debug => "DEBUG"
  | trace => "TRACE"

structure Record where
  level : Level
  text : String
  deriving DecidableEq, Repr

def Record.line (r : Record) : String := "[" ++ r.level.name ++ "] " ++ r.text

/-- A value and the log records written while it was made. -/
abbrev Logged := Traced Record

def Logged.write (level : Level) (text : String) : Logged Unit := Traced.event { level, text }

end UrlTemplate
