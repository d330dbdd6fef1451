import UrlTemplate.CommandLine.Run
import UrlTemplate.Proofs.Config.Checked

/-!
# Sessions step by step

A session has a value, which may be a failure, and a log of what it does. Both follow from those of
its steps, of which the ones behind a failure do not take place.

* `Session.value`, `Session.log`: what a session comes to, and what it does.
* `Session.value_bind`, `Session.log_bind`: one step after the other.
* `Session.log_mapM`: steps that go well, one for each member of a list.
* `Session.Does`, `Session.IsSilent`: what holds of all that a session does.
* `Session.shown`: what it does at the default verbosity, where records are not shown.
* `Session.outcome_of_ok`: how a run that goes well ends.
-/

namespace UrlTemplate.CommandLine

open Scan (bind_eq_ok_iff)

variable {α β : Type}

namespace Session

/-- What a session comes to. -/
def value (s : Session α) : Except Failure α := (ExceptT.run s).value

/-- What a session does. -/
def log (s : Session α) : List Event := (ExceptT.run s).log

@[simp] theorem value_pure (a : α) : value (pure a) = .ok a := rfl

@[simp] theorem log_pure (a : α) : log (pure a : Session α) = [] := rfl

@[simp] theorem value_throw (e : Failure) : value (throw e : Session α) = .error e := rfl

@[simp] theorem log_throw (e : Failure) : log (throw e : Session α) = [] := rfl

@[simp] theorem value_act (event : Event) : value (act event) = .ok () := rfl

@[simp] theorem log_act (event : Event) : log (act event) = [event] := rfl

@[simp] theorem value_logged (x : Logged α) : value (logged x) = .ok x.value := rfl

@[simp] theorem log_logged (x : Logged α) : log (logged x) = x.log.map .record :=
  List.append_nil _

theorem value_bind (s : Session α) (f : α → Session β) :
    value (s >>= f) = value s >>= fun a => value (f a) := by
  unfold value
  rw [ExceptT.run_bind, Traced.value_bind]
  cases (ExceptT.run s).value <;> rfl

/-- Behind a failure, nothing is done. -/
theorem log_bind (s : Session α) (f : α → Session β) :
    log (s >>= f) = log s ++ ((value s).toOption.map fun a => log (f a)).getD [] := by
  unfold value log
  rw [ExceptT.run_bind, Traced.log_bind]
  cases (ExceptT.run s).value <;> rfl

variable {s : Session α} {f : α → Session β} {a : α}

theorem value_bind_of_ok (h : value s = .ok a) : value (s >>= f) = value (f a) := by
  rw [value_bind, h]
  rfl

theorem log_bind_of_ok (h : value s = .ok a) : log (s >>= f) = log s ++ log (f a) := by
  rw [log_bind, h]
  rfl

/-- A step that is checked gives what it comes to, be it an error. -/
theorem value_bind_checked (x : Checked α) (f : Except ConfigError α → Session β) :
    value (logged x.run >>= f) = value (f (Checked.value x)) :=
  value_bind_of_ok (value_logged x.run)

theorem value_forM {f : α → Session Unit} {l : List α} (h : ∀ a ∈ l, value (f a) = .ok ()) :
    value (l.forM f) = .ok () := by
  induction l with
  | nil => rfl
  | cons a l ih =>
    obtain ⟨ha, hl⟩ := List.forall_mem_cons.mp h
    exact (value_bind_of_ok ha).trans (ih hl)

/-- Steps that go well, one for each member of a list. -/
theorem value_mapM {g : α → β} {l : List α} (h : ∀ a ∈ l, value (f a) = .ok (g a)) :
    value (l.mapM f) = .ok (l.map g) := by
  induction l with
  | nil => rfl
  | cons a l ih =>
    obtain ⟨ha, hl⟩ := List.forall_mem_cons.mp h
    rw [List.mapM_cons, value_bind_of_ok ha, value_bind_of_ok (ih hl)]
    rfl

theorem log_mapM {g : α → β} {l : List α} (h : ∀ a ∈ l, value (f a) = .ok (g a)) :
    log (l.mapM f) = l.flatMap fun a => log (f a) := by
  induction l with
  | nil => rfl
  | cons a l ih =>
    obtain ⟨ha, hl⟩ := List.forall_mem_cons.mp h
    rw [List.mapM_cons, log_bind_of_ok ha, log_bind_of_ok (value_mapM hl), ih hl]
    simp

/-! ## What a session does -/

/-- Everything that a session does satisfies `P`. -/
def Does (P : Event → Prop) (s : Session α) : Prop := ∀ e ∈ log s, P e

variable {P : Event → Prop}

theorem does_pure (a : α) : Does P (pure a : Session α) := by simp [Does]

theorem does_throw (e : Failure) : Does P (throw e : Session α) := by simp [Does]

theorem does_act {event : Event} (h : P event) : Does P (act event) := by simpa [Does] using h

theorem does_logged (h : ∀ r, P (.record r)) (x : Logged α) : Does P (logged x) := by
  rw [Does, log_logged, List.forall_mem_map]
  exact fun r _ => h r

theorem Does.bind_of_value (hs : Does P s) (hf : ∀ a, value s = .ok a → Does P (f a)) :
    Does P (s >>= f) := by
  unfold Does
  rw [log_bind]
  refine List.forall_mem_append.mpr ⟨hs, ?_⟩
  cases hvalue : value s with
  | error e => exact nofun
  | ok a => exact hf a hvalue

theorem Does.bind (hs : Does P s) (hf : ∀ a, Does P (f a)) : Does P (s >>= f) :=
  hs.bind_of_value fun a _ => hf a

/-- A session that does nothing but write log records. -/
def IsSilent (s : Session α) : Prop := Does (fun e => ∃ r, e = .record r) s

theorem IsSilent.does (h : IsSilent s) (hP : ∀ r, P (.record r)) : Does P s := by
  intro e he
  obtain ⟨r, rfl⟩ := h e he
  exact hP r

theorem isSilent_debug (text : String) : IsSilent (debug text) := does_act ⟨_, rfl⟩

theorem isSilent_logged (x : Logged α) : IsSilent (logged x) := does_logged (fun r => ⟨r, rfl⟩) x

theorem isSilent_orFail (message : String) (x : Checked α) : IsSilent (orFail message x) :=
  Does.bind (isSilent_logged _) fun result => by
    cases result with
    | error e => exact does_throw _
    | ok a => exact does_pure a

theorem value_orFail_eq_ok_iff {message : String} {x : Checked α} :
    value (orFail message x) = .ok a ↔ Checked.value x = .ok a := by
  have hrun : value (orFail message x) = (Checked.value x).mapError fun e =>
      { message, causes := e.message :: e.cause?.toList } := by
    rw [orFail, value_bind_checked]
    cases Checked.value x <;> rfl
  rw [hrun, mapError_eq_ok_iff]

/-- A session complains only in such words. -/
def OnlyComplains (Q : String → Prop) (s : Session α) : Prop :=
  Does (fun e => ∀ text, e = .complain text → Q text) s

theorem IsSilent.onlyComplains (h : IsSilent s) (Q : String → Prop) : OnlyComplains Q s :=
  h.does fun _ _ h => nomatch h

/-! ## What is shown -/

/-- What a session does at the default verbosity. -/
def shown (s : Session α) : List Event := (log s).filter (·.takesPlace 0)

theorem IsSilent.shown_eq (h : IsSilent s) : shown s = [] := by
  refine List.filter_eq_nil_iff.mpr fun e he => ?_
  obtain ⟨r, rfl⟩ := h e he
  cases hlevel : r.level <;> simp [Event.takesPlace, isShownAt, hlevel]

theorem shown_bind_of_ok (h : value s = .ok a) : shown (s >>= f) = shown s ++ shown (f a) := by
  rw [shown, log_bind_of_ok h, List.filter_append]
  rfl

theorem outcome_eq (s : Session Bool) (verbosity : Nat) :
    s.outcome verbosity =
      match value s with
      | .ok good =>
        { code := if good then 0 else 1, events := (log s).filter (·.takesPlace verbosity) }
      | .error failure =>
        { code := 1
          events := (log s).filter (·.takesPlace verbosity) ++ [.complain failure.text] } := rfl

theorem outcome_of_ok {s : Session Bool} {good : Bool} (h : value s = .ok good)
    (verbosity : Nat) :
    s.outcome verbosity =
      { code := if good then 0 else 1, events := (log s).filter (·.takesPlace verbosity) } := by
  rw [outcome_eq, h]

/-- A run ends well exactly if its session does. -/
theorem code_outcome_eq_zero_iff {s : Session Bool} {verbosity : Nat} :
    (s.outcome verbosity).code = 0 ↔ value s = .ok true := by
  rw [outcome_eq]
  cases value s with
  | error e => simp
  | ok good => cases good <;> simp

end Session

end UrlTemplate.CommandLine
