import UrlTemplate.Scan

/-!
# Runs of a scan

What a whole scan makes of a text follows from what its steps do.

* `go_index`: a step that does not look at its index scans alike from every index.
* `ok_cons_iff`: a scan that may fail succeeds if its first step and the rest do.
* `Fails`, `fails_iff`: how a scan comes to the step that fails.
-/

namespace UrlTemplate.Scan

variable {σ τ : Type}

/-- A step that does not look at its index scans alike from every index. -/
theorem go_index {m : Type → Type} [Monad m] {step : View σ → m (Reply σ τ)}
    (h : ∀ v n, step { v with index := n } = step v) (text : List Char) (i j : Nat)
    (p : Pending σ) : go step i p text = go step j p text := by
  induction text generalizing i j p with
  | nil =>
    rw [go, go, ← h (p.view j []) i]
    rfl
  | cons c rest ih =>
    rw [go, go]
    split
    · exact ih _ _ _
    · split
      · exact ih _ _ _
      · rw [← h (p.view j (c :: rest)) i]
        exact bind_congr fun reply => by rw [ih (i + 1) (j + 1)]

section

variable {m : Type → Type} [Monad m] {step : View σ → m (Reply σ τ)} {p : Pending σ}

/-- The next character is passed over, taken literally or asked about. -/
theorem Pending.skip_or_escape_or_free (p : Pending σ) :
    0 < p.skip ∨ p.skip = 0 ∧ p.escape = true ∨ p.skip = 0 ∧ p.escape = false := by
  obtain hs | hs := Nat.eq_zero_or_pos p.skip
  · cases he : p.escape with
    | true => exact .inr (.inl ⟨hs, rfl⟩)
    | false => exact .inr (.inr ⟨hs, rfl⟩)
  · exact .inl hs

theorem go_skip (h : 0 < p.skip) (i : Nat) (c : Char) (rest : List Char) :
    go step i p (c :: rest) = go step (i + 1) { p with skip := p.skip - 1 } rest := by
  rw [go, if_pos h]

theorem go_escape (hs : p.skip = 0) (he : p.escape = true) (i : Nat) (c : Char)
    (rest : List Char) :
    go step i p (c :: rest) =
      go step (i + 1) { p with escape := false, literal := p.literal ++ [c] } rest := by
  rw [go, if_neg (by omega), if_pos he]

theorem go_step (hs : p.skip = 0) (he : p.escape = false) (i : Nat) (c : Char)
    (rest : List Char) :
    go step i p (c :: rest) = step (p.view i (c :: rest)) >>= fun reply =>
      go step (i + 1) (p.after reply c) rest >>= fun more => pure (reply.emit ++ more) := by
  rw [go, if_neg (by omega), if_neg (by simp [he])]

end

/-! ## Scans that may fail -/

variable {ε : Type} {step : View σ → Except ε (Reply σ τ)} {i : Nat} {p : Pending σ}
  {c : Char} {rest : List Char} {ts : List τ}

theorem bind_eq_ok_iff {α β : Type} {x : Except ε α} {f : α → Except ε β} {b : β} :
    (x >>= f) = .ok b ↔ ∃ a, x = .ok a ∧ f a = .ok b := by
  cases x with
  | error e => exact ⟨nofun, nofun⟩
  | ok a => exact ⟨fun h => ⟨a, rfl, h⟩, fun ⟨_, ha, h⟩ => Except.ok.inj ha ▸ h⟩

theorem bind_eq_error_iff {α β : Type} {x : Except ε α} {f : α → Except ε β} {e : ε} :
    (x >>= f) = .error e ↔ x = .error e ∨ ∃ a, x = .ok a ∧ f a = .error e := by
  cases x with
  | error e' =>
    refine ⟨fun h => .inl (congrArg Except.error (Except.error.inj h)), ?_⟩
    rintro (h | ⟨a, h, -⟩)
    · exact congrArg Except.error (Except.error.inj h)
    · cases h
  | ok a =>
    refine ⟨fun h => .inr ⟨a, rfl, h⟩, ?_⟩
    rintro (h | ⟨a', h, he⟩)
    · cases h
    · exact Except.ok.inj h ▸ he

theorem map_eq_ok_iff {α β : Type} {x : Except ε α} {f : α → β} {b : β} :
    f <$> x = .ok b ↔ ∃ a, x = .ok a ∧ b = f a := by
  cases x with
  | error e => exact ⟨nofun, nofun⟩
  | ok a =>
    refine ⟨fun h => ⟨a, rfl, (Except.ok.inj h).symm⟩, ?_⟩
    rintro ⟨_, ha, rfl⟩
    exact congrArg _ (congrArg f (Except.ok.inj ha))

theorem map_eq_error_iff {α β : Type} {x : Except ε α} {f : α → β} {e : ε} :
    f <$> x = .error e ↔ x = .error e := by
  cases x with
  | error e' =>
    have hinj : ∀ {γ : Type}, (Except.error e' : Except ε γ) = .error e ↔ e' = e :=
      ⟨Except.error.inj, congrArg _⟩
    exact hinj.trans hinj.symm
  | ok a => exact ⟨nofun, nofun⟩

theorem ok_nil_iff :
    go step i p [] = .ok ts ↔ ∃ reply, step (p.view i []) = .ok reply ∧ ts = reply.emit := by
  rw [go, bind_eq_ok_iff]
  refine exists_congr fun reply => and_congr_right fun _ => ?_
  exact ⟨fun h => (Except.ok.inj h).symm, fun h => congrArg Except.ok h.symm⟩

theorem ok_cons_iff (hs : p.skip = 0) (he : p.escape = false) :
    go step i p (c :: rest) = .ok ts ↔
      ∃ reply more, step (p.view i (c :: rest)) = .ok reply ∧
        go step (i + 1) (p.after reply c) rest = .ok more ∧ ts = reply.emit ++ more := by
  rw [go_step hs he, bind_eq_ok_iff]
  refine exists_congr fun reply => ?_
  rw [bind_eq_ok_iff, exists_and_left]
  refine and_congr_right fun _ => exists_congr fun more => and_congr_right fun _ => ?_
  exact ⟨fun h => (Except.ok.inj h).symm, fun h => congrArg Except.ok h.symm⟩

/-! ## Scans that fail -/

/-- How a scan fails with `e`: its place and what it carries go along the text, up to the step that
fails. -/
inductive Fails (step : View σ → Except ε (Reply σ τ)) (e : ε) : Nat → Pending σ → List Char → Prop
  | finish {i : Nat} {p : Pending σ} (h : step (p.view i []) = .error e) : Fails step e i p []
  | here {i : Nat} {p : Pending σ} {c : Char} {rest : List Char} (hs : p.skip = 0)
    (he : p.escape = false) (h : step (p.view i (c :: rest)) = .error e) :
    Fails step e i p (c :: rest)
  | skipped {i : Nat} {p : Pending σ} {c : Char} {rest : List Char} (hs : 0 < p.skip)
    (h : Fails step e (i + 1) { p with skip := p.skip - 1 } rest) : Fails step e i p (c :: rest)
  | escaped {i : Nat} {p : Pending σ} {c : Char} {rest : List Char} (hs : p.skip = 0)
    (he : p.escape = true)
    (h : Fails step e (i + 1) { p with escape := false, literal := p.literal ++ [c] } rest) :
    Fails step e i p (c :: rest)
  | later {i : Nat} {p : Pending σ} {c : Char} {rest : List Char} {reply : Reply σ τ}
    (hs : p.skip = 0) (he : p.escape = false) (hr : step (p.view i (c :: rest)) = .ok reply)
    (h : Fails step e (i + 1) (p.after reply c) rest) : Fails step e i p (c :: rest)

theorem fails_iff {e : ε} {text : List Char} :
    Fails step e i p text ↔ go step i p text = .error e := by
  constructor
  · intro h
    induction h with
    | finish h => exact bind_eq_error_iff.mpr (.inl h)
    | here hs he h =>
      rw [go_step hs he]
      exact bind_eq_error_iff.mpr (.inl h)
    | skipped hs _ ih => rw [go_skip hs, ih]
    | escaped hs he _ ih => rw [go_escape hs he, ih]
    | later hs he hr _ ih =>
      rw [go_step hs he]
      exact bind_eq_error_iff.mpr (.inr ⟨_, hr, bind_eq_error_iff.mpr (.inl ih)⟩)
  · intro h
    induction text generalizing i p with
    | nil =>
      obtain h | ⟨reply, -, h⟩ := bind_eq_error_iff.mp h
      · exact .finish h
      · cases h
    | cons c rest ih =>
      obtain hs | ⟨hs, he⟩ | ⟨hs, he⟩ := p.skip_or_escape_or_free
      · rw [go_skip hs] at h
        exact .skipped hs (ih h)
      · rw [go_escape hs he] at h
        exact .escaped hs he (ih h)
      · rw [go_step hs he] at h
        obtain h | ⟨reply, hr, h⟩ := bind_eq_error_iff.mp h
        · exact .here hs he h
        obtain h | ⟨more, -, h⟩ := bind_eq_error_iff.mp h
        · exact .later hs he hr (ih h)
        · cases h

end UrlTemplate.Scan
