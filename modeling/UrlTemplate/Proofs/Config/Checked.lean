import Mathlib.Data.List.Forall2
import UrlTemplate.Config.Error
import UrlTemplate.Proofs.Scan

/-!
# Checked computations

A checked computation keeps a log and may fail. What it comes to, apart from the log, follows
from what its parts come to; a failure is that of the first part that fails.

* `Checked.value`: what a computation comes to.
* `Checked.value_bind`, `Checked.value_mapM`: one part after the other.
* `Checked.bind_congr_of_value`: what comes behind a part matters only for what the part gives.
* `mapM_eq_ok_iff`, `exists_mapM_iff`, `mapM_eq_error_iff`: a list of parts, of which one may fail.
-/

namespace UrlTemplate

open Scan (bind_eq_ok_iff bind_eq_error_iff)

variable {α β ε : Type}

theorem Traced.bind_congr_of_value {x : Traced ε α} {f g : α → Traced ε β}
    (h : f x.value = g x.value) : x >>= f = x >>= g := by
  change Traced.mk (f x.value).value (x.log ++ (f x.value).log) =
    Traced.mk (g x.value).value (x.log ++ (g x.value).log)
  rw [h]

namespace Checked

/-- What a computation comes to, apart from its log. -/
def value (x : Checked α) : Except ConfigError α := (ExceptT.run x).value

@[simp] theorem value_pure (a : α) : value (pure a) = .ok a := rfl

@[simp] theorem value_throw (e : ConfigError) : value (throw e : Checked α) = .error e := rfl

@[simp] theorem value_lift (x : Logged α) : value (liftM x : Checked α) = .ok x.value := rfl

theorem value_bind (x : Checked α) (f : α → Checked β) :
    value (x >>= f) = value x >>= fun a => value (f a) := by
  unfold value
  rw [ExceptT.run_bind, Traced.value_bind]
  cases (ExceptT.run x).value <;> rfl

/-- What a list of parts comes to follows from what the parts come to. -/
theorem value_mapM (f : α → Checked β) (l : List α) :
    value (l.mapM f) = l.mapM fun x => value (f x) := by
  induction l with
  | nil => rfl
  | cons x l ih =>
    simp only [List.mapM_cons, value_bind, ih]
    rfl

/-- What comes behind a part matters only for what the part gives. -/
theorem bind_congr_of_value {x : Checked α} {f g : α → Checked β}
    (h : ∀ a, value x = .ok a → f a = g a) : x >>= f = x >>= g := by
  refine ExceptT.ext ?_
  rw [ExceptT.run_bind, ExceptT.run_bind]
  refine Traced.bind_congr_of_value ?_
  cases hx : (ExceptT.run x).value with
  | error e => rfl
  | ok a => exact congrArg ExceptT.run (h a hx)

end Checked

theorem mapError_eq_ok_iff {ε' : Type} {f : ε → ε'} {x : Except ε α} {a : α} :
    x.mapError f = .ok a ↔ x = .ok a := by
  cases x with
  | error e => exact ⟨nofun, nofun⟩
  | ok b => exact ⟨fun h => congrArg Except.ok (Except.ok.inj h), fun h => h ▸ rfl⟩

/-! ## Lists of parts -/

variable {f : α → Except ε β} {l : List α}

/-- A list of parts gives what each of them gives. -/
theorem mapM_eq_ok_iff {ys : List β} :
    l.mapM f = .ok ys ↔ List.Forall₂ (fun x y => f x = .ok y) l ys := by
  induction l generalizing ys with
  | nil =>
    rw [List.mapM_nil, List.forall₂_nil_left_iff]
    exact ⟨fun h => (Except.ok.inj h).symm, fun h => congrArg Except.ok h.symm⟩
  | cons x l ih =>
    rw [List.mapM_cons, List.forall₂_cons_left_iff, bind_eq_ok_iff]
    constructor
    · rintro ⟨y, hy, h⟩
      obtain ⟨zs, hzs, h⟩ := bind_eq_ok_iff.mp h
      exact ⟨y, zs, hy, ih.mp hzs, (Except.ok.inj h).symm⟩
    · rintro ⟨y, zs, hy, hzs, rfl⟩
      exact ⟨y, hy, bind_eq_ok_iff.mpr ⟨zs, ih.mpr hzs, rfl⟩⟩

/-- A list of parts goes well if each of them does. -/
theorem exists_mapM_iff : (∃ ys, l.mapM f = .ok ys) ↔ ∀ x ∈ l, ∃ y, f x = .ok y := by
  simp only [mapM_eq_ok_iff]
  induction l with
  | nil => exact ⟨nofun, fun _ => ⟨[], .nil⟩⟩
  | cons x l ih =>
    rw [List.forall_mem_cons, ← ih]
    constructor
    · rintro ⟨_, hys⟩
      cases hys with
      | cons hy hys => exact ⟨⟨_, hy⟩, _, hys⟩
    · rintro ⟨⟨y, hy⟩, ys, hys⟩
      exact ⟨y :: ys, .cons hy hys⟩

/-- A list of parts fails as the first of them that does. -/
theorem mapM_eq_error_iff {e : ε} :
    l.mapM f = .error e ↔ ∃ before x after, l = before ++ x :: after ∧
      (∀ b ∈ before, ∃ y, f b = .ok y) ∧ f x = .error e := by
  induction l with
  | nil => simp [pure, Except.pure]
  | cons x l ih =>
    rw [List.mapM_cons, bind_eq_error_iff]
    constructor
    · rintro (hx | ⟨y, hy, h⟩)
      · exact ⟨[], x, l, rfl, by simp, hx⟩
      · obtain hl | ⟨ys, -, h⟩ := bind_eq_error_iff.mp h
        · obtain ⟨before, z, after, rfl, hbefore, hz⟩ := ih.mp hl
          exact ⟨x :: before, z, after, rfl, List.forall_mem_cons.mpr ⟨⟨y, hy⟩, hbefore⟩, hz⟩
        · cases h
    · rintro ⟨before, z, after, h, hbefore, hz⟩
      cases before with
      | nil =>
        cases h
        exact .inl hz
      | cons b before =>
        cases h
        obtain ⟨⟨y, hy⟩, hbefore⟩ := List.forall_mem_cons.mp hbefore
        have hl := ih.mpr ⟨before, z, after, rfl, hbefore, hz⟩
        exact .inr ⟨y, hy, bind_eq_error_iff.mpr (.inl hl)⟩

end UrlTemplate
