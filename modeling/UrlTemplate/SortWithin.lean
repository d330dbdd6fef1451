/-! # Sorting some of the entries of a list

`sortWithin` sorts the values that some entries of a list carry and leaves the
other entries where they are: the sorted values go, in order, to the places
the values came from.
-/

namespace UrlTemplate

variable {τ κ : Type}

/-- Puts the values `ks`, in order, into the places where `pick` finds one. -/
def refill (pick : τ → Option κ) (wrap : κ → τ) : List τ → List κ → List τ
  | [], _ => []
  | t :: ts, ks =>
    match pick t, ks with
    | some _, k :: ks => wrap k :: refill pick wrap ts ks
    | _, ks => t :: refill pick wrap ts ks

/-- Sorts the values that `pick` finds, each going to a place of one of them. -/
def sortWithin (pick : τ → Option κ) (wrap : κ → τ) (le : κ → κ → Bool) (ts : List τ) :
    List τ :=
  refill pick wrap ts ((ts.filterMap pick).mergeSort le)

@[simp] theorem length_refill (pick : τ → Option κ) (wrap : κ → τ) (ts : List τ) (ks : List κ) :
    (refill pick wrap ts ks).length = ts.length := by
  fun_induction refill pick wrap ts ks <;> simp_all

@[simp] theorem refill_nil_right (pick : τ → Option κ) (wrap : κ → τ) (ts : List τ) :
    refill pick wrap ts [] = ts := by
  induction ts with
  | nil => rfl
  | cons t ts ih => simp [refill, ih]

theorem refill_cons_none {pick : τ → Option κ} {t : τ} (h : pick t = none) (wrap : κ → τ)
    (ts : List τ) (ks : List κ) :
    refill pick wrap (t :: ts) ks = t :: refill pick wrap ts ks := by
  simp [refill, h]

theorem refill_cons_some {pick : τ → Option κ} {t : τ} {k : κ} (h : pick t = some k)
    (wrap : κ → τ) (ts : List τ) (k' : κ) (ks : List κ) :
    refill pick wrap (t :: ts) (k' :: ks) = wrap k' :: refill pick wrap ts ks := by
  simp [refill, h]

/-- Entries that `pick` passes over stay. -/
theorem refill_append_of_none {pick : τ → Option κ} {a : List τ} (h : ∀ t ∈ a, pick t = none)
    (wrap : κ → τ) (b : List τ) (ks : List κ) :
    refill pick wrap (a ++ b) ks = a ++ refill pick wrap b ks := by
  induction a with
  | nil => rfl
  | cons t a ih =>
    rw [List.cons_append, refill_cons_none (h t List.mem_cons_self),
      ih fun u hu => h u (List.mem_cons_of_mem _ hu), List.cons_append]

end UrlTemplate
