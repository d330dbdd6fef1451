import UrlTemplate.SortWithin
import UrlTemplate.Text.Order

/-!
# Sorting some of the entries of a list

What `sortWithin` does to every list, for entries that are made of nothing but the value they
carry, and an order in which only equal values come neither before nor after each other.

* `IsLinear.mergeSort_congr`: sorting in such an order does not depend on how the values come.
* `eq_of_shape`: a list is given by its shape and by its values in order.
* `sortWithin_eq_iff`: lists become equal exactly if they have one shape and, in some order, the
  same values.
* `sortsWithin_sortWithin`: all of this, as it holds of the sort of a kind of entry.
-/

namespace UrlTemplate

variable {τ κ : Type}

/-! ## Orders -/

/-- The relation is a total order. -/
structure IsLinear (le : κ → κ → Bool) : Prop where
  total : ∀ a b, (le a b || le b a) = true
  trans : ∀ {a b c}, le a b → le b c → le a c
  antisymm : ∀ {a b}, le a b → le b a → a = b

namespace IsLinear

variable {le : κ → κ → Bool}

theorem pairwise_mergeSort (h : IsLinear le) (ks : List κ) :
    (ks.mergeSort le).Pairwise fun a b => le a b := by
  have htrans : ∀ a b c, le a b → le b c → le a c := fun _ _ _ => h.trans
  exact List.pairwise_mergeSort htrans h.total ks

/-- Sorting does not depend on the order in which the values come. -/
theorem mergeSort_congr (h : IsLinear le) {as bs : List κ} (hperm : as.Perm bs) :
    as.mergeSort le = bs.mergeSort le := by
  have hsorts : (as.mergeSort le).Perm (bs.mergeSort le) :=
    (List.mergeSort_perm as le).trans (hperm.trans (List.mergeSort_perm bs le).symm)
  apply hsorts.eq_of_pairwise _ (h.pairwise_mergeSort as) (h.pairwise_mergeSort bs)
  intro a b _ _ hab hba
  exact h.antisymm hab hba

end IsLinear

theorem isLinear_textLe : IsLinear textLe := ⟨textLe_total, textLe_trans, textLe_antisymm⟩

/-! ## Shapes -/

/-- Some entries are made of the value that `pick` finds in them and nothing else. -/
structure Carries (pick : τ → Option κ) (wrap : κ → τ) : Prop where
  pick_wrap : ∀ k, pick (wrap k) = some k
  eq_wrap : ∀ {t k}, pick t = some k → t = wrap k

/-- A list without its values: the other entries stay at their places. -/
def shape (pick : τ → Option κ) (ts : List τ) : List (Option τ) :=
  ts.map fun t => if (pick t).isSome then none else some t

section

variable {pick : τ → Option κ} {wrap : κ → τ}

theorem shape_cons_none {t : τ} (h : pick t = none) (ts : List τ) :
    shape pick (t :: ts) = some t :: shape pick ts := by
  simp [shape, h]

theorem shape_cons_some {t : τ} {k : κ} (h : pick t = some k) (ts : List τ) :
    shape pick (t :: ts) = none :: shape pick ts := by
  simp [shape, h]

/-- Entries without a value are seen in the shape. -/
theorem getElem?_shape_eq_some {ts : List τ} {i : Nat} {t : τ} :
    (shape pick ts)[i]? = some (some t) ↔ ts[i]? = some t ∧ pick t = none := by
  rw [shape, List.getElem?_map, Option.map_eq_some_iff]
  constructor
  · rintro ⟨u, hu, h⟩
    split at h
    · cases h
    · rename_i hpick
      cases h
      exact ⟨hu, by simpa using hpick⟩
  · rintro ⟨hi, ht⟩
    exact ⟨t, hi, by simp [ht]⟩

/-- A list is given by its shape and by its values in order. -/
theorem eq_of_shape (h : Carries pick wrap) {as bs : List τ} (hs : shape pick as = shape pick bs)
    (hk : as.filterMap pick = bs.filterMap pick) : as = bs := by
  induction as generalizing bs with
  | nil =>
    cases bs with
    | nil => rfl
    | cons b bs => simp [shape] at hs
  | cons a as ih =>
    cases bs with
    | nil => simp [shape] at hs
    | cons b bs =>
      cases ha : pick a with
      | none =>
        cases hb : pick b with
        | none =>
          rw [shape_cons_none ha, shape_cons_none hb, List.cons.injEq, Option.some.injEq] at hs
          rw [List.filterMap_cons_none ha, List.filterMap_cons_none hb] at hk
          rw [hs.1, ih hs.2 hk]
        | some k =>
          rw [shape_cons_none ha, shape_cons_some hb] at hs
          cases (List.cons.inj hs).1
      | some k =>
        cases hb : pick b with
        | none =>
          rw [shape_cons_some ha, shape_cons_none hb] at hs
          cases (List.cons.inj hs).1
        | some l =>
          rw [shape_cons_some ha, shape_cons_some hb, List.cons.injEq] at hs
          rw [List.filterMap_cons_some ha, List.filterMap_cons_some hb, List.cons.injEq] at hk
          rw [h.eq_wrap ha, h.eq_wrap hb, hk.1, ih hs.2 hk.2]

/-! ## Refilling -/

theorem shape_refill (h : Carries pick wrap) (ts : List τ) (ks : List κ) :
    shape pick (refill pick wrap ts ks) = shape pick ts := by
  induction ts generalizing ks with
  | nil => rfl
  | cons t ts ih =>
    cases ht : pick t with
    | none => rw [refill_cons_none ht, shape_cons_none ht, shape_cons_none ht, ih]
    | some k =>
      cases ks with
      | nil => rw [refill_nil_right]
      | cons k' ks =>
        rw [refill_cons_some ht, shape_cons_some (h.pick_wrap k'), shape_cons_some ht, ih]

/-- The values put in are the values found afterwards, if there is one for each place. -/
theorem filterMap_refill (h : Carries pick wrap) {ts : List τ} {ks : List κ}
    (hlen : ks.length = (ts.filterMap pick).length) :
    (refill pick wrap ts ks).filterMap pick = ks := by
  induction ts generalizing ks with
  | nil => exact (List.length_eq_zero_iff.mp hlen).symm
  | cons t ts ih =>
    cases ht : pick t with
    | none =>
      rw [List.filterMap_cons_none ht] at hlen
      rw [refill_cons_none ht, List.filterMap_cons_none ht, ih hlen]
    | some k =>
      rw [List.filterMap_cons_some ht] at hlen
      cases ks with
      | nil => cases hlen
      | cons k' ks =>
        rw [refill_cons_some ht, List.filterMap_cons_some (h.pick_wrap k'), ih (Nat.succ.inj hlen)]

/-! ## Sorting -/

variable {le : κ → κ → Bool}

theorem shape_sortWithin (h : Carries pick wrap) (le : κ → κ → Bool) (ts : List τ) :
    shape pick (sortWithin pick wrap le ts) = shape pick ts :=
  shape_refill h ts _

theorem filterMap_sortWithin (h : Carries pick wrap) (le : κ → κ → Bool) (ts : List τ) :
    (sortWithin pick wrap le ts).filterMap pick = (ts.filterMap pick).mergeSort le :=
  filterMap_refill h (List.length_mergeSort _)

/-- The sorted list is the one of the same shape with the sorted values. -/
theorem sortWithin_eq_of_shape (h : Carries pick wrap) {as bs : List τ}
    (hs : shape pick as = shape pick bs)
    (hk : bs.filterMap pick = (as.filterMap pick).mergeSort le) :
    sortWithin pick wrap le as = bs := by
  apply eq_of_shape h
  · rw [shape_sortWithin h, hs]
  · rw [filterMap_sortWithin h, hk]

theorem sortWithin_eq_iff (h : Carries pick wrap) (hle : IsLinear le) (as bs : List τ) :
    sortWithin pick wrap le as = sortWithin pick wrap le bs ↔
      shape pick as = shape pick bs ∧ (as.filterMap pick).Perm (bs.filterMap pick) := by
  constructor
  · intro heq
    have hks := congrArg (List.filterMap pick) heq
    rw [filterMap_sortWithin h, filterMap_sortWithin h] at hks
    constructor
    · rw [← shape_sortWithin h le as, heq, shape_sortWithin h]
    · exact (List.mergeSort_perm _ le).symm.trans (hks ▸ List.mergeSort_perm _ le)
  · rintro ⟨hs, hperm⟩
    apply sortWithin_eq_of_shape h
    · rw [hs, shape_sortWithin h]
    · rw [filterMap_sortWithin h, hle.mergeSort_congr hperm]

end

/-- What it means to sort the values that `pick` finds in a list, and nothing else. -/
structure SortsWithin (pick : τ → Option κ) (Before : κ → κ → Prop) (sort : List τ → List τ) :
    Prop where
  length_eq : ∀ ts, (sort ts).length = ts.length
  /-- Entries without a value stay at their places. -/
  getElem?_eq : ∀ (ts : List τ) (i : Nat) (t : τ),
    ts[i]? = some t → pick t = none → (sort ts)[i]? = some t
  /-- The values are those of the list. -/
  perm : ∀ ts, ((sort ts).filterMap pick).Perm (ts.filterMap pick)
  pairwise : ∀ ts, ((sort ts).filterMap pick).Pairwise Before
  idem : ∀ ts, sort (sort ts) = sort ts
  /-- Nothing but the shape and the values counts. -/
  eq_iff : ∀ as bs, sort as = sort bs ↔
    shape pick as = shape pick bs ∧ (as.filterMap pick).Perm (bs.filterMap pick)

theorem sortsWithin_sortWithin {pick : τ → Option κ} {wrap : κ → τ} {le : κ → κ → Bool}
    (h : Carries pick wrap) (hle : IsLinear le) :
    SortsWithin pick (fun a b => le a b) (sortWithin pick wrap le) where
  length_eq ts := length_refill _ _ _ _
  getElem?_eq ts i t hi ht := by
    have hplace := getElem?_shape_eq_some.mpr ⟨hi, ht⟩
    rw [← shape_sortWithin h le ts] at hplace
    exact (getElem?_shape_eq_some.mp hplace).1
  perm ts := filterMap_sortWithin h le ts ▸ List.mergeSort_perm _ le
  pairwise ts := filterMap_sortWithin h le ts ▸ hle.pairwise_mergeSort _
  idem ts := by
    rw [sortWithin_eq_iff h hle]
    exact ⟨shape_sortWithin h le ts, filterMap_sortWithin h le ts ▸ List.mergeSort_perm _ le⟩
  eq_iff := sortWithin_eq_iff h hle

end UrlTemplate
