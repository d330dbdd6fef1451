import UrlTemplate.Proofs.SortWithin
import UrlTemplate.Proofs.Url.Split

/-!
# Sorting query entries

The order of query entries is total, and entries that come neither before nor after each
other are the same. Sorting the entries of a form's tokens sorts those of the form.

* `Param.le_ofRaw_append`: an entry comes before those that go on from it.
* `Param.isLinear_le`: the order is total, with ties between equal entries only.
* `sortParams_tokens`: the tokens are sorted where the form is.
-/

namespace UrlTemplate.Url

open Escape

/-! ## The order of entries -/

theorem lt_or_eq_of_textLe {a b : List Char} (h : textLe a b) : a < b ∨ a = b := by
  rw [textLe, Bool.not_eq_true', decide_eq_false_iff_not] at h
  exact List.le_iff_lt_or_eq.mp h

theorem text_trichotomy (a b : List Char) : a < b ∨ a = b ∨ b < a := by
  rcases Bool.or_eq_true_iff.mp (textLe_total a b) with h | h
  · exact (lt_or_eq_of_textLe h).imp_right .inl
  · exact .inr ((lt_or_eq_of_textLe h).symm.imp_left Eq.symm)

theorem textLe_append (w s : List Char) : textLe w (w ++ s) := by
  rw [textLe, Bool.not_eq_true', decide_eq_false_iff_not]
  exact List.le_append_left

theorem splitAtBare_bare {c : Char} (hc : c ≠ '\\') (d : Char) (rest : List Char) :
    splitAtBare d (c :: rest) =
      if c = d then some ([], rest)
      else (splitAtBare d rest).map fun (before, after) => (c :: before, after) := by
  rw [splitAtBare] <;> intros <;> exact absurd ‹_› hc

/-- A cut of a text is also one of a text that goes on from it. -/
theorem splitAtBare_append_some {d : Char} {w before after : List Char}
    (h : splitAtBare d w = some (before, after)) (s : List Char) :
    splitAtBare d (w ++ s) = some (before, after ++ s) := by
  obtain ⟨l, hl, rfl⟩ := exists_proper w
  induction l, hl using proper_induction generalizing before after with
  | nil => cases h
  | stray => cases h
  | pair c l _ ih =>
    obtain ⟨⟨b, a⟩, hb, heq⟩ := Option.map_eq_some_iff.mp h
    cases heq
    exact Option.map_eq_some_iff.mpr ⟨_, ih hb, rfl⟩
  | bare c l hc _ ih =>
    simp only [textOf_cons, Item.text, List.cons_append, List.nil_append] at h ⊢
    rw [splitAtBare_bare hc] at h ⊢
    split at h
    · cases h
      rw [if_pos ‹_›]
    · obtain ⟨⟨b, a⟩, hb, heq⟩ := Option.map_eq_some_iff.mp h
      cases heq
      rw [if_neg ‹_›, ih hb]
      rfl

/-- If a text has no cut, it stands before the cuts of those that go on from it. -/
theorem prefix_of_splitAtBare_append {d : Char} {w s before after : List Char}
    (h : splitAtBare d w = none) (h' : splitAtBare d (w ++ s) = some (before, after)) :
    w <+: before := by
  obtain ⟨l, hl, rfl⟩ := exists_proper w
  induction l, hl using proper_induction generalizing before after with
  | nil => exact List.nil_prefix
  | stray =>
    cases s with
    | nil => cases h'
    | cons c s =>
      obtain ⟨⟨b, a⟩, hb, heq⟩ := Option.map_eq_some_iff.mp h'
      cases heq
      exact ⟨c :: b, rfl⟩
  | pair c l _ ih =>
    obtain ⟨⟨b, a⟩, hb, heq⟩ := Option.map_eq_some_iff.mp h'
    cases heq
    exact List.prefix_append_right_inj ['\\', c] |>.mpr (ih (Option.map_eq_none_iff.mp h) hb)
  | bare c l hc _ ih =>
    simp only [textOf_cons, Item.text, List.cons_append, List.nil_append] at h h' ⊢
    rw [splitAtBare_bare hc] at h h'
    split at h
    · cases h
    · rw [if_neg ‹_›] at h'
      obtain ⟨⟨b, a⟩, hb, heq⟩ := Option.map_eq_some_iff.mp h'
      cases heq
      exact List.cons_prefix_cons.mpr ⟨rfl, ih (Option.map_eq_none_iff.mp h) hb⟩

namespace Param

theorem le_iff (p q : Param) :
    p.le q ↔ p.name < q.name ∨
      p.name = q.name ∧ (p.value < q.value ∨ p.value = q.value ∧ textLe p.raw q.raw) := by
  simp [Param.le]

theorem le_total (p q : Param) : (p.le q || q.le p) = true := by
  rw [Bool.or_eq_true, le_iff, le_iff]
  rcases text_trichotomy p.name q.name with hn | hn | hn
  · exact .inl (.inl hn)
  · rcases text_trichotomy p.value q.value with hv | hv | hv
    · exact .inl (.inr ⟨hn, .inl hv⟩)
    · rcases Bool.or_eq_true_iff.mp (textLe_total p.raw q.raw) with hr | hr
      · exact .inl (.inr ⟨hn, .inr ⟨hv, hr⟩⟩)
      · exact .inr (.inr ⟨hn.symm, .inr ⟨hv.symm, hr⟩⟩)
    · exact .inr (.inr ⟨hn.symm, .inl hv⟩)
  · exact .inr (.inl hn)

theorem le_trans {p q r : Param} (h : p.le q) (h' : q.le r) : p.le r := by
  rw [le_iff] at *
  rcases h with h | ⟨hn, h⟩
  · rcases h' with h' | ⟨hn', -⟩
    · exact .inl (List.lt_trans h h')
    · exact .inl (hn' ▸ h)
  · rcases h' with h' | ⟨hn', h'⟩
    · exact .inl (hn ▸ h')
    · refine .inr ⟨hn.trans hn', ?_⟩
      rcases h with h | ⟨hv, h⟩
      · rcases h' with h' | ⟨hv', -⟩
        · exact .inl (List.lt_trans h h')
        · exact .inl (hv' ▸ h)
      · rcases h' with h' | ⟨hv', h'⟩
        · exact .inl (hv ▸ h')
        · exact .inr ⟨hv.trans hv', textLe_trans h h'⟩

theorem le_antisymm {p q : Param} (h : p.le q) (h' : q.le p) : p = q := by
  rw [le_iff] at *
  obtain ⟨pr, pn, pv⟩ := p
  obtain ⟨qr, qn, qv⟩ := q
  simp only at h h'
  rcases h with h | ⟨rfl, h⟩
  · rcases h' with h' | ⟨rfl, -⟩
    · exact absurd h' (List.lt_asymm h)
    · exact absurd h (List.lt_irrefl _)
  · rcases h' with h' | ⟨-, h'⟩
    · exact absurd h' (List.lt_irrefl _)
    · rcases h with h | ⟨rfl, h⟩
      · rcases h' with h' | ⟨rfl, -⟩
        · exact absurd h' (List.lt_asymm h)
        · exact absurd h (List.lt_irrefl _)
      · rcases h' with h' | ⟨-, h'⟩
        · exact absurd h' (List.lt_irrefl _)
        · rw [textLe_antisymm h h']

theorem isLinear_le : IsLinear Param.le := ⟨le_total, le_trans, le_antisymm⟩

/-- An entry comes before those that go on from it. -/
theorem le_ofRaw_append (w s : List Char) : (ofRaw w).le (ofRaw (w ++ s)) := by
  have hraw : textLe w (w ++ s) := textLe_append w s
  rw [le_iff, raw_ofRaw, raw_ofRaw, ofRaw, ofRaw]
  cases hw : splitAtBare '=' w with
  | some cut =>
    obtain ⟨name, value⟩ := cut
    rw [splitAtBare_append_some hw s]
    rcases lt_or_eq_of_textLe (textLe_append value s) with h | h
    · exact .inr ⟨rfl, .inl h⟩
    · exact .inr ⟨rfl, .inr ⟨h, hraw⟩⟩
  | none =>
    cases he : splitAtBare '=' (w ++ s) with
    | some cut =>
      obtain ⟨name, value⟩ := cut
      obtain ⟨t, rfl⟩ := prefix_of_splitAtBare_append hw he
      rcases lt_or_eq_of_textLe (textLe_append w t) with h | h
      · exact .inl h
      · rcases lt_or_eq_of_textLe (textLe_append [] value) with h' | h'
        · exact .inr ⟨h, .inl h'⟩
        · exact .inr ⟨h, .inr ⟨h', hraw⟩⟩
    | none =>
      rcases lt_or_eq_of_textLe hraw with h | h
      · exact .inl h
      · exact .inr ⟨h, .inr ⟨rfl, hraw⟩⟩

theorem mergeSort_of_pairwise {ps : List Param} (h : ps.Pairwise fun p q => p.le q) :
    ps.mergeSort Param.le = ps :=
  List.mergeSort_of_pairwise h

end Param

/-! ## Sorting the entries of a form -/

theorem refill_writeParams {ps qs : List Param} (h : ps.length = qs.length) (ts : List Token) :
    refill Token.param? .param (Apply.writeParams ps ++ ts) qs = Apply.writeParams qs ++ ts := by
  have hparam : ∀ p : Param, Token.param? (.param p) = some p := fun _ => rfl
  have hrest : ∀ {ps qs : List Param}, ps.length = qs.length →
      refill Token.param? .param
          ((ps.flatMap fun p => [Token.paramSeparator, .param p]) ++ ts) qs =
        (qs.flatMap fun q => [Token.paramSeparator, .param q]) ++ ts := by
    intro ps
    induction ps with
    | nil =>
      intro qs h
      obtain rfl : qs = [] := List.length_eq_zero_iff.mp h.symm
      simp
    | cons p ps ih =>
      intro qs h
      match qs with
      | q :: qs =>
        simp only [List.flatMap_cons, List.cons_append, List.nil_append]
        rw [refill_cons_none rfl, refill_cons_some (hparam p), ih (Nat.succ.inj h)]
  match ps, qs with
  | [], [] => simp
  | p :: ps, q :: qs =>
    simp only [Apply.writeParams, List.cons_append]
    rw [refill_cons_none rfl, refill_cons_some (hparam p), hrest (Nat.succ.inj h)]

theorem Form.sorted_eq {f : Form} (h : f.params.Pairwise fun p q => p.le q) : f.sorted = f := by
  rw [Form.sorted, Param.mergeSort_of_pairwise h]

/-- Sorting moves the entries of a form and leaves everything else in its place. -/
theorem sortParams_tokens (f : Form) : sortParams f.tokens = f.sorted.tokens := by
  have hpre : ∀ t ∈ originTokens f.origin ++ (pathTokens f.rooted f.segments).map .path,
      t.param? = none := by
    intro t ht
    rcases List.mem_append.mp ht with ht | ht
    · exact (mem_originTokens ht).2.2.1
    · exact (mem_map_path ht).2.1
  rw [sortParams, sortWithin, Form.filterMap_param?_tokens, Form.tokens, List.append_assoc,
    List.append_assoc, refill_append_of_none hpre,
    refill_writeParams (List.length_mergeSort _).symm]
  simp [Form.tokens, Form.sorted]

end UrlTemplate.Url
