import UrlTemplate.Apply.Path
import UrlTemplate.Proofs.Pattern.Language

/-!
# The path rules of a pattern

A `-` of a pattern is read only where it stands alone between separators, so the rules that
omit a segment are apart from those that keep one. The walk along a path relies on it.

* `Spaced`: an omitted segment stands between separators or at an end of the rules.
* `spaced_leadingPathRules`: the path rules of a pattern that can be read are spaced.
-/

namespace UrlTemplate.Pattern

open Apply (leadingPathRules stopsAtMarker)
open Escape

/-- An omitted segment stands between separators or at an end of the rules. -/
def Spaced : List PathRule → Prop
  | a :: b :: rules =>
    (b = .omitSegment → a = .separator) ∧ (a = .omitSegment → b = .separator) ∧
      Spaced (b :: rules)
  | _ => True

theorem Spaced.tail {r : PathRule} {rules : List PathRule} (h : Spaced (r :: rules)) :
    Spaced rules := by
  cases rules with
  | nil => trivial
  | cons s rules => exact h.2.2

/-- Only a separator stands before an omitted segment. -/
theorem Spaced.head_ne_omit {r : PathRule} {rules : List PathRule} (h : Spaced (r :: rules))
    (hr : r ≠ .separator) : rules.head? ≠ some .omitSegment := by
  cases rules with
  | nil => simp
  | cons s rules =>
    intro hs
    exact hr (h.1 (by simpa using hs))

/-! ## Leading path rules -/

@[simp] theorem leadingPathRules_path (r : PathRule) (ts : List Token) :
    leadingPathRules (.path r :: ts) = r :: leadingPathRules ts := rfl

theorem leadingPathRules_append {ts : List Token} (h : ∀ t ∈ ts.head?, t.isPath = false)
    (rules : List PathRule) : leadingPathRules (rules.map .path ++ ts) = rules := by
  induction rules with
  | nil =>
    cases ts with
    | nil => rfl
    | cons t ts => simp [leadingPathRules, h t rfl]
  | cons r rules ih => rw [List.map_cons, List.cons_append, leadingPathRules_path, ih]

theorem stopsAtMarker_append {ts : List Token} (h : ∀ t ∈ ts.head?, t.isPath = false)
    (rules : List PathRule) :
    stopsAtMarker (rules.map .path ++ ts) = ts.head?.any fun t => t.isQuery || t.isFragment := by
  have hpath : ∀ t ∈ rules.map Token.path, t.isPath := by simp [Token.isPath]
  have hts : ts.dropWhile Token.isPath = ts := by
    cases ts with
    | nil => rfl
    | cons t ts => simp [h t rfl]
  rw [stopsAtMarker, List.dropWhile_append_of_pos hpath, hts]

/-- Sorting the names of a query rule leaves the path rules alone. -/
theorem leadingPathRules_sortNames (ts : List Token) :
    leadingPathRules (sortNames ts) = leadingPathRules ts := by
  have hrefill : ∀ (ts : List Token) (ks : List (List Char)),
      leadingPathRules (refill Token.name? (fun text => .query (.name text)) ts ks) =
        leadingPathRules ts := by
    intro ts
    induction ts with
    | nil => intro ks; rfl
    | cons t ts ih =>
      intro ks
      cases t with
      | path r => rw [refill_cons_none rfl, leadingPathRules_path, leadingPathRules_path, ih]
      | query rule =>
        unfold refill
        split <;> rfl
      | fragment rule => rw [refill_cons_none rfl]; rfl
      | finish => rw [refill_cons_none rfl]; rfl
  exact hrefill ts _

/-! ## What follows the path -/

theorem not_path_of_fragmentRules (l : List Item) : ∀ t ∈ fragmentRules l, t.isPath = false := by
  have hclose : ∀ w, ∀ t ∈ closeFragment w, t.isPath = false := by
    intro w
    unfold closeFragment
    split <;> simp [Token.isPath]
  cases l with
  | nil => simp [fragmentRules]
  | cons i l =>
    simp only [fragmentRules, fragmentRulesBehind]
    split
    · exact List.forall_mem_cons.mpr ⟨rfl, hclose _⟩
    · split <;> exact hclose _

theorem not_path_of_queryRules {query : List Item} {rules : List Token}
    (h : QueryRules query rules) : ∀ t ∈ rules, t.isPath = false := by
  cases h <;> simp [nameRules, Token.isPath]

theorem not_path_of_follows {l : List Item} {ts : List Token} (h : Follows l ts) :
    ∀ t ∈ ts, t.isPath = false := by
  obtain ⟨query, fragment, rules, -, hquery, -, -, rfl⟩ := h
  simp only [List.mem_append, List.mem_singleton]
  rintro t ((ht | ht) | rfl)
  · exact not_path_of_queryRules hquery t ht
  · exact not_path_of_fragmentRules fragment t ht
  · rfl

/-! ## The path -/

/-- Literal text stands between the rule before it and the rules behind it. -/
theorem spaced_text {w : List Char} {r : PathRule} {rules : List PathRule}
    (hr : w = [] → Spaced (r :: rules)) (hne : r = .omitSegment → w = [])
    (hw : Spaced (.matchSegment w :: rules)) :
    Spaced (r :: ((nonEmpty w).map .matchSegment ++ rules)) := by
  by_cases h : w = []
  · subst h
    exact hr rfl
  · rw [nonEmpty, if_neg h]
    exact ⟨by simp, fun hr => absurd (hne hr) h, hw⟩

/-- The rules of a path are spaced, and spaced apart from the rule before them. -/
theorem spaced_rulesFrom {fresh : Bool} {w : List Char} {l : List Item} {r : PathRule}
    (hl : Spread fresh l) (hfresh : fresh = true → w = [] ∧ r = .separator)
    (hr : r = .omitSegment → w = [] ∧ ∀ j ∈ l.head?, j = .bare '/') :
    Spaced (r :: rulesFrom w l) := by
  induction l generalizing fresh w r with
  | nil =>
    rw [rulesFrom, ← List.append_nil ((nonEmpty w).map _)]
    exact spaced_text (fun _ => trivial) (fun h => (hr h).1) trivial
  | cons i l ih =>
    obtain ⟨hi, hl⟩ := hl
    by_cases hsep : i = .bare '/'
    · have hmore := ih (w := []) (r := .separator) hl (fun _ => ⟨rfl, rfl⟩) (by simp)
      rw [rulesFrom, if_pos hsep]
      exact spaced_text (fun _ => ⟨by simp, fun _ => rfl, hmore⟩) (fun h => (hr h).1)
        ⟨by simp, by simp, hmore⟩
    have hne : r ≠ .omitSegment := fun h => hsep ((hr h).2 i rfl)
    simp only [hsep, decide_false] at hl
    rw [rulesFrom, if_neg hsep]
    by_cases hglob : i = .bare '*'
    · have hmore := ih (w := []) (r := .glob) hl (by simp) (by simp)
      rw [if_pos hglob]
      exact spaced_text (fun _ => ⟨by simp, fun h => absurd h hne, hmore⟩)
        (fun h => absurd h hne) ⟨by simp, by simp, hmore⟩
    · rw [if_neg hglob]
      by_cases hminus : i = .bare '-'
      · obtain ⟨hf, hhead⟩ := hi hminus
        obtain ⟨rfl, rfl⟩ := hfresh hf
        have hmore := ih (w := []) (r := .omitSegment) hl (by simp) (fun _ => ⟨rfl, hhead⟩)
        rw [if_pos hminus]
        exact ⟨fun _ => rfl, by simp, hmore⟩
      · rw [if_neg hminus]
        exact ih hl (by simp) (fun h => absurd h hne)

theorem spaced_pathRules {path : List Item} (h : IsPath path) : Spaced (pathRules path) := by
  unfold pathRules
  split
  · trivial
  · exact (spaced_rulesFrom (isPath_iff.mp h).2 (fun _ => ⟨rfl, rfl⟩) (by simp)).tail

/-- The path rules of a pattern that can be read are spaced. -/
theorem spaced_leadingPathRules {pattern : List Char} {rules : List Token}
    (h : read pattern = .ok rules) : Spaced (leadingPathRules rules) := by
  obtain ⟨ts, hts, rfl⟩ := read_eq_ok_iff.mp h
  obtain ⟨path, rest, more, -, hpath, hmore, rfl⟩ := scan_eq_ok_iff.mp hts
  rw [leadingPathRules_sortNames, leadingPathRules_append fun t ht =>
    not_path_of_follows hmore t (List.mem_of_mem_head? ht)]
  exact spaced_pathRules hpath

end UrlTemplate.Pattern
