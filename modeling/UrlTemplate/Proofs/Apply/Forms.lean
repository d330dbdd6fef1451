import UrlTemplate.Apply.Whole
import UrlTemplate.Proofs.Scan
import UrlTemplate.Proofs.Url.Form

/-!
# Applying patterns to forms

A pattern is applied to a form part by part: the origin stays, the path rules see the path
alone, the entries are filtered, and the fragment stays or goes.

* `omitsFragment_eq_ok_iff`: which fragments fit, and whether they are dropped.
* `apply_eq`: a pattern is applied part by part.
* `apply_tokens`, `apply_tokens_eq_ok_iff`: what a pattern makes of the tokens of a form.
* `apply_empty`: the empty pattern makes nothing of it.
-/

namespace UrlTemplate.Apply

open Url (Form fragmentOf originTokens pathOf pathTokens)

/-- A pattern is applied part by part, whatever the order of the tokens. -/
theorem apply_eq (url : List Url.Token) (pattern : List Pattern.Token) :
    apply url pattern = (do
      let path ← fitPath (copiesRest pattern) (leadingPathRules pattern) (pathOf url)
      let omitted ← omitsFragment (fragmentOf url) pattern
      pure (authority url ++ path.map .path ++ applyQuery url pattern ++
        writeFragment (if omitted then none else fragmentOf url) ++ [.finish])) := by
  simp only [apply, applyPath, applyFragment, pathOf, fragmentOf]
  cases fitPath (copiesRest pattern) (leadingPathRules pattern)
    (url.filterMap Url.Token.path?) with
  | error e => rfl
  | ok path =>
    cases omitsFragment (url.findSome? Url.Token.fragment?) pattern with
    | error e => rfl
    | ok omitted => cases omitted <;> rfl

/-- The entries of a form that a pattern keeps. -/
def keptParams (f : Form) (pattern : List Pattern.Token) : List Url.Param :=
  f.params.filter fun p => (QueryAction.ofPattern pattern).keeps (Escape.unescape p.name)

theorem apply_tokens (f : Form) (pattern : List Pattern.Token) :
    apply f.tokens pattern = (do
      let path ← fitPath (copiesRest pattern) (leadingPathRules pattern)
        (pathTokens f.rooted f.segments)
      let omitted ← omitsFragment f.fragment pattern
      pure (originTokens f.origin ++ path.map .path ++ writeParams (keptParams f pattern) ++
        writeFragment (if omitted then none else f.fragment) ++ [.finish])) := by
  simp only [apply_eq, applyQuery, authority, keptParams, pathOf, fragmentOf,
    f.filterMap_path?_tokens, f.filterMap_param?_tokens, f.filter_isAuthority_tokens,
    f.findSome?_fragment?_tokens]

/-- A fragment fits the rules that ask for it, and whether it is dropped does not depend on
it. -/
theorem omitsFragment_eq_ok_iff {found : Option (List Char)} {rules : List Pattern.Token}
    {omitted : Bool} :
    omitsFragment found rules = .ok omitted ↔
      (∀ t, .fragment (.matchFragment t) ∈ rules → found.map Escape.unescape = some t) ∧
        omitted = rules.any (· = .fragment .omitFragment) := by
  fun_induction omitsFragment found rules generalizing omitted with
  | case1 => simp [pure, Except.pure, eq_comm]
  | case2 expected rules hfound ih =>
    rw [ih]
    simp [hfound]
  | case3 expected rules hfound =>
    refine ⟨nofun, fun h => absurd (h.1 expected List.mem_cons_self) hfound⟩
  | case4 rules ih =>
    rw [Scan.bind_eq_ok_iff]
    simp [ih, pure, Except.pure, eq_comm]
  | case5 rule rules hmatch homit ih =>
    have hne : ∀ t, .fragment (.matchFragment t) ≠ rule := fun t h => hmatch t h.symm
    have hother : rule ≠ .fragment .omitFragment := homit
    rw [ih]
    simp [hne, hother]

theorem isFragment_of_omitsFragment {found : Option (List Char)} {rules : List Pattern.Token}
    {e : Mismatch} (h : omitsFragment found rules = .error e) : e.isFragment := by
  fun_induction omitsFragment found rules with
  | case1 => cases h
  | case2 expected rules hfound ih => exact ih h
  | case3 =>
    cases h
    rfl
  | case4 rules ih =>
    cases hrest : omitsFragment found rules with
    | ok omitted =>
      rw [hrest] at h
      cases h
    | error e' =>
      rw [hrest] at h
      cases h
      exact ih hrest
  | case5 rule rules _ _ ih => exact ih h

/-- The fragment of a form, if a pattern keeps it. -/
def keptFragment (f : Form) (pattern : List Pattern.Token) : Option (List Char) :=
  if pattern.any (· = .fragment .omitFragment) then none else f.fragment

theorem mem_keptFragment {f : Form} {pattern : List Pattern.Token} {t : List Char}
    (h : t ∈ keptFragment f pattern) : t ∈ f.fragment := by
  unfold keptFragment at h
  split at h
  · cases h
  · exact h

/-- A pattern fits a form if its path rules fit the path and the fragment is the one asked for,
and then it keeps the entries and the fragment that it does not drop. -/
theorem apply_tokens_eq_ok_iff {f : Form} {pattern : List Pattern.Token} {ts : List Url.Token} :
    apply f.tokens pattern = .ok ts ↔
      (∀ t, .fragment (.matchFragment t) ∈ pattern → f.fragment.map Escape.unescape = some t) ∧
      ∃ path, fitPath (copiesRest pattern) (leadingPathRules pattern)
          (pathTokens f.rooted f.segments) = .ok path ∧
        ts = originTokens f.origin ++ path.map .path ++ writeParams (keptParams f pattern) ++
          writeFragment (keptFragment f pattern) ++ [.finish] := by
  rw [apply_tokens, Scan.bind_eq_ok_iff]
  constructor
  · rintro ⟨path, hpath, h⟩
    obtain ⟨omitted, homitted, h⟩ := Scan.bind_eq_ok_iff.mp h
    obtain ⟨hfragment, rfl⟩ := omitsFragment_eq_ok_iff.mp homitted
    exact ⟨hfragment, path, hpath, (Except.ok.inj h).symm⟩
  · rintro ⟨hfragment, path, hpath, rfl⟩
    have homitted := omitsFragment_eq_ok_iff.mpr ⟨hfragment, rfl⟩
    exact ⟨path, hpath, Scan.bind_eq_ok_iff.mpr ⟨_, homitted, rfl⟩⟩

theorem keptParams_empty (f : Form) : keptParams f Pattern.empty = f.params :=
  List.filter_eq_self.mpr fun _ _ => rfl

/-- The empty pattern leaves a form as it is. -/
theorem apply_empty (f : Form) : apply f.tokens Pattern.empty = .ok f.tokens := by
  rw [apply_tokens, keptParams_empty]
  rfl

end UrlTemplate.Apply
