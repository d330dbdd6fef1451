import UrlTemplate.Proofs.Apply.Repeat
import UrlTemplate.Proofs.Transform.Recovery

/-!
# Transforming twice

A pattern that drops no single segment makes of a URL what it also makes of the result, with one
exception. It can cut a URL down to its authority. Written and read again, an authority alone
gets the root path, and if the pattern says nothing about the path and asks for no fragment, then
the root path stays.

* `LosesRoot`: the rules cut the tokens down to an authority that gets the root path.
* `transform_transform_iff`: transforming is idempotent exactly where they do not.
-/

namespace UrlTemplate

open Apply (apply bare leadingPathRules)
open Escape
open Url (Form read write)

variable {url pattern : List Char} {rules : List Pattern.Token} {f g : Form}

/-- The rules of a pattern; those of the empty pattern for one that cannot be read. -/
def rulesOf (pattern : List Char) : List Pattern.Token :=
  match Pattern.read pattern with
  | .ok rules => rules
  | .error _ => Pattern.empty

/-- The rules say nothing about the path, ask for no fragment and leave an authority alone. -/
def LosesRoot (ts : List Url.Token) (rules : List Pattern.Token) : Prop :=
  leadingPathRules rules = [] ∧ (∀ t, .fragment (.matchFragment t) ∉ rules) ∧
    ∃ s a, apply ts rules = .ok [.scheme s, .schemeSeparator, .authority a, .finish]

theorem rulesOf_of_read (h : Pattern.read pattern = .ok rules) : rulesOf pattern = rules := by
  simp [rulesOf, h]

theorem value_transform (url pattern : List Char) :
    (transform url pattern).value = (transformWith url (rulesOf pattern)).value := by
  unfold rulesOf
  cases h : Pattern.read pattern with
  | ok rules => exact (transform_of_read_ok url h).1
  | error s => exact (transform_of_read_error url h).1

theorem spaced_rulesOf (pattern : List Char) :
    Pattern.Spaced (leadingPathRules (rulesOf pattern)) := by
  unfold rulesOf
  cases h : Pattern.read pattern with
  | ok rules => exact Pattern.spaced_leadingPathRules h
  | error s => trivial

/-- A URL that does not fit is not changed by a second time. -/
theorem transformWith_again_of_error (hurl : ¬ Dangles url) {e : Mismatch}
    (h : apply (read url) rules = .error e) :
    (transformWith (transformWith url rules).value rules).value =
      (transformWith url rules).value := by
  cases he : e.isFragment with
  | true =>
    have hvalue : (transformWith url rules).value = url := by simp [value_transformWith, h, he]
    rw [hvalue, hvalue]
  | false =>
    have hvalue : ∀ v, read v = read url → (transformWith v rules).value = write (read url) := by
      intro v hv
      simp [value_transformWith, hv, h, he, value_normalize]
    rw [hvalue url rfl, hvalue _ (Url.read_write_canonical.2.2 url hurl)]

/-- A canonical form that is left is not changed by a second time. -/
theorem transformWith_again_of_canonical (hspaced : Pattern.Spaced (leadingPathRules rules))
    (homit : .path .omitSegment ∉ rules) (h : apply f.tokens rules = .ok g.tokens)
    (hread : read (write g.tokens) = g.tokens) :
    (transformWith (write g.tokens) rules).value = write g.tokens := by
  rw [value_transformWith, value_normalize, hread]
  cases hagain : apply g.tokens rules with
  | ok ts => exact congrArg write (Apply.apply_again hspaced homit h hagain)
  | error e => exact ite_self _

/-- An authority that is left gets the root path if the rules let that stay. -/
theorem transformWith_again_of_bare {o : Url.Origin}
    (hspaced : Pattern.Spaced (leadingPathRules rules)) (homit : .path .omitSegment ∉ rules)
    (h : apply f.tokens rules = .ok (bare o false).tokens)
    (hread : read (write (bare o false).tokens) = (bare o true).tokens) :
    (transformWith (write (bare o false).tokens) rules).value = write (bare o false).tokens ↔
      ¬ LosesRoot f.tokens rules := by
  rw [value_transformWith, hread]
  by_cases hnil : leadingPathRules rules = []
  · by_cases hasked : ∃ t, .fragment (.matchFragment t) ∈ rules
    · obtain ⟨t, ht⟩ := hasked
      obtain ⟨e, happly, he⟩ := Apply.apply_root_of_asked (o := o) hnil ht
      simp only [happly, he, if_true, true_iff]
      exact fun hloses => hloses.2.1 t ht
    · have hasked := not_exists.mp hasked
      have hloses : LosesRoot f.tokens rules := ⟨hnil, hasked, o.scheme, o.authority, h⟩
      have hslash : write (bare o true).tokens = write (bare o false).tokens ++ ['/'] := by
        simp [Form.tokens, Url.originTokens, Url.pathTokens, write, Url.Token.text,
          Apply.writeFragment]
      simp [Apply.apply_root_of_not_asked hnil hasked, hslash, hloses]
  · have hkeeps : ¬ LosesRoot f.tokens rules := fun hloses => hnil hloses.1
    obtain ⟨hok, herror⟩ := Apply.apply_root hspaced homit hnil h
    refine iff_of_true ?_ hkeeps
    cases hroot : apply (bare o true).tokens rules with
    | ok ts => exact congrArg write (hok ts hroot)
    | error e => exact if_pos (herror e hroot)

/-- Transforming twice is transforming once, but for an authority of which nothing else is left
by a pattern that says nothing about the path and asks for no fragment. -/
theorem transform_transform_iff (hurl : ¬ Dangles url)
    (homit : .path .omitSegment ∉ rulesOf pattern) :
    (transform (transform url pattern).value pattern).value = (transform url pattern).value ↔
      ¬ LosesRoot (read url) (rulesOf pattern) := by
  have hspaced := spaced_rulesOf pattern
  rw [value_transform url, value_transform]
  generalize rulesOf pattern = rules at *
  cases h : apply (read url) rules with
  | error e =>
    have hkeeps : ¬ LosesRoot (read url) rules := by
      rintro ⟨-, -, s, a, hbare⟩
      cases h.symm.trans hbare
    exact iff_of_true (transformWith_again_of_error hurl h) hkeeps
  | ok ts =>
    have hvalue : (transformWith url rules).value = write ts := by simp [value_transformWith, h]
    rw [hvalue]
    rw [Url.read_eq_ofText] at h ⊢
    obtain ⟨g, rfl, hg, hsorted, hfirm⟩ :=
      Apply.exists_form_of_apply (Url.canonical_ofText url) hspaced h
    have hproper := (hfirm (Url.firm_ofText hurl)).proper
    rcases Apply.canonical_or_authority hg hsorted with hc | ⟨o, rfl⟩
    · have hkeeps : ¬ LosesRoot (Form.ofText url).tokens rules := by
        rintro ⟨-, -, s, a, hbare⟩
        exact Apply.not_canonical_authority hc s a (Except.ok.inj (h.symm.trans hbare))
      exact iff_of_true
        (transformWith_again_of_canonical hspaced homit h (hc.read_write hproper)) hkeeps
    · refine transformWith_again_of_bare hspaced homit h ?_
      rw [Url.read_write_tokens hg hproper, Url.settled_authority]

/-- The query is dropped behind a path, which stays; behind an authority, which gets the root
path then; and by a pattern that drops the path as well, so that nothing changes any more. -/
theorem transform_transform_query :
    ((transform (transform "s://a/b?x=1".toList "?-".toList).value "?-".toList).value =
      (transform "s://a/b?x=1".toList "?-".toList).value) ∧
    LosesRoot (read "s://a?x=1".toList) (rulesOf "?-".toList) ∧
    (transform (transform "s://a?x=1".toList "-?-".toList).value "-?-".toList).value =
      (transform "s://a?x=1".toList "-?-".toList).value := by
  have hrules : rulesOf "?-".toList = [.query .omitQuery, .finish] := by decide +kernel
  have hpath : rulesOf "-?-".toList = [.path .omitPath, .query .omitQuery, .finish] := by
    decide +kernel
  refine ⟨(transform_transform_iff (by decide) (by rw [hrules]; simp)).mpr ?_, ?_,
    (transform_transform_iff (by decide) (by rw [hpath]; simp)).mpr ?_⟩
  · rintro ⟨-, -, s, a, hbare⟩
    have happly : apply (read "s://a/b?x=1".toList) (rulesOf "?-".toList) =
        .ok [.scheme ['s'], .schemeSeparator, .authority ['a'], .path .separator,
          .path (.segment ['b']), .finish] := by decide +kernel
    cases happly.symm.trans hbare
  · exact ⟨by rw [hrules]; rfl, by rw [hrules]; simp, ['s'], ['a'], by decide +kernel⟩
  · rintro ⟨hnil, -⟩
    rw [hpath] at hnil
    cases hnil

/-- The query of an authority is dropped, and then the root path comes in. -/
theorem transform_authority_query :
    (transform (transform "s://a?x=1".toList "?-".toList).value "?-".toList).value ≠
      (transform "s://a?x=1".toList "?-".toList).value := by
  decide +kernel

end UrlTemplate
