import Mathlib.Data.List.Permutation
import UrlTemplate.Proofs.Apply.Forms
import UrlTemplate.Proofs.Apply.PathShape
import UrlTemplate.Proofs.Url.RoundTrip

/-!
# Patterns keep URLs canonical

What a pattern leaves of a URL is a form again: its path is made of segments of the path,
its entries are some of the entries in their order, and the fragment stays or goes. So the
tokens are read back from what they are written as, but for an authority of which nothing
is left, which then gets the root path.

* `exists_form_of_apply`: what a pattern makes of a canonical form.
* `read_write_apply`: the result is canonical, or an authority alone.
-/

namespace UrlTemplate.Apply

open Escape
open Pattern (Spaced)
open Url (Canonical Form Origin Param originTokens read write)

variable {f : Form} {rules : List Pattern.Token} {ts : List Url.Token}

theorem getLast?_of_copiesRest (h : copiesRest rules) :
    ∀ r ∈ (leadingPathRules rules).getLast?, r.isSegment := by
  intro r hr
  rw [copiesRest, Bool.and_eq_true, Option.mem_def.mp hr] at h
  exact h.2

/-- What a pattern leaves of a canonical form is a form whose entries are sorted. -/
theorem exists_form_of_apply (hf : f.Canonical) (hrules : Spaced (leadingPathRules rules))
    (h : apply f.tokens rules = .ok ts) :
    ∃ g : Form, ts = g.tokens ∧ g.Readable ∧ (g.params.Pairwise fun p q => p.le q) ∧
      (f.Firm → g.Firm) := by
  obtain ⟨-, path, hpath, rfl⟩ := apply_tokens_eq_ok_iff.mp h
  obtain ⟨r, segments, rfl, hsub, hroot⟩ := fitPath_shape hrules getLast?_of_copiesRest hpath
  have hparams : ∀ p ∈ keptParams f rules, p ∈ f.params := fun p hp => (List.mem_filter.mp hp).1
  refine ⟨⟨f.origin, r, segments, keptParams f rules, keptFragment f rules⟩, rfl,
    ⟨hf.origin, ?_, ?_, ?_, ?_⟩, hf.sorted.filter _, fun hfirm => ⟨hfirm.origin, ?_, ?_, ?_⟩⟩
  · intro ho
    rcases hf.path ho with hr | hs
    · exact hroot hr
    · rw [hs] at hsub
      exact .inr (List.sublist_nil.mp hsub)
  · exact fun t ht => hf.segments t (hsub.subset ht)
  · exact fun p hp => hf.params p (hparams p hp)
  · exact fun t ht => hf.fragment t (mem_keptFragment ht)
  · exact fun t ht => hfirm.segments t (hsub.subset ht)
  · exact fun p hp => hfirm.params p (hparams p hp)
  · exact fun t ht => hfirm.fragment t (mem_keptFragment ht)

/-- A form with sorted entries that is not canonical is an authority alone. -/
theorem canonical_or_authority {g : Form} (hg : g.Readable)
    (hs : g.params.Pairwise fun p q => p.le q) :
    g.Canonical ∨ ∃ o, g = ⟨some o, false, [], [], none⟩ := by
  by_cases hroot : g.origin.isSome → g.rooted ∨ g.params ≠ [] ∨ g.fragment.isSome
  · exact .inl ⟨hg, hroot, hs⟩
  · obtain ⟨ho, hroot⟩ := Classical.not_imp.mp hroot
    simp only [not_or, Bool.not_eq_true, Decidable.not_not, Option.isSome_eq_false_iff,
      Option.isNone_iff_eq_none] at hroot
    obtain ⟨hr, hp, ht⟩ := hroot
    have hsegments : g.segments = [] := (hg.path ho).resolve_left (by simp [hr])
    obtain ⟨o, ho⟩ := Option.isSome_iff_exists.mp ho
    obtain ⟨origin, rooted, segments, params, fragment⟩ := g
    exact .inr ⟨o, by simp_all⟩

/-- The tokens of an authority alone are not canonical. -/
theorem not_canonical_authority {g : Form} (hg : g.Canonical) (s a : List Char) :
    g.tokens ≠ [.scheme s, .schemeSeparator, .authority a, .finish] := by
  intro h
  have horigin : originTokens g.origin = [.scheme s, .schemeSeparator, .authority a] :=
    g.filter_isAuthority_tokens.symm.trans (h ▸ rfl)
  have hpath : Url.pathTokens g.rooted g.segments = [] :=
    g.filterMap_path?_tokens.symm.trans (h ▸ rfl)
  have hparams : g.params = [] := g.filterMap_param?_tokens.symm.trans (h ▸ rfl)
  have hfragment : g.fragment = none := g.findSome?_fragment?_tokens.symm.trans (h ▸ rfl)
  have ho : g.origin.isSome := by
    cases hg : g.origin with
    | none => simp [hg, originTokens] at horigin
    | some o => rfl
  have hr : g.rooted = false := by
    cases hg : g.rooted with
    | false => rfl
    | true => simp [hg, Url.pathTokens] at hpath
  simpa [hr, hparams, hfragment] using hg.root ho

/-- What a pattern makes of a URL that does not dangle is read back from what it is written
as. An authority of which nothing is left is read with the root path; everything else is
canonical. -/
theorem read_write_apply {url pattern : List Char} {rules : List Pattern.Token}
    {ts : List Url.Token} (hurl : ¬ Dangles url) (hpattern : Pattern.read pattern = .ok rules)
    (h : apply (read url) rules = .ok ts) :
    (∀ s a, ts = [.scheme s, .schemeSeparator, .authority a, .finish] →
      read (write ts) = [.scheme s, .schemeSeparator, .authority a, .path .separator, .finish]) ∧
    ((∀ s a, ts ≠ [.scheme s, .schemeSeparator, .authority a, .finish]) →
      Canonical ts ∧ read (write ts) = ts) := by
  rw [Url.read_eq_ofText] at h
  obtain ⟨g, rfl, hg, hs, hfirm⟩ := exists_form_of_apply (Url.canonical_ofText url)
    (Pattern.spaced_leadingPathRules hpattern) h
  have hread := Url.read_write_tokens hg (hfirm (Url.firm_ofText hurl)).proper
  rcases canonical_or_authority hg hs with hc | ⟨o, rfl⟩
  · refine ⟨fun s a he => absurd he (not_canonical_authority hc s a), fun _ => ⟨⟨g, hc, rfl⟩, ?_⟩⟩
    rw [hread, hc.settled_eq]
  · refine ⟨fun s a he => ?_, fun hne => absurd rfl (hne o.scheme o.authority)⟩
    rw [hread, Url.settled_authority]
    cases he
    rfl

/-- A segment and the fragment are dropped and the query is cut down to `x`, or the path is
dropped and with it all there is. -/
theorem read_write_apply_dropping :
    let us : List Url.Token := [.scheme ['s'], .schemeSeparator, .authority ['h'],
      .path .separator, .path (.segment ['a']), .path .separator,
      .path (.segment "b\\/c".toList), .path .separator, .path (.segment ['d']),
      .querySeparator, .param (.ofRaw "x=1".toList), .paramSeparator, .param (.ofRaw ['y']),
      .fragmentSeparator, .fragment ['f'], .finish]
    let rules : List Pattern.Token := [.path .separator, .path .glob, .path .separator,
      .path .omitSegment, .path .separator, .path (.matchSegment ['d']), .query .allowList,
      .query (.name ['x']), .fragment .omitFragment, .finish]
    let ts : List Url.Token := [.scheme ['s'], .schemeSeparator, .authority ['h'],
      .path .separator, .path (.segment ['a']), .path .separator, .path (.segment ['d']),
      .querySeparator, .param (.ofRaw "x=1".toList), .finish]
    let bare : List Url.Token := [.scheme ['s'], .schemeSeparator, .authority ['h'], .finish]
    (read "s://h//a/b\\/c/d?y&x=1#f".toList = us ∧
      Pattern.read "/*/-/d?[x]#-".toList = .ok rules ∧ apply us rules = .ok ts ∧
      Canonical ts ∧ read (write ts) = ts) ∧
    (Pattern.read "-".toList = .ok [.path .omitPath, .finish] ∧
      apply (read "s://h/a".toList) [.path .omitPath, .finish] = .ok bare ∧
      read (write bare) =
        [.scheme ['s'], .schemeSeparator, .authority ['h'], .path .separator, .finish]) := by
  intro us rules ts bare
  have hread : read "s://h//a/b\\/c/d?y&x=1#f".toList = us := by cbv
  have hpattern : Pattern.read "/*/-/d?[x]#-".toList = .ok rules := by cbv
  have happly : apply us rules = .ok ts := by cbv
  have hurl : ¬ Dangles "s://h//a/b\\/c/d?y&x=1#f".toList := by decide
  have hne : ∀ s a, ts ≠ [.scheme s, .schemeSeparator, .authority a, .finish] := by simp [ts]
  have homit : Pattern.read "-".toList = .ok [.path .omitPath, .finish] := by cbv
  have hbare : apply (read "s://h/a".toList) [.path .omitPath, .finish] = .ok bare := by cbv
  have hshort : ¬ Dangles "s://h/a".toList := by decide
  exact ⟨⟨hread, hpattern, happly, (read_write_apply hurl hpattern (hread ▸ happly)).2 hne⟩,
    homit, hbare, (read_write_apply hshort homit hbare).1 _ _ rfl⟩

end UrlTemplate.Apply
