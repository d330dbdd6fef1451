import UrlTemplate.Proofs.Transform.Repetition

/-!
# Chains of filters

A pattern that says nothing about the path and asks for no fragment is a filter: it drops some
entries of the query, and maybe the fragment. In a chain of patterns each result is written and
then read by the next one. A filter leaves the path as it is, so if an authority has a path to
begin with, then no root path comes in on the way, and a chain of filters is one filter that
does not depend on their order.

* `IsFilter`: the rules of a filter.
* `filtered`: what filters leave of the tokens of a URL.
* `Steady`: the forms that are read as they are written, also after a filter.
* `transform_filter`: what one filter leaves of the form of a URL.
* `steady_restrict`: a filter leaves a steady form steady.
* `transformAll_filters`: what a chain of filters leaves of a URL.
-/

namespace UrlTemplate

open Apply (QueryAction authority keptFragment keptParams leadingPathRules writeFragment
  writeParams)
open Escape
open Url (Form fragmentOf pathOf pathTokens read write)

/-- Transforms a URL with one pattern after the other. -/
def transformAll (url : List Char) (patterns : List (List Char)) : List Char :=
  patterns.foldl (fun result pattern => (transform result pattern).value) url

/-- The rules say nothing about the path and ask for no fragment. -/
structure IsFilter (rules : List Pattern.Token) : Prop where
  path : ∀ r ∈ rules, r.isPath = false
  fragment : ∀ t, .fragment (.matchFragment t) ∉ rules

/-- Every filter keeps the entry. -/
def keptByAll (filters : List (List Pattern.Token)) (p : Url.Param) : Bool :=
  filters.all fun rules => (QueryAction.ofPattern rules).keeps (unescape p.name)

/-- Some filter drops the fragment. -/
def fragmentDropped (filters : List (List Pattern.Token)) : Bool :=
  filters.any fun rules => rules.any (· = .fragment .omitFragment)

/-- The tokens of a URL with only the entries that every filter keeps, and without the fragment
if some filter drops it. -/
def filtered (filters : List (List Pattern.Token)) (ts : List Url.Token) : List Url.Token :=
  authority ts ++ (pathOf ts).map .path ++
    writeParams ((ts.filterMap Url.Token.param?).filter (keptByAll filters)) ++
    writeFragment (if fragmentDropped filters then none else fragmentOf ts) ++ [.finish]

/-! ## Filtering forms -/

/-- What filters leave of a form. -/
def restrict (filters : List (List Pattern.Token)) (f : Form) : Form :=
  { f with
    params := f.params.filter (keptByAll filters)
    fragment := if fragmentDropped filters then none else f.fragment }

variable {url pattern : List Char} {rules : List Pattern.Token} {f : Form}
variable (filters : List (List Pattern.Token))

theorem filtered_tokens (f : Form) : filtered filters f.tokens = (restrict filters f).tokens := by
  rw [filtered, authority, pathOf, fragmentOf, f.filter_isAuthority_tokens,
    f.filterMap_path?_tokens, f.filterMap_param?_tokens, f.findSome?_fragment?_tokens]
  rfl

/-- Filters in a row are one filter. -/
theorem restrict_restrict (rules : List Pattern.Token) (f : Form) :
    restrict filters (restrict [rules] f) = restrict (rules :: filters) f := by
  have hparams : (f.params.filter (keptByAll [rules])).filter (keptByAll filters) =
      f.params.filter (keptByAll (rules :: filters)) := by
    rw [List.filter_filter]
    refine List.filter_congr fun p _ => ?_
    simp [keptByAll, Bool.and_comm]
  have hfragment : (if fragmentDropped filters then none
      else if fragmentDropped [rules] then none else f.fragment) =
      if fragmentDropped (rules :: filters) then none else f.fragment := by
    have hcons : fragmentDropped (rules :: filters) =
        (fragmentDropped [rules] || fragmentDropped filters) := by
      simp [fragmentDropped]
    rw [hcons]
    cases fragmentDropped [rules] <;> cases fragmentDropped filters <;> rfl
  simp only [restrict, hparams, hfragment]

theorem IsFilter.leadingPathRules_eq_nil (hrules : IsFilter rules) :
    leadingPathRules rules = [] :=
  Pattern.leadingPathRules_append (fun r hr => hrules.path r (List.mem_of_mem_head? hr)) []

/-- A filter fits every form. -/
theorem apply_filter (hrules : IsFilter rules) (f : Form) :
    Apply.apply f.tokens rules = .ok (restrict [rules] f).tokens := by
  have hparams : keptParams f rules = f.params.filter (keptByAll [rules]) := by
    refine List.filter_congr fun p _ => ?_
    simp [keptByAll]
  have hfragment : keptFragment f rules =
      if fragmentDropped [rules] then none else f.fragment := by
    simp [keptFragment, fragmentDropped]
  refine Apply.apply_tokens_eq_ok_iff.mpr ⟨?_, pathTokens f.rooted f.segments, ?_, ?_⟩
  · exact fun t ht => absurd ht (hrules.fragment t)
  · rw [hrules.leadingPathRules_eq_nil]
    rfl
  · rw [hparams, hfragment]
    rfl

/-! ## Steady forms -/

/-- A form that is read as it is written, and stays so when entries or the fragment go: there is
a path behind an authority. -/
structure Steady (f : Form) : Prop extends f.Canonical where
  firm : f.Firm
  rooted : f.origin.isSome → f.rooted

theorem Steady.read_write (hf : Steady f) : read (write f.tokens) = f.tokens :=
  hf.toCanonical.read_write hf.firm.proper

/-- What a filter leaves of a steady form is steady. -/
theorem steady_restrict (hrules : IsFilter rules) (hf : Steady f) :
    Steady (restrict [rules] f) := by
  have hspaced : Pattern.Spaced (leadingPathRules rules) := by
    rw [hrules.leadingPathRules_eq_nil]
    trivial
  obtain ⟨g, hg, hreadable, hsorted, hfirm⟩ :=
    Apply.exists_form_of_apply hf.toCanonical hspaced (apply_filter hrules f)
  obtain rfl := Form.tokens_inj hg
  exact
    { toReadable := hreadable
      root := fun ho => .inl (hf.rooted ho)
      sorted := hsorted
      firm := hfirm hf.firm
      rooted := hf.rooted }

/-- The form of a URL is steady if it has no authority or a path. -/
theorem steady_ofText (hurl : ¬ Dangles url)
    (hpath : (∀ a, .authority a ∉ read url) ∨ pathOf (read url) ≠ []) :
    Steady (Form.ofText url) := by
  have hcanonical := Url.canonical_ofText url
  refine { toCanonical := hcanonical, firm := Url.firm_ofText hurl, rooted := ?_ }
  intro ho
  rw [Url.read_eq_ofText, pathOf, Form.filterMap_path?_tokens] at hpath
  rcases hpath with hnone | hne
  · obtain ⟨o, ho⟩ := Option.isSome_iff_exists.mp ho
    refine absurd ?_ (hnone o.authority)
    simp [Form.tokens, ho, Url.originTokens]
  · rcases hcanonical.path ho with hrooted | hsegments
    · exact hrooted
    · simpa [hsegments, pathTokens] using hne

/-- A filter takes away from the form that a text is read as, and leaves the rest. -/
theorem transform_filter (hread : read url = f.tokens) (hrules : IsFilter (rulesOf pattern)) :
    (transform url pattern).value = write (restrict [rulesOf pattern] f).tokens := by
  rw [value_transform, value_transformWith, hread, apply_filter hrules]

/-! ## Chains -/

/-- Only the first filter reads the URL as it was given; the others read what a filter wrote. -/
theorem transformAll_steady (hf : Steady f) (hread : read url = f.tokens)
    {patterns : List (List Char)} (hpatterns : ∀ p ∈ pattern :: patterns, IsFilter (rulesOf p)) :
    transformAll url (pattern :: patterns) =
      write (restrict ((pattern :: patterns).map rulesOf) f).tokens := by
  induction patterns generalizing url pattern f with
  | nil => exact transform_filter hread (hpatterns pattern List.mem_cons_self)
  | cons next patterns ih =>
    have hfilter : IsFilter (rulesOf pattern) := hpatterns pattern List.mem_cons_self
    have hstep := transform_filter hread hfilter
    have hg : Steady (restrict [rulesOf pattern] f) := steady_restrict hfilter hf
    have hrest := ih hg hg.read_write fun p hp => hpatterns p (List.mem_cons_of_mem _ hp)
    calc transformAll url (pattern :: next :: patterns)
        = transformAll (transform url pattern).value (next :: patterns) := rfl
      _ = transformAll (write (restrict [rulesOf pattern] f).tokens) (next :: patterns) := by
        rw [hstep]
      _ = write (restrict ((next :: patterns).map rulesOf)
            (restrict [rulesOf pattern] f)).tokens := hrest
      _ = write (restrict ((pattern :: next :: patterns).map rulesOf) f).tokens := by
        rw [restrict_restrict]
        rfl

/-- What filters leave does not depend on their order, nor on how often one of them stands
there. -/
theorem filtered_congr {filters others : List (List Pattern.Token)} (h : filters ⊆ others)
    (h' : others ⊆ filters) (ts : List Url.Token) : filtered filters ts = filtered others ts := by
  have hkept : keptByAll filters = keptByAll others := by
    funext p
    rw [keptByAll, keptByAll, Bool.eq_iff_iff, List.all_eq_true, List.all_eq_true]
    exact ⟨fun hall rules hr => hall rules (h' hr), fun hall rules hr => hall rules (h hr)⟩
  have hdropped : fragmentDropped filters = fragmentDropped others := by
    rw [fragmentDropped, fragmentDropped, Bool.eq_iff_iff, List.any_eq_true, List.any_eq_true]
    exact ⟨fun ⟨rules, hr, ht⟩ => ⟨rules, h hr, ht⟩, fun ⟨rules, hr, ht⟩ => ⟨rules, h' hr, ht⟩⟩
  rw [filtered, filtered, hkept, hdropped]

/-- A chain of filters leaves of a URL that has no authority or has a path what all of them
keep, in whatever order they come and however often each of them does. -/
theorem transformAll_filters {url : List Char} {patterns : List (List Char)}
    (hurl : ¬ Dangles url)
    (hpath : (∀ a, .authority a ∉ read url) ∨ pathOf (read url) ≠ []) (hne : patterns ≠ [])
    (hpatterns : ∀ p ∈ patterns, ∃ rules, Pattern.read p = .ok rules ∧ IsFilter rules) :
    transformAll url patterns = write (filtered (patterns.map rulesOf) (read url)) ∧
    ∀ others, others ⊆ patterns → patterns ⊆ others →
      transformAll url others = transformAll url patterns := by
  have hfilters : ∀ p ∈ patterns, IsFilter (rulesOf p) := by
    intro p hp
    obtain ⟨rules, hread, hrules⟩ := hpatterns p hp
    rwa [rulesOf_of_read hread]
  have hchain : ∀ others, others ≠ [] → others ⊆ patterns →
      transformAll url others = write (filtered (others.map rulesOf) (read url)) := by
    intro others hothers hsub
    obtain ⟨p, ps, rfl⟩ := List.exists_cons_of_ne_nil hothers
    rw [transformAll_steady (steady_ofText hurl hpath) (Url.read_eq_ofText url)
      fun q hq => hfilters q (hsub hq), Url.read_eq_ofText, filtered_tokens]
  refine ⟨hchain patterns hne fun p hp => hp, ?_⟩
  intro others hsub hsup
  have hothers : others ≠ [] := by
    rintro rfl
    exact hne (List.subset_nil.mp hsup)
  rw [hchain others hothers hsub, hchain patterns hne fun p hp => hp,
    filtered_congr (List.map_subset _ hsub) (List.map_subset _ hsup)]

/-- Two lists of names and a fragment that is dropped, in another order as well. An authority
without a path gets the root path when there are two filters and not one. -/
theorem transformAll_filters_lists :
    let url := "s://h/?c&b=2&a=1&b=1#f".toList
    let patterns := ["?[a,b]".toList, "?[^a]#-".toList]
    transformAll url patterns = "s://h/?b=1&b=2".toList ∧
      transformAll url ["?[^a]#-".toList, "?[a,b]".toList, "?[^a]#-".toList] =
        transformAll url patterns ∧
      transformAll "s://h?x".toList ["?-".toList] ≠
        transformAll "s://h?x".toList ["?-".toList, "?-".toList] := by
  intro url patterns
  let allow : List Pattern.Token :=
    [.query .allowList, .query (.name ['a']), .query (.name ['b']), .finish]
  let deny : List Pattern.Token :=
    [.query .denyList, .query (.name ['a']), .fragment .omitFragment, .finish]
  have hallow : Pattern.read "?[a,b]".toList = .ok allow := by cbv
  have hdeny : Pattern.read "?[^a]#-".toList = .ok deny := by cbv
  have hpatterns : ∀ p ∈ patterns, ∃ rules, Pattern.read p = .ok rules ∧ IsFilter rules := by
    intro p hp
    simp only [patterns, List.mem_cons, List.not_mem_nil, or_false] at hp
    obtain rfl | rfl := hp
    · exact ⟨allow, hallow, by decide, by simp [allow]⟩
    · exact ⟨deny, hdeny, by decide, by simp [deny]⟩
  have hread : read url =
      [.scheme ['s'], .schemeSeparator, .authority ['h'], .path .separator, .querySeparator,
        .param (.ofRaw "a=1".toList), .paramSeparator, .param (.ofRaw "b=1".toList),
        .paramSeparator, .param (.ofRaw "b=2".toList), .paramSeparator, .param (.ofRaw ['c']),
        .fragmentSeparator, .fragment ['f'], .finish] := by
    simp only [url]
    cbv
  have hrules : patterns.map rulesOf = [allow, deny] := by
    rw [List.map_cons, List.map_cons, List.map_nil, rulesOf_of_read hallow, rulesOf_of_read hdeny]
  have hkept : filtered (patterns.map rulesOf) (read url) =
      [.scheme ['s'], .schemeSeparator, .authority ['h'], .path .separator, .querySeparator,
        .param (.ofRaw "b=1".toList), .paramSeparator, .param (.ofRaw "b=2".toList),
        .finish] := by
    rw [hrules, hread]
    cbv
  have hpath : pathOf (read url) ≠ [] := by
    rw [hread]
    decide
  obtain ⟨hvalue, horder⟩ :=
    transformAll_filters (by decide) (.inr hpath) (List.cons_ne_nil _ _) hpatterns
  rw [hkept] at hvalue
  have hfiltered : transformAll url patterns = "s://h/?b=1&b=2".toList := by
    rw [hvalue]
    decide
  refine ⟨hfiltered, horder _ ?_ ?_, by decide +kernel⟩
  · simp
  · simp

end UrlTemplate
