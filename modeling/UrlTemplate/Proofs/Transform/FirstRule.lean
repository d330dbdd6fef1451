import UrlTemplate.Proofs.Apply.Redaction
import UrlTemplate.Proofs.Pattern.Literal
import UrlTemplate.Proofs.Transform.Repetition

/-!
# The first rule for a path

A glob that is all that a pattern says about the path takes any path as it is, as if nothing were
said about it; only a path of which there is nothing does not fit it. A rule for a segment at the
start of a pattern takes the separator at the start of the path along, as if there were a
separator before it.

* `apply_path_cons`: a path rule in front matters only to the path.
* `transform_lone_glob`: a glob alone is no rule at all.
* `read_slash`: a `/` before a pattern that starts with a segment only adds its separator.
* `tryTransform_slash`: where the path starts with a separator, the two patterns say the same.
-/

namespace UrlTemplate.Apply

open Pattern (PathRule)
open Url (PathToken pathOf)

variable {url : List Url.Token} {rules : List Pattern.Token}

/-- A path rule in front of others matters only to the path. -/
theorem apply_path_cons {r : PathRule}
    (h : fitPath (copiesRest (.path r :: rules)) (leadingPathRules (.path r :: rules))
        (pathOf url) =
      fitPath (copiesRest rules) (leadingPathRules rules) (pathOf url)) :
    apply url (.path r :: rules) = apply url rules := by
  have hquery : applyQuery url (.path r :: rules) = applyQuery url rules := rfl
  have hfragment : ∀ found, omitsFragment found (.path r :: rules) = omitsFragment found rules :=
    fun _ => rfl
  rw [apply_eq, apply_eq, h, hquery, hfragment]

/-! ## A glob alone -/

/-- A glob that is the only rule takes all of a path. -/
theorem fitPath_glob (copyRest : Bool) {path : List PathToken} (h : path ≠ []) :
    fitPath copyRest [.glob] path = .ok path := by
  obtain ⟨t, path, rfl⟩ := List.exists_cons_of_ne_nil h
  rw [fitPath_cons]
  cases t with
  | separator =>
    rw [enter_separator rfl]
    simp [walk, Written.flush, Written.copy, Written.finish, pure, Except.pure]
  | segment text =>
    rw [enter_plain (by simp)]
    simp [walk, Written.flush, Written.copy, Written.finish, pure, Except.pure]

/-- A glob before rules for a query or a fragment leaves a path as it is. -/
theorem apply_glob (hpath : pathOf url ≠ []) (hrules : ∀ r ∈ rules.head?, r.isPath = false) :
    apply url (.path .glob :: rules) = apply url rules := by
  have hnil : leadingPathRules rules = [] := Pattern.leadingPathRules_append hrules []
  refine apply_path_cons ?_
  rw [Pattern.leadingPathRules_path, hnil, fitPath_glob _ hpath]
  rfl

/-! ## A separator before a segment -/

theorem fitPath_separator (copyRest : Bool) {r : PathRule} (hr : r.isSegment)
    (rules : List PathRule) (path : List PathToken) :
    fitPath copyRest (.separator :: r :: rules) (.separator :: path) =
      fitPath copyRest (r :: rules) (.separator :: path) := by
  rw [fitPath_cons, fitPath_cons, enter_separator hr, enter_plain (by simp [PathRule.isSegment])]
  exact walk_separator r rules path _

/-- What stands before path rules does not change whether they keep the rest of a path. -/
theorem copiesRest_path_cons (r : PathRule) (h : leadingPathRules rules ≠ []) :
    copiesRest (.path r :: rules) = copiesRest rules := by
  have hmarker : stopsAtMarker (.path r :: rules) = stopsAtMarker rules := rfl
  rw [copiesRest, copiesRest, hmarker, Pattern.leadingPathRules_path, List.getLast?_cons,
    List.getLast?_eq_some_getLast h, Option.getD_some]

/-- If the path starts with a separator, it may be asked for before a segment or not. -/
theorem apply_separator {r : PathRule} (hpath : (pathOf url).head? = some .separator)
    (hfirst : rules.head? = some (.path r)) (hr : r.isSegment) :
    apply url (.path .separator :: rules) = apply url rules := by
  obtain ⟨rules, rfl⟩ := List.head?_eq_some_iff.mp hfirst
  obtain ⟨path, hpath⟩ := List.head?_eq_some_iff.mp hpath
  refine apply_path_cons ?_
  rw [copiesRest_path_cons _ (by simp), Pattern.leadingPathRules_path, hpath]
  exact fitPath_separator _ hr _ path

end UrlTemplate.Apply

namespace UrlTemplate.Pattern

open Escape

variable {pattern : List Char} {rules : List Token}

theorem sortNames_path_cons (r : PathRule) (ts : List Token) :
    sortNames (.path r :: ts) = .path r :: sortNames ts := by
  rw [sortNames, sortWithin, List.filterMap_cons_none rfl, refill_cons_none rfl]
  rfl

/-- A `/` before a path says a separator, and lets the path say what it says alone, unless that
is a `-` and so the whole of it. -/
theorem pathRules_slash {path : List Item} (h : IsPath path) (hne : path ≠ [.bare '-']) :
    IsPath (.bare '/' :: path) ∧ pathRules (.bare '/' :: path) = .separator :: pathRules path := by
  obtain ⟨hclear, hspread⟩ := isPath_iff.mp h
  have hslash : ∀ c ∈ ['[', ']', ',', '?', '#'], .bare c ∉ .bare '/' :: path :=
    clear_cons_iff.mpr ⟨by simp, hclear⟩
  refine ⟨isPath_iff.mpr ⟨hslash, by simp, by simpa using hspread⟩, ?_⟩
  simp [pathRules, hne, rulesFrom]

/-- A `/` before a pattern that starts with a segment only adds its separator. -/
theorem read_slash {r : PathRule} (h : read pattern = .ok rules)
    (hfirst : rules.head? = some (.path r)) (hr : r.isSegment) :
    read ('/' :: pattern) = .ok (.path .separator :: rules) := by
  obtain ⟨ts, hts, rfl⟩ := read_eq_ok_iff.mp h
  obtain ⟨path, rest, more, hitems, hpath, hmore, rfl⟩ := scan_eq_ok_iff.mp hts
  have hne : path ≠ [.bare '-'] := by
    -- that would say the rule for the whole path, which is not for a segment
    rintro rfl
    have homit : pathRules [.bare '-'] = [.omitPath] := rfl
    rw [homit, List.map_cons, List.cons_append, sortNames_path_cons] at hfirst
    cases hfirst
    cases hr
  obtain ⟨hslash, hrules⟩ := pathRules_slash hpath hne
  have hscan := scan_eq_ok_iff.mpr ⟨.bare '/' :: path, rest, more,
    by rw [items_bare (c := '/') (by decide), hitems, List.cons_append], hslash, hmore, rfl⟩
  refine read_eq_ok_iff.mpr ⟨_, hscan, ?_⟩
  rw [hrules, List.map_cons, List.cons_append, sortNames_path_cons]

end UrlTemplate.Pattern

namespace UrlTemplate

open Apply (apply)
open Url (pathOf read)

variable {pattern : List Char} {rules : List Pattern.Token}

/-- The rules of a glob alone. -/
theorem read_glob : Pattern.read ['*'] = .ok (.path .glob :: Pattern.empty) := by decide +kernel

theorem read_nil : Pattern.read [] = .ok Pattern.empty := by decide +kernel

/-- A glob fits every path but the one of which there is nothing. -/
theorem apply_glob_of_nil {ts : List Url.Token} (h : pathOf ts = []) :
    apply ts (.path .glob :: Pattern.empty) = .error .noSegment := by
  rw [Apply.apply_eq, h]
  rfl

/-- A glob that is alone in front of rules for a query or a fragment says nothing about a path
that there is. So a glob alone does what the empty pattern does, also where there is no path:
there it does not fit, and the empty pattern takes its place. -/
theorem transform_lone_glob :
    (∀ url rules, pathOf url ≠ [] → (∀ r ∈ rules.head?, r.isPath = false) →
      apply url (.path .glob :: rules) = apply url rules) ∧
    (∀ url, (transform url ['*']).value = (transform url []).value) ∧
    ∀ url, pathOf (read url) = [] →
      (tryTransform url ['*']).value = .error (.mismatch .noSegment) := by
  refine ⟨fun url rules => Apply.apply_glob, fun url => ?_, fun url hpath => ?_⟩
  · rw [value_transform, value_transform, rulesOf_of_read read_glob, rulesOf_of_read read_nil,
      value_transformWith, value_transformWith, apply_read_empty]
    by_cases hpath : pathOf (read url) = []
    · rw [apply_glob_of_nil hpath, value_normalize]
      rfl
    · rw [Apply.apply_glob hpath (by decide), apply_read_empty]
  · simp only [value_tryTransform, read_glob, apply_glob_of_nil hpath]

/-- A path that no URL has, before a fragment that does not fit; and a URL without a path, which
is normalized. -/
theorem transform_lone_glob_each :
    let ts : List Url.Token := [.path .separator, .fragment ['f'], .path .separator,
      .path (.segment ['a'])]
    let rules : List Pattern.Token := [.query .omitQuery, .fragment (.matchFragment ['g']),
      .path .omitPath]
    let url := "s://h?y&x".toList
    apply ts rules = .error (.fragment ['g'] (some ['f'])) ∧
    apply ts (.path .glob :: rules) = .error (.fragment ['g'] (some ['f'])) ∧
    (tryTransform url ['*']).value = .error (.mismatch .noSegment) ∧
    (transform url ['*']).value = "s://h?x&y".toList := by
  intro ts rules url
  have herror : apply ts rules = .error (.fragment ['g'] (some ['f'])) := by cbv
  have hglob := transform_lone_glob.1 ts rules (by decide) (by decide)
  have hpath : pathOf (read url) = [] := by
    simp only [url]
    cbv
  have hvalue : (transform url []).value = "s://h?x&y".toList := by
    simp only [url]
    cbv
  exact ⟨herror, hglob.trans herror, transform_lone_glob.2.2 url hpath,
    (transform_lone_glob.2.1 url).trans hvalue⟩

/-- A pattern that starts with a rule for a segment means the same with a `/` before it, where the
path starts with a separator. -/
theorem tryTransform_slash {r : Pattern.PathRule} (h : Pattern.read pattern = .ok rules)
    (hfirst : rules.head? = some (.path r)) (hr : r.isSegment) :
    Pattern.read ('/' :: pattern) = .ok (.path .separator :: rules) ∧
    ∀ url, (pathOf (read url)).head? = some .separator →
      (tryTransform url ('/' :: pattern)).value = (tryTransform url pattern).value := by
  have hslash := Pattern.read_slash h hfirst hr
  refine ⟨hslash, fun url hpath => ?_⟩
  rw [value_tryTransform, value_tryTransform, hslash, h]
  simp only [Apply.apply_separator hpath hfirst hr]

/-- A segment is omitted, and the path fits or comes to its end too early. -/
theorem tryTransform_slash_omitted :
    let pattern := "-/b*#f".toList
    let long := "s://h/a//b/c#f".toList
    let short := "s://h/a#f".toList
    Pattern.read ('/' :: pattern) = .ok [.path .separator, .path .omitSegment, .path .separator,
      .path (.matchSegment ['b']), .path .glob, .fragment (.matchFragment ['f']), .finish] ∧
    (tryTransform long ('/' :: pattern)).value = .ok "s://h/b/c#f".toList ∧
    (tryTransform short ('/' :: pattern)).value = .error (.mismatch .noSeparator) := by
  intro pattern long short
  have hread : Pattern.read pattern = .ok [.path .omitSegment, .path .separator,
      .path (.matchSegment ['b']), .path .glob, .fragment (.matchFragment ['f']), .finish] := by
    decide +kernel
  obtain ⟨hslash, hsame⟩ := tryTransform_slash hread rfl rfl
  have hlong : (tryTransform long pattern).value = .ok "s://h/b/c#f".toList := by decide +kernel
  have hshort : (tryTransform short pattern).value = .error (.mismatch .noSeparator) := by
    decide +kernel
  exact ⟨hslash, (hsame long (by decide +kernel)).trans hlong,
    (hsame short (by decide +kernel)).trans hshort⟩

end UrlTemplate
