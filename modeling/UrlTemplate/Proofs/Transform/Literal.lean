import UrlTemplate.Proofs.Pattern.Literal
import UrlTemplate.Proofs.Pattern.PathRules
import UrlTemplate.Proofs.Transform.Recovery
import UrlTemplate.Proofs.Url.RoundTrip

/-!
# What literal patterns match

A literal pattern fits the URLs whose rooted path starts with its segments, and which have its
fragment if it has one, however these are escaped. Whether the rest of the path is kept depends
on the fragment. A URL that does not dangle fits the pattern that spells it out, and nothing of
it is lost then.

* `fitPath_literal_iff`: which paths fit literal rules, and what is kept of them.
* `apply_literal_iff`: which forms fit.
* `tryTransform_literalPattern`: the URLs that fit the pattern which spells a URL out.
-/

namespace UrlTemplate.Apply

open Escape
open Pattern (literalRules literalFragmentRules literalTokens)
open Url (Form PathToken followers pathTokens)

variable {segments ts : List (List Char)} {fragment : Option (List Char)} {copyRest : Bool}

/-! ## The path -/

/-- Walking literal rules takes one segment after the other. -/
theorem walk_literal_iff {w : Written} {out : List PathToken} (hw : w.pending = false) :
    walk copyRest (literalRules segments) (followers ts) w = .ok out ↔
      segments.map unescape <+: ts.map unescape ∧
        out = w.tokens ++ followers (if copyRest then ts else ts.take segments.length) := by
  induction segments generalizing ts w with
  | nil =>
    have hend : walk copyRest (literalRules []) (followers ts) w =
        .ok (w.tokens ++ followers (if copyRest then ts else [])) := by
      cases copyRest <;> simp [literalRules, walk, Written.finish, Written.copy, hw, pure,
        Except.pure]
    simp [hend, eq_comm]
  | cons s segments ih =>
    cases ts with
    | nil =>
      have herror : walk copyRest (literalRules (s :: segments)) (followers []) w =
          .error .noSeparator := rfl
      rw [herror]
      simp
    | cons t ts =>
      have hstep : walk copyRest (literalRules (s :: segments)) (followers (t :: ts)) w =
          if unescape t = unescape s then walk copyRest (literalRules segments) (followers ts)
            (Written.segment { w with pending := true } t)
          else .error (.segment (unescape s) t) := rfl
      rw [hstep]
      by_cases hst : unescape t = unescape s
      · rw [if_pos hst, ih rfl, List.map_cons, List.map_cons, hst, List.cons_prefix_cons]
        cases copyRest <;> simp [Written.segment, Written.flush, followers]
      · simp [hst, Ne.symm hst]

/-- Literal rules fit the rooted paths that start with their segments. -/
theorem fitPath_literal_iff {rooted : Bool} {out : List PathToken} (hne : segments ≠ []) :
    fitPath copyRest (literalRules segments) (pathTokens rooted ts) = .ok out ↔
      rooted = true ∧ segments.map unescape <+: ts.map unescape ∧
        out = pathTokens true (if copyRest then ts else ts.take segments.length) := by
  obtain ⟨s, segments, rfl⟩ := List.exists_cons_of_ne_nil hne
  have hfit : fitPath copyRest (literalRules (s :: segments)) (pathTokens rooted ts) =
      walk copyRest (literalRules (s :: segments)) (pathTokens rooted ts) {} := rfl
  rw [hfit]
  cases ts with
  | nil =>
    have herror : ∃ e, walk copyRest (literalRules (s :: segments)) (pathTokens rooted []) {} =
        .error e := by
      cases rooted <;> exact ⟨_, rfl⟩
    obtain ⟨e, he⟩ := herror
    simp [he]
  | cons t ts =>
    cases rooted with
    | false =>
      have herror : walk copyRest (literalRules (s :: segments)) (pathTokens false (t :: ts)) {} =
        .error .noSeparator := rfl
      simp [herror]
    | true =>
      have hpath : pathTokens true (t :: ts) = followers (t :: ts) := rfl
      rw [hpath, walk_literal_iff rfl]
      cases copyRest <;> simp [pathTokens, followers, Url.joinSegments]

/-! ## The other parts -/

/-- No path rule stands behind the segments. -/
theorem not_isPath_literalFragmentRules (fragment : Option (List Char)) :
    ∀ t ∈ (literalFragmentRules fragment ++ [Pattern.Token.finish]).head?, t.isPath = false := by
  intro t ht
  obtain ⟨text, rfl⟩ | rfl :=
    Pattern.mem_literalFragmentRules (List.mem_of_mem_head? ht) <;> rfl

theorem leadingPathRules_literalTokens (segments : List (List Char))
    (fragment : Option (List Char)) :
    leadingPathRules (literalTokens segments fragment) = literalRules segments :=
  Pattern.leadingPathRules_append (not_isPath_literalFragmentRules fragment) _

/-- The rest of the path is kept if a fragment is asked for. -/
theorem copiesRest_literalTokens (hne : segments ≠ []) (fragment : Option (List Char)) :
    copiesRest (literalTokens segments fragment) = fragment.isSome := by
  have hmarker : stopsAtMarker (literalTokens segments fragment) = fragment.isSome := by
    rw [literalTokens, Pattern.stopsAtMarker_append (not_isPath_literalFragmentRules fragment)]
    cases fragment <;> rfl
  have hlast : (literalRules segments).getLast?.any Pattern.PathRule.isSegment := by
    obtain rfl | ⟨init, t, rfl⟩ := List.eq_nil_or_concat segments
    · exact absurd rfl hne
    · simp [literalRules, Pattern.PathRule.isSegment]
  rw [copiesRest, hmarker, leadingPathRules_literalTokens, hlast, Bool.and_true]

theorem keptParams_literalTokens (f : Form) (segments : List (List Char))
    (fragment : Option (List Char)) :
    keptParams f (literalTokens segments fragment) = f.params := by
  have haction : QueryAction.ofPattern (literalTokens segments fragment) = .showAll := by
    rw [QueryAction.ofPattern, List.findSome?_eq_none_iff.mpr]
    · rfl
    · intro t ht
      obtain ⟨r, rfl⟩ | ⟨text, rfl⟩ | rfl := Pattern.mem_literalTokens ht <;> rfl
  rw [keptParams, haction]
  exact List.filter_eq_self.mpr fun _ _ => rfl

theorem keptFragment_literalTokens (f : Form) (segments : List (List Char))
    (fragment : Option (List Char)) :
    keptFragment f (literalTokens segments fragment) = f.fragment := by
  have hkept : (literalTokens segments fragment).any (· = .fragment .omitFragment) = false := by
    cases fragment <;> simp [literalTokens, literalFragmentRules]
  simp [keptFragment, hkept]

/-- A fragment that is asked for must be there. -/
theorem asked_literalTokens_iff {found : Option (List Char)} :
    (∀ t, .fragment (.matchFragment t) ∈ literalTokens segments fragment →
        found.map unescape = some t) ↔
      ∀ t ∈ fragment, ∃ u ∈ found, unescape u = unescape t := by
  have hasked : ∀ text, .fragment (.matchFragment text) ∈ literalTokens segments fragment ↔
      ∃ t ∈ fragment, text = unescape t := by
    intro text
    cases fragment <;> simp [literalTokens, literalFragmentRules]
  constructor
  · intro h t ht
    exact Option.map_eq_some_iff.mp (h _ ((hasked _).mpr ⟨t, ht, rfl⟩))
  · intro h text htext
    obtain ⟨t, ht, rfl⟩ := (hasked text).mp htext
    exact Option.map_eq_some_iff.mpr (h t ht)

/-- Literal rules fit the forms whose rooted path starts with the segments, and which have the
fragment if one is asked for. -/
theorem apply_literal_iff {f : Form} {out : List Url.Token} (hne : segments ≠ []) :
    apply f.tokens (literalTokens segments fragment) = .ok out ↔
      f.rooted = true ∧ segments.map unescape <+: f.segments.map unescape ∧
      (∀ t ∈ fragment, ∃ u ∈ f.fragment, unescape u = unescape t) ∧
      out = Form.tokens { f with
        rooted := true
        segments := if fragment.isSome then f.segments else f.segments.take segments.length } := by
  rw [apply_tokens_eq_ok_iff, asked_literalTokens_iff, leadingPathRules_literalTokens,
    copiesRest_literalTokens hne, keptParams_literalTokens, keptFragment_literalTokens]
  constructor
  · rintro ⟨hfragment, path, hpath, rfl⟩
    obtain ⟨hroot, hsegments, rfl⟩ := (fitPath_literal_iff hne).mp hpath
    exact ⟨hroot, hsegments, hfragment, rfl⟩
  · rintro ⟨hroot, hsegments, hfragment, rfl⟩
    exact ⟨hfragment, _, (fitPath_literal_iff hne).mpr ⟨hroot, hsegments, rfl⟩, rfl⟩

end UrlTemplate.Apply

namespace UrlTemplate

open Escape
open Pattern (literalPattern literalTokens read_literalPattern unescape_ne_nil)
open Url (Form PathToken Token followers pathTokens read write)

/-- The paths with a separator before each segment are those of rooted segments. -/
theorem followers_eq_pathTokens {segments : List (List Char)} (hne : segments ≠ []) :
    followers segments = pathTokens true segments := by
  cases segments with
  | nil => exact absurd rfl hne
  | cons t segments => rfl

/-- The tokens that fit literal rules. -/
theorem exists_apply_read_iff {segments : List (List Char)} {fragment : Option (List Char)}
    (hne : segments ≠ []) (url : List Char) :
    (∃ ts, Apply.apply (read url) (literalTokens segments fragment) = .ok ts) ↔
      (Url.pathOf (read url)).head? = some .separator ∧
      segments.map unescape <+: (Url.segmentsOf (read url)).map unescape ∧
      ∀ t ∈ fragment, ∃ u ∈ Url.fragmentOf (read url), unescape u = unescape t := by
  rw [Url.read_eq_ofText, Form.segmentsOf_tokens, Url.fragmentOf, Form.findSome?_fragment?_tokens,
    Url.pathOf, Form.filterMap_path?_tokens, Url.head?_pathTokens]
  constructor
  · rintro ⟨ts, hts⟩
    obtain ⟨hrooted, hsegments, hfragment, -⟩ := (Apply.apply_literal_iff hne).mp hts
    exact ⟨hrooted, hsegments, hfragment⟩
  · rintro ⟨hrooted, hsegments, hfragment⟩
    exact ⟨_, (Apply.apply_literal_iff hne).mpr ⟨hrooted, hsegments, hfragment, rfl⟩⟩

/-- A URL fits the rules that spell it out, and keeps all its tokens. -/
theorem apply_literal_self {f : Form} (hne : f.segments ≠ []) (hrooted : f.rooted = true) :
    Apply.apply f.tokens (literalTokens f.segments f.fragment) = .ok f.tokens := by
  refine (Apply.apply_literal_iff hne).mpr ⟨hrooted, List.prefix_rfl, fun t ht => ⟨t, ht, rfl⟩, ?_⟩
  rw [List.take_length, ite_self, ← hrooted]

/-- The pattern that spells the path and the fragment of a URL out fits that URL and keeps all
of it. It fits exactly the URLs whose path is rooted and starts with the same segments, and
which have the same fragment if the first one has one. -/
theorem tryTransform_literalPattern {url : List Char} {segments : List (List Char)}
    (hurl : ¬ Dangles url) (hne : segments ≠ [])
    (hpath : Url.pathOf (read url) = followers segments) :
    (tryTransform url (literalPattern segments (Url.fragmentOf (read url)))).value =
      .ok (normalize url).value ∧
    ∀ other, (∃ out, (tryTransform other
        (literalPattern segments (Url.fragmentOf (read url)))).value = .ok out) ↔
      (Url.pathOf (read other)).head? = some .separator ∧
      segments.map unescape <+: (Url.segmentsOf (read other)).map unescape ∧
      ∀ t ∈ Url.fragmentOf (read url), ∃ u ∈ Url.fragmentOf (read other),
        unescape u = unescape t := by
  have hfirm := Url.firm_ofText hurl
  rw [Url.pathOf, Url.read_eq_ofText, Form.filterMap_path?_tokens,
    followers_eq_pathTokens hne] at hpath
  obtain ⟨hrooted, rfl⟩ := Url.pathTokens_inj hpath
  have hfragment : Url.fragmentOf (read url) = (Form.ofText url).fragment := by
    rw [Url.fragmentOf, Url.read_eq_ofText, Form.findSome?_fragment?_tokens]
  rw [hfragment]
  have hpattern := read_literalPattern
    (fun t ht => unescape_ne_nil (Url.mem_segments_ofText url ht).1 (hfirm.segments t ht))
    (fun t ht => unescape_ne_nil (Url.mem_fragment_ofText url ht).1 (hfirm.fragment t ht))
  constructor
  · have happly := apply_literal_self hne hrooted
    rw [← Url.read_eq_ofText] at happly
    exact tryTransform_eq_ok_iff.mpr ⟨_, _, hpattern, happly, value_normalize url⟩
  · intro other
    rw [exists_tryTransform_eq_ok_iff other hpattern, exists_apply_read_iff hne other]

/-- Protected characters are met by the same characters, bare or not, and others are not. -/
theorem tryTransform_literalPattern_escaped :
    let url := "s://h/a\\/b//\\c?q#f\\*".toList
    let pattern := "/\\a\\/\\b/\\c#\\f\\*".toList
    literalPattern ["a\\/b".toList, "\\c".toList] (some "f\\*".toList) = pattern ∧
      (tryTransform url pattern).value = .ok (normalize url).value ∧
      (∃ out, (tryTransform "/\\a\\/b/c/d#f*".toList pattern).value = .ok out) ∧
      ¬ ∃ out, (tryTransform "/a/b/c#f*".toList pattern).value = .ok out := by
  intro url pattern
  have hpattern : literalPattern ["a\\/b".toList, "\\c".toList] (some "f\\*".toList) = pattern := by
    decide
  have hfragment : Url.fragmentOf (read url) = some "f\\*".toList := by decide +kernel
  have hpath : Url.pathOf (read url) = followers ["a\\/b".toList, "\\c".toList] := by
    decide +kernel
  have h := tryTransform_literalPattern (by decide) (by decide) hpath
  rw [hfragment, hpattern] at h
  refine ⟨hpattern, h.1, (h.2 _).mpr ?_, fun hout => ?_⟩
  · decide +kernel
  · exact absurd ((h.2 _).mp hout) (by decide +kernel)

end UrlTemplate
