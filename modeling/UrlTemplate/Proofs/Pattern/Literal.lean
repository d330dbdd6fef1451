import UrlTemplate.Proofs.Pattern.Language

/-!
# Literal patterns

A pattern that spells a path and a fragment out protects every character of them, so that none
of them has a meaning of its own. Texts that come from a URL are unescaped before.

* `literalPattern`: the pattern of some segments and maybe a fragment.
* `read_literalPattern`: it can be read, and asks for these segments and this fragment.
-/

namespace UrlTemplate.Pattern

open Escape

/-! ## Spelling a text -/

/-- What a text says, with a backslash put before every character. -/
def spell (text : List Char) : List Char := (unescape text).flatMap fun c => ['\\', c]

/-- The pattern that asks for these segments, and for the fragment if there is one. -/
def literalPattern (segments : List (List Char)) (fragment : Option (List Char)) : List Char :=
  (segments.flatMap fun t => '/' :: spell t) ++
    match fragment with
    | none => []
    | some t => '#' :: spell t

/-- The rules for the segments, each behind its separator. -/
def literalRules (segments : List (List Char)) : List PathRule :=
  segments.flatMap fun t => [.separator, .matchSegment (unescape t)]

/-- The rule for the fragment. -/
def literalFragmentRules : Option (List Char) → List Token
  | none => []
  | some t => [.fragment (.matchFragment (unescape t))]

/-- The tokens that ask for the segments and the fragment. -/
def literalTokens (segments : List (List Char)) (fragment : Option (List Char)) : List Token :=
  (literalRules segments).map .path ++ (literalFragmentRules fragment ++ [.finish])

theorem mem_literalFragmentRules {fragment : Option (List Char)} {t : Token}
    (h : t ∈ literalFragmentRules fragment ++ [.finish]) :
    (∃ text, t = .fragment (.matchFragment text)) ∨ t = .finish := by
  cases fragment with
  | none => exact .inr (by simpa [literalFragmentRules] using h)
  | some f =>
    simp only [literalFragmentRules, List.mem_append, List.mem_singleton] at h
    exact h.imp_left fun h => ⟨_, h⟩

theorem mem_literalTokens {segments : List (List Char)} {fragment : Option (List Char)} {t : Token}
    (h : t ∈ literalTokens segments fragment) :
    (∃ r, t = .path r) ∨ (∃ text, t = .fragment (.matchFragment text)) ∨ t = .finish := by
  rcases List.mem_append.mp h with h | h
  · obtain ⟨r, -, rfl⟩ := List.mem_map.mp h
    exact .inl ⟨r, rfl⟩
  · exact .inr (mem_literalFragmentRules h)

/-- A text that is not empty and does not dangle says something. -/
theorem unescape_ne_nil {text : List Char} (hne : text ≠ []) (hd : ¬ Dangles text) :
    unescape text ≠ [] := by
  intro h
  rw [dangles_iff] at hd
  rw [unescape_eq_plainOf] at h
  have hitems : items text ≠ [] := mt items_eq_nil.mp hne
  cases hl : items text with
  | nil => exact hitems hl
  | cons i l =>
    rw [hl, plainOf_cons, List.append_eq_nil_iff] at h
    cases i with
    | pair c => cases h.1
    | bare c =>
      by_cases hc : c = '\\'
      · exact hd (by simp [hl, hc])
      · rw [Item.plain_bare hc] at h
        cases h.1

/-! ## The items of a literal pattern -/

/-- The items of the path of a literal pattern. -/
def literalPath (segments : List (List Char)) : List Item :=
  segments.flatMap fun t => .bare '/' :: (unescape t).map .pair

/-- The items of its fragment. -/
def literalFragment : Option (List Char) → List Item
  | none => []
  | some t => .bare '#' :: (unescape t).map .pair

theorem textOf_map_pair (s : List Char) : textOf (s.map .pair) = s.flatMap fun c => ['\\', c] := by
  induction s with
  | nil => rfl
  | cons c s ih => simp [Item.text, ih]

theorem plainOf_map_pair (s : List Char) : plainOf (s.map .pair) = s := by
  induction s with
  | nil => rfl
  | cons c s ih => simp [Item.plain, ih]

/-- Only separators stand bare in the path. -/
theorem bare_mem_literalPath {c : Char} {segments : List (List Char)}
    (h : .bare c ∈ literalPath segments) : c = '/' := by
  obtain ⟨t, -, ht⟩ := List.mem_flatMap.mp h
  simpa using ht

theorem textOf_literalPath (segments : List (List Char)) :
    textOf (literalPath segments) = segments.flatMap fun t => '/' :: spell t := by
  induction segments with
  | nil => rfl
  | cons t segments ih =>
    have hcons : literalPath (t :: segments) =
        .bare '/' :: (unescape t).map .pair ++ literalPath segments := rfl
    rw [hcons, textOf_append, textOf_cons, textOf_map_pair, ih]
    rfl

theorem items_literalPattern (segments : List (List Char)) (fragment : Option (List Char)) :
    items (literalPattern segments fragment) =
      literalPath segments ++ literalFragment fragment := by
  have hfragment : .bare '\\' ∉ literalFragment fragment := by
    cases fragment <;> simp [literalFragment]
  have hstray : .bare '\\' ∉ literalPath segments ++ literalFragment fragment := by
    rw [List.mem_append, not_or]
    exact ⟨fun h => absurd (bare_mem_literalPath h) (by decide), hfragment⟩
  rw [← items_textOf (proper_of_not_mem hstray), textOf_append, textOf_literalPath]
  cases fragment with
  | none => rfl
  | some t => rw [literalFragment, textOf_cons, textOf_map_pair]; rfl

/-! ## Reading it -/

theorem isPath_literalPath (segments : List (List Char)) : IsPath (literalPath segments) := by
  constructor
  · intro c hc h
    obtain rfl := bare_mem_literalPath h
    exact absurd hc (by decide)
  · intro before after he
    have hminus : .bare '-' ∈ literalPath segments := by simp [he]
    exact absurd (bare_mem_literalPath hminus) (by decide)

theorem rulesFrom_map_pair (s w : List Char) (l : List Item) :
    rulesFrom w (s.map .pair ++ l) = rulesFrom (w ++ s) l := by
  rw [rulesFrom_append (by simp), plainOf_map_pair]

theorem rulesFrom_literalPath {segments : List (List Char)}
    (h : ∀ t ∈ segments, unescape t ≠ []) (w : List Char) :
    rulesFrom w (literalPath segments) =
      (nonEmpty w).map .matchSegment ++ literalRules segments := by
  induction segments generalizing w with
  | nil => simp [literalPath, literalRules, rulesFrom]
  | cons t segments ih =>
    obtain ⟨ht, hsegments⟩ := List.forall_mem_cons.mp h
    have hcons : literalPath (t :: segments) =
        .bare '/' :: ((unescape t).map .pair ++ literalPath segments) := rfl
    rw [hcons, rulesFrom, if_pos rfl, rulesFrom_map_pair, ih hsegments]
    simp [nonEmpty, ht, literalRules]

theorem pathRules_literalPath {segments : List (List Char)}
    (h : ∀ t ∈ segments, unescape t ≠ []) :
    pathRules (literalPath segments) = literalRules segments := by
  have hne : literalPath segments ≠ [.bare '-'] := by
    intro he
    have hminus : .bare '-' ∈ literalPath segments := by simp [he]
    exact absurd (bare_mem_literalPath hminus) (by decide)
  rw [pathRules, if_neg hne, rulesFrom_literalPath h]
  rfl

theorem fragmentRules_literalFragment {fragment : Option (List Char)}
    (h : ∀ t ∈ fragment, unescape t ≠ []) :
    fragmentRules (literalFragment fragment) = literalFragmentRules fragment := by
  cases fragment with
  | none => rfl
  | some t =>
    have ht : unescape t ≠ [] := h t rfl
    simp [literalFragment, fragmentRules, fragmentRulesBehind, plainOf_map_pair, closeFragment,
      ht, literalFragmentRules]

theorem sortNames_of_no_names {ts : List Token} (h : ∀ t ∈ ts, t.name? = none) :
    sortNames ts = ts := by
  have hnames : ts.filterMap Token.name? = [] := List.filterMap_eq_nil_iff.mpr h
  rw [sortNames, sortWithin, hnames, List.mergeSort_nil, refill_nil_right]

theorem read_eq_of_no_names {pattern : List Char} {ts : List Token} (h : scan pattern = .ok ts)
    (hnames : ∀ t ∈ ts, t.name? = none) : read pattern = .ok ts :=
  read_eq_ok_iff.mpr ⟨ts, h, (sortNames_of_no_names hnames).symm⟩

/-- A literal pattern asks for its segments and its fragment, if these say something. -/
theorem read_literalPattern {segments : List (List Char)} {fragment : Option (List Char)}
    (hsegments : ∀ t ∈ segments, unescape t ≠ []) (hfragment : ∀ t ∈ fragment, unescape t ≠ []) :
    read (literalPattern segments fragment) = .ok (literalTokens segments fragment) := by
  have hfollows : Follows (literalFragment fragment)
      (literalFragmentRules fragment ++ [.finish]) := by
    refine ⟨[], literalFragment fragment, [], rfl, .absent, ?_, by simp, ?_⟩
    · cases fragment <;> simp [IsFragment, literalFragment]
    · rw [fragmentRules_literalFragment hfragment]
      rfl
  have hscan : scan (literalPattern segments fragment) = .ok (literalTokens segments fragment) :=
    scan_eq_ok_iff.mpr ⟨_, _, _, items_literalPattern segments fragment,
      isPath_literalPath segments, hfollows, by rw [pathRules_literalPath hsegments]; rfl⟩
  refine read_eq_of_no_names hscan fun t ht => ?_
  obtain ⟨r, rfl⟩ | ⟨text, rfl⟩ | rfl := mem_literalTokens ht <;> rfl

end UrlTemplate.Pattern
