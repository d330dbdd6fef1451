import UrlTemplate.Proofs.Pattern.NameLists

/-!
# Texts that mean themselves

A text that comes from a URL keeps its backslashes when it is put into a pattern. If it has none of
the characters that mean something there, but for protected ones, it asks for what it says: reading
the pattern drops the same backslashes as unescaping the text does.

* `rulesFrom_clear`, `namesFrom_clear`: items that are no delimiters say one text.
* `read_verbatim`: a text as a fragment, as a path and as the name of a list.
-/

namespace UrlTemplate.Pattern

open Escape

variable {l : List Item} {w : List Char}

theorem rulesFrom_clear (h : ∀ c ∈ ['/', '*', '-'], .bare c ∉ l) :
    rulesFrom [] l = (nonEmpty (plainOf l)).map .matchSegment := by
  have hsays := rulesFrom_append h [] []
  rwa [List.append_nil] at hsays

theorem namesFrom_clear (h : .bare ',' ∉ l) : namesFrom [] l = nonEmpty (plainOf l) := by
  have hsays := namesFrom_append h [] []
  rwa [List.append_nil] at hsays

theorem no_names_word {rule : List Char → Token} (h : ∀ t, (rule t).name? = none) :
    ∀ t ∈ (nonEmpty w).map rule ++ [.finish], t.name? = none := by
  simp only [List.mem_append, List.mem_map, List.mem_singleton]
  rintro t (⟨text, -, rfl⟩ | rfl)
  · exact h text
  · rfl

/-! ## As a fragment -/

/-- Behind a `#`, only a `-` or a `*` at the start is not text. -/
theorem read_fragment (hminus : w.head? ≠ some '-') (hglob : w.head? ≠ some '*') :
    read ('#' :: w) =
      .ok ((nonEmpty (unescape w)).map (fun t => .fragment (.matchFragment t)) ++ [.finish]) := by
  have hrules : fragmentRulesBehind (items w) = closeFragment (unescape w) := by
    rw [← textOf_items w, ne_eq, head?_textOf (by decide)] at hminus hglob
    rw [fragmentRulesBehind, if_neg hminus, if_neg hglob, unescape_eq_plainOf]
  have hscan := scan_eq_ok_iff.mpr ⟨[], _, _, items_bare (by decide) w, ⟨by simp, by simp⟩,
    follows_hash_iff.mpr rfl, rfl⟩
  rw [hrules, closeFragment_nonEmpty] at hscan
  exact read_eq_of_no_names hscan (no_names_word fun _ => rfl)

/-! ## As a path -/

/-- A path without bare delimiters is one segment. -/
theorem read_segment (h : ∀ c ∈ ['*', '?', '#', '/', '[', ']', ',', '-'], .bare c ∉ items w) :
    read w = .ok ((nonEmpty (unescape w)).map (fun t => .path (.matchSegment t)) ++ [.finish]) := by
  have hminus : .bare '-' ∉ items w := h '-' (by decide)
  have hpath : IsPath (items w) := by
    refine ⟨fun c hc => h c ?_, fun before after he => absurd (by simp [he]) hminus⟩
    simp only [List.mem_cons, List.not_mem_nil, or_false] at hc ⊢
    obtain rfl | rfl | rfl | rfl | rfl := hc <;> decide
  have hrules : pathRules (items w) = (nonEmpty (unescape w)).map .matchSegment := by
    rw [pathRules, if_neg fun he => hminus (by simp [he]), rulesFrom_clear, unescape_eq_plainOf]
    intro c hc
    refine h c ?_
    simp only [List.mem_cons, List.not_mem_nil, or_false] at hc ⊢
    obtain rfl | rfl | rfl := hc <;> decide
  have hscan := scan_eq_ok_iff.mpr ⟨_, [], _, (List.append_nil _).symm, hpath,
    follows_nil_iff.mpr rfl, rfl⟩
  rw [hrules, List.map_map] at hscan
  exact read_eq_of_no_names hscan (no_names_word fun _ => rfl)

/-! ## As a name -/

/-- A list without bare delimiters is one name. -/
theorem read_name (hd : ¬ Dangles w)
    (h : ∀ c ∈ ['[', ']', '^', '-', '?', '#', '*', '/', ','], .bare c ∉ items w) :
    read ('?' :: '[' :: (w ++ [']'])) = .ok (.query .allowList ::
      (nonEmpty (unescape w)).map (fun t => .query (.name t)) ++ [.finish]) := by
  have hnames : IsNames (items w) := fun c hc => h c (List.mem_append_left [','] hc)
  have hread := read_list false hnames (mt (dangles_iff w).mpr hd)
  rw [namesFrom_clear (h ',' (by decide)), ← unescape_eq_plainOf, textOf_items] at hread
  have hsorted : (nonEmpty (unescape w)).mergeSort textLe = nonEmpty (unescape w) := by
    unfold nonEmpty
    split <;> simp
  rw [listTokens, hsorted] at hread
  exact hread

/-- A text that comes from a URL asks for what it says: as a fragment, if it does not start with a
`-` or a `*`; as a path, if none of the characters that delimit one stands bare in it; and as the
name of a list likewise, if it does not protect the end of the list. A text that says nothing asks
for nothing. -/
theorem read_verbatim (w : List Char) :
    (w.head? ≠ some '-' → w.head? ≠ some '*' → read ('#' :: w) =
      .ok ((nonEmpty (unescape w)).map (fun t => .fragment (.matchFragment t)) ++ [.finish])) ∧
    ((∀ c ∈ ['*', '?', '#', '/', '[', ']', ',', '-'], .bare c ∉ items w) → read w =
      .ok ((nonEmpty (unescape w)).map (fun t => .path (.matchSegment t)) ++ [.finish])) ∧
    (¬ Dangles w → (∀ c ∈ ['[', ']', '^', '-', '?', '#', '*', '/', ','], .bare c ∉ items w) →
      read ('?' :: '[' :: (w ++ [']'])) = .ok (.query .allowList ::
        (nonEmpty (unescape w)).map (fun t => .query (.name t)) ++ [.finish])) :=
  ⟨read_fragment, read_segment, read_name⟩

/-- A text with protected characters, and one that is nothing but an open protection. -/
theorem read_verbatim_each :
    let w := "\\-a\\\\b".toList
    let t := "-a\\b".toList
    read ('#' :: w) = .ok [.fragment (.matchFragment t), .finish] ∧
    read w = .ok [.path (.matchSegment t), .finish] ∧
    read ('?' :: '[' :: (w ++ [']'])) = .ok [.query .allowList, .query (.name t), .finish] ∧
    read ['\\'] = .ok [.finish] := by
  intro w t
  have hw : items w = [.pair '-', .bare 'a', .pair '\\', .bare 'b'] := rfl
  obtain ⟨hfragment, hpath, hname⟩ := read_verbatim w
  exact ⟨hfragment (by decide) (by decide), hpath (by simp [hw]), hname (by decide) (by simp [hw]),
    (read_verbatim ['\\']).2.1 (by simp [items])⟩

end UrlTemplate.Pattern
