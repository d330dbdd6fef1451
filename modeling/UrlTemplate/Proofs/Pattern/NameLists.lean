import UrlTemplate.Proofs.Pattern.Rules

/-!
# Spelling lists of names

A pattern that is nothing but a list of names keeps the query entries with these names, or drops
them behind a `^`. A pattern that spells names out protects every character of them, so that any
text that is not empty can be a name.

* `read_list`: what a pattern with nothing but a list of names says.
* `listPattern`: the pattern that spells such a list out.
* `read_listPattern`: it says the rules for these names.
-/

namespace UrlTemplate.Pattern

open Escape

/-- The rule that starts a list. -/
def listRule (deny : Bool) : QueryRule := if deny then .denyList else .allowList

/-- What stands before the names of a list. -/
def listMark (deny : Bool) : List Char := if deny then ['?', '[', '^'] else ['?', '[']

/-- The rules for a list of names, which are sorted. -/
def listTokens (deny : Bool) (names : List (List Char)) : List Token :=
  .query (listRule deny) :: nameRules (names.mergeSort textLe) ++ [.finish]

/-- A list of names, if all its items can stand in one, says the rules for the names in it. -/
theorem read_list (deny : Bool) {names : List Item} (h : IsNames names)
    (hstray : .bare '\\' ∉ names) :
    read (listMark deny ++ textOf names ++ [']']) = .ok (listTokens deny (namesFrom [] names)) := by
  obtain ⟨query, hquery, htext, hclear⟩ : ∃ query,
      QueryRules query (.query (listRule deny) :: nameRules (namesFrom [] names)) ∧
        listMark deny ++ textOf names ++ [']'] = textOf query ∧ .bare '\\' ∉ query := by
    cases deny with
    | false => exact ⟨_, .allow h, by simp [listMark, Item.text], by simp [hstray]⟩
    | true => exact ⟨_, .deny h, by simp [listMark, Item.text], by simp [hstray]⟩
  have hne : query ≠ [.bare '?'] := by
    rintro rfl
    cases hquery
  have hfollows : Follows query
      (.query (listRule deny) :: nameRules (namesFrom [] names) ++ [.finish]) :=
    ⟨query, [], _, by simp, hquery, by simp [IsFragment], fun he => absurd he hne,
      by simp [fragmentRules]⟩
  have hscan := scan_eq_ok_iff.mpr ⟨[], query, _, items_textOf (proper_of_not_mem hclear),
    ⟨by simp, by simp⟩, hfollows, rfl⟩
  have hkind : listRule deny = .allowList ∨ listRule deny = .denyList := by
    cases deny <;> simp [listRule]
  have hfinish : ∀ t ∈ [Token.finish], t.name? = none := by simp [Token.name?]
  rw [htext]
  refine read_eq_ok_iff.mpr ⟨_, hscan, ?_⟩
  exact (sortNames_list hkind (a := []) (by simp) hfinish _).symm

/-! ## Names that are spelled out -/

/-- A text with a backslash put before every character. -/
def protect (text : List Char) : List Char := text.flatMap fun c => ['\\', c]

/-- The pattern that keeps the query entries with these names, or drops them. -/
def listPattern (deny : Bool) (names : List (List Char)) : List Char :=
  listMark deny ++ [','].intercalate (names.map protect) ++ [']']

/-- The items of names that are spelled out, with a `,` between them. -/
def spelledNames (names : List (List Char)) : List Item :=
  [Item.bare ','].intercalate (names.map (·.map .pair))

theorem spelledNames_cons_cons (name next : List Char) (names : List (List Char)) :
    spelledNames (name :: next :: names) =
      name.map .pair ++ .bare ',' :: spelledNames (next :: names) := by
  simp [spelledNames, List.intercalate_cons_cons]

theorem textOf_spelledNames (names : List (List Char)) :
    textOf (spelledNames names) = [','].intercalate (names.map protect) := by
  induction names with
  | nil => rfl
  | cons name names ih =>
    cases names with
    | nil => simp [spelledNames, textOf_map_pair, protect]
    | cons next names =>
      rw [spelledNames_cons_cons, textOf_append, textOf_cons, ih, textOf_map_pair]
      simp [List.intercalate_cons_cons, protect, Item.text]

theorem bare_mem_spelledNames {c : Char} {names : List (List Char)}
    (h : .bare c ∈ spelledNames names) : c = ',' := by
  induction names with
  | nil => simp [spelledNames] at h
  | cons name names ih =>
    cases names with
    | nil => simp [spelledNames] at h
    | cons next names =>
      rw [spelledNames_cons_cons] at h
      simp only [List.mem_append, List.mem_map, reduceCtorEq, and_false, exists_false, false_or,
        List.mem_cons, Item.bare.injEq] at h
      exact h.elim id ih

theorem namesFrom_spelledNames {names : List (List Char)} (h : ∀ name ∈ names, name ≠ []) :
    namesFrom [] (spelledNames names) = names := by
  induction names with
  | nil => rfl
  | cons name names ih =>
    obtain ⟨hname, hnames⟩ := List.forall_mem_cons.mp h
    cases names with
    | nil =>
      have hlast := namesFrom_map_pair name [] []
      simpa [spelledNames, namesFrom, nonEmpty, hname] using hlast
    | cons next names =>
      rw [spelledNames_cons_cons, namesFrom_map_pair, namesFrom, if_pos rfl, ih hnames]
      simp [nonEmpty, hname]

/-- A list that spells names out says the rules for them. -/
theorem read_listPattern (deny : Bool) {names : List (List Char)}
    (h : ∀ name ∈ names, name ≠ []) :
    read (listPattern deny names) = .ok (listTokens deny names) := by
  have hitems : IsNames (spelledNames names) := by
    intro c hc hm
    obtain rfl := bare_mem_spelledNames hm
    exact absurd hc (by decide)
  have hstray : .bare '\\' ∉ spelledNames names := fun hm =>
    absurd (bare_mem_spelledNames hm) (by decide)
  have hread := read_list deny hitems hstray
  rwa [textOf_spelledNames, namesFrom_spelledNames h] at hread

end UrlTemplate.Pattern
