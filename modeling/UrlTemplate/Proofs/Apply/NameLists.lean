import Mathlib.Data.List.Permutation
import UrlTemplate.Proofs.Apply.Provenance
import UrlTemplate.Proofs.Pattern.NameLists
import UrlTemplate.Url.Read

/-!
# Lists of names as sets

Halving a sorted array finds a name exactly if it is there, so a list of names acts on the query
entries of a URL as the set of these names does. The list that keeps the names and the list that
drops them divide the entries between them.

* `findSorted_iff`: halving finds what is in a sorted array.
* `keeps_iff_of_showList`, `keeps_iff_of_skipList`: what the lists of a pattern keep.
* `applyQuery_listTokens`: what a list of names leaves of the entries of a URL.
* `lists_divide_params`: the two lists of the same names, spelled out in a pattern.
-/

namespace UrlTemplate.Apply

open Escape
open Pattern (QueryRule listPattern listRule listTokens nameRules)
open Url (Param)

/-! ## Halving -/

variable {names : Array (List Char)} {name : List Char} {low high : Nat}

theorem textLe_of_getElem? (hs : names.toList.Pairwise fun a b => textLe a b) {i j : Nat}
    {a b : List Char} (hij : i ≤ j) (hi : names[i]? = some a) (hj : names[j]? = some b) :
    textLe a b := by
  obtain ⟨hisize, rfl⟩ := Array.getElem?_eq_some_iff.mp hi
  obtain ⟨hjsize, rfl⟩ := Array.getElem?_eq_some_iff.mp hj
  rcases Nat.lt_or_eq_of_le hij with hij | rfl
  · exact List.pairwise_iff_getElem.mp hs i j hisize hjsize hij
  · exact textLe_refl _

/-- What halving finds is there, also in an array that is not sorted. -/
theorem findSorted_sound (h : findSorted names name low high = true) : name ∈ names := by
  fun_induction findSorted names name low high with
  | case1 | case5 => cases h
  | case2 low high _ middle hmiddle => exact Array.mem_of_getElem? hmiddle
  | case3 low high _ middle found _ _ _ ih | case4 low high _ middle found _ _ _ ih => exact ih h

/-- In a sorted array halving does not pass over the place where a name stands. -/
theorem findSorted_complete (hs : names.toList.Pairwise fun a b => textLe a b) {k : Nat}
    (hlow : low ≤ k) (hk : k < high) (hhigh : high ≤ names.size) (h : names[k]? = some name) :
    findSorted names name low high = true := by
  fun_induction findSorted names name low high with
  | case1 low high hlt middle hmiddle =>
    have hsize : names.size ≤ (low + high) / 2 := Array.getElem?_eq_none_iff.mp hmiddle
    omega
  | case2 => rfl
  | case3 low high _ middle found hfound _ hless ih =>
    -- the text in the middle comes before the name, so the name stands behind it
    have hafter : (low + high) / 2 < k := by
      by_contra hle
      have hback := textLe_of_getElem? hs (Nat.le_of_not_lt hle) h hfound
      simp [textLe, hless] at hback
    exact ih hafter hk hhigh
  | case4 low high _ middle found hfound hne hless ih =>
    -- the text in the middle comes behind the name, so the name stands before it
    have hbefore : k < (low + high) / 2 := by
      by_contra hle
      have hfront := textLe_of_getElem? hs (Nat.le_of_not_lt hle) hfound h
      exact hne (textLe_antisymm hfront (by simp [textLe, hless]))
    exact ih hlow hbefore (by omega)
  | case5 => omega

/-- Halving finds what is in a sorted array. -/
theorem findSorted_iff (hs : names.toList.Pairwise fun a b => textLe a b) (name : List Char) :
    findSorted names name 0 names.size = true ↔ name ∈ names := by
  refine ⟨findSorted_sound, fun h => ?_⟩
  obtain ⟨k, hk, hname⟩ := Array.mem_iff_getElem.mp h
  have hfound : names[k]? = some name := Array.getElem?_eq_some_iff.mpr ⟨hk, hname⟩
  exact findSorted_complete hs (Nat.zero_le k) hk le_rfl hfound

/-! ## What lists keep -/

variable {rules : List Pattern.Token}

theorem findSorted_sortedNames_iff (rules : List Pattern.Token) (name : List Char) :
    findSorted (sortedNames rules) name 0 (sortedNames rules).size = true ↔
      name ∈ rules.filterMap Pattern.Token.name? := by
  have hsorted : (sortedNames rules).toList.Pairwise fun a b => textLe a b :=
    isLinear_textLe.pairwise_mergeSort _
  rw [findSorted_iff hsorted]
  simp [sortedNames, List.mem_mergeSort]

/-- The names that a list looks up are the sorted names of the pattern. -/
theorem eq_sortedNames_of_ofPattern
    (h : QueryAction.ofPattern rules = .showList names ∨
      QueryAction.ofPattern rules = .skipList names) : names = sortedNames rules := by
  have hrule : ∀ t action, QueryAction.ofRule? (sortedNames rules) t = some action →
      action = .showList names ∨ action = .skipList names → names = sortedNames rules := by
    intro t action ht haction
    unfold QueryAction.ofRule? at ht
    split at ht
    · cases ht
      simp at haction
    · cases ht
      simpa [eq_comm] using haction
    · cases ht
      simpa [eq_comm] using haction
    · cases ht
  unfold QueryAction.ofPattern at h
  cases hfirst : rules.findSome? (QueryAction.ofRule? (sortedNames rules)) with
  | none => simp [hfirst] at h
  | some action =>
    obtain ⟨t, -, ht⟩ := List.exists_of_findSome?_eq_some hfirst
    rw [hfirst] at h
    exact hrule t action ht h

/-- A list that keeps names keeps those that are among the names of the pattern. -/
theorem keeps_iff_of_showList (h : QueryAction.ofPattern rules = .showList names)
    (name : List Char) :
    (QueryAction.ofPattern rules).keeps name = true ↔
      name ∈ rules.filterMap Pattern.Token.name? := by
  rw [h, eq_sortedNames_of_ofPattern (.inl h)]
  exact findSorted_sortedNames_iff rules name

/-- A list that drops names keeps those that are not. -/
theorem keeps_iff_of_skipList (h : QueryAction.ofPattern rules = .skipList names)
    (name : List Char) :
    (QueryAction.ofPattern rules).keeps name = true ↔
      name ∉ rules.filterMap Pattern.Token.name? := by
  rw [h, eq_sortedNames_of_ofPattern (.inr h), ← findSorted_sortedNames_iff, QueryAction.keeps]
  simp

/-! ## Lists in a pattern -/

/-- The name of the entry is one of these, once it is unescaped. -/
def hasNameIn (names : List (List Char)) (p : Param) : Bool := unescape p.name ∈ names

/-- Query entries behind a `?` and with an `&` between them, or nothing if there are none. -/
def queryBlock (ps : List Param) : List Url.Token :=
  if ps = [] then [] else .querySeparator :: (ps.map .param).intersperse .paramSeparator

theorem filterMap_name?_listTokens (deny : Bool) (names : List (List Char)) :
    (listTokens deny names).filterMap Pattern.Token.name? = names.mergeSort textLe := by
  have hrule : Pattern.Token.name? (.query (listRule deny)) = none := by cases deny <;> rfl
  rw [listTokens, List.cons_append, List.filterMap_cons_none hrule, List.filterMap_append,
    Pattern.filterMap_name?_nameRules]
  exact List.append_nil _

theorem keeps_listTokens (deny : Bool) (names : List (List Char)) (name : List Char) :
    (QueryAction.ofPattern (listTokens deny names)).keeps name =
      (decide (name ∈ names) != deny) := by
  have hmem : name ∈ (listTokens deny names).filterMap Pattern.Token.name? ↔ name ∈ names := by
    rw [filterMap_name?_listTokens, List.mem_mergeSort]
  cases deny with
  | false =>
    have hshow : QueryAction.ofPattern (listTokens false names) =
        .showList (sortedNames (listTokens false names)) := rfl
    rw [Bool.eq_iff_iff, keeps_iff_of_showList hshow, hmem]
    simp
  | true =>
    have hskip : QueryAction.ofPattern (listTokens true names) =
        .skipList (sortedNames (listTokens true names)) := rfl
    rw [Bool.eq_iff_iff, keeps_iff_of_skipList hskip, hmem]
    simp

/-- A list leaves the entries whose names are in it, or those whose names are not. -/
theorem applyQuery_listTokens (deny : Bool) (names : List (List Char)) (url : List Url.Token) :
    applyQuery url (listTokens deny names) =
      queryBlock ((url.filterMap Url.Token.param?).filter fun p => hasNameIn names p != deny) := by
  rw [applyQuery, writeParams_eq]
  simp only [keeps_listTokens]
  rfl

/-- The names of a list act as a set, whatever their order and however often each of them is
there. So a list of names that are spelled out and the one that drops the same names divide the
query entries of a URL between them: each entry stays with one of the two, and those that stay
keep the order of the URL. -/
theorem lists_divide_params :
    (∀ rules names name,
      (QueryAction.ofPattern rules = .showList names →
        ((QueryAction.ofPattern rules).keeps name = true ↔
          name ∈ rules.filterMap Pattern.Token.name?)) ∧
      (QueryAction.ofPattern rules = .skipList names →
        ((QueryAction.ofPattern rules).keeps name = true ↔
          name ∉ rules.filterMap Pattern.Token.name?))) ∧
    ∀ url names, (∀ name ∈ names, name ≠ []) → ∃ allow deny,
      Pattern.read (listPattern false names) = .ok allow ∧
      Pattern.read (listPattern true names) = .ok deny ∧
      applyQuery (Url.read url) allow =
        queryBlock (((Url.read url).filterMap Url.Token.param?).filter (hasNameIn names)) ∧
      applyQuery (Url.read url) deny =
        queryBlock (((Url.read url).filterMap Url.Token.param?).filter (!hasNameIn names ·)) ∧
      ∀ others, others ⊆ names → names ⊆ others → ∃ allow' deny',
        Pattern.read (listPattern false others) = .ok allow' ∧
        Pattern.read (listPattern true others) = .ok deny' ∧
        applyQuery (Url.read url) allow' = applyQuery (Url.read url) allow ∧
        applyQuery (Url.read url) deny' = applyQuery (Url.read url) deny := by
  refine ⟨fun rules names name => ⟨fun h => keeps_iff_of_showList h name,
    fun h => keeps_iff_of_skipList h name⟩, ?_⟩
  intro url names hne
  refine ⟨_, _, Pattern.read_listPattern false hne, Pattern.read_listPattern true hne, ?_, ?_, ?_⟩
  · rw [applyQuery_listTokens]
    simp
  · rw [applyQuery_listTokens]
    simp
  · intro others hsub hsup
    have hsame : hasNameIn others = hasNameIn names := by
      funext p
      rw [hasNameIn, hasNameIn, decide_eq_decide]
      exact ⟨fun h => hsub h, fun h => hsup h⟩
    have hothers : ∀ name ∈ others, name ≠ [] := fun name h => hne name (hsub h)
    refine ⟨_, _, Pattern.read_listPattern false hothers, Pattern.read_listPattern true hothers,
      ?_, ?_⟩
    · rw [applyQuery_listTokens, applyQuery_listTokens, hsame]
    · rw [applyQuery_listTokens, applyQuery_listTokens, hsame]

/-- Names out of order and before the rule that starts the list; and names with delimiters in
them, one of them twice, for entries with escapes. -/
theorem lists_divide_params_escaped :
    let names := ["b".toList, "a=1".toList, ",".toList, "b".toList]
    let url := "/p?b=2&a\\=1=x&c&b=1&,=3&\\b".toList
    let kept := [Param.ofRaw ",=3".toList, .ofRaw "\\b".toList, .ofRaw "a\\=1=x".toList,
      .ofRaw "b=1".toList, .ofRaw "b=2".toList]
    let rules : List Pattern.Token := [.query (.name ['z']), .query .denyList,
      .query (.name ['a']), .query .allowList, .query (.name ['z'])]
    QueryAction.ofPattern rules = .skipList #[['a'], ['z'], ['z']] ∧
    (QueryAction.ofPattern rules).keeps ['b'] = true ∧
    (QueryAction.ofPattern (.query .allowList :: rules)).keeps ['z'] = true ∧
    listPattern false names = "?[\\b,\\a\\=\\1,\\,,\\b]".toList ∧
    listPattern true names = "?[^\\b,\\a\\=\\1,\\,,\\b]".toList ∧
    ∃ allow deny, Pattern.read (listPattern false names) = .ok allow ∧
      Pattern.read (listPattern true names) = .ok deny ∧
      applyQuery (Url.read url) allow = queryBlock kept ∧
      applyQuery (Url.read url) deny = queryBlock [.ofRaw ['c']] := by
  intro names url kept rules
  have hskip : QueryAction.ofPattern rules = .skipList #[['a'], ['z'], ['z']] := by cbv
  have hshow : QueryAction.ofPattern (.query .allowList :: rules) =
      .showList #[['a'], ['z'], ['z']] := by cbv
  have hparams : (Url.read url).filterMap Url.Token.param? =
      [.ofRaw ",=3".toList, .ofRaw "\\b".toList, .ofRaw "a\\=1=x".toList, .ofRaw "b=1".toList,
        .ofRaw "b=2".toList, .ofRaw ['c']] := by
    simp only [url]
    cbv
  obtain ⟨allow, deny, hallow, hdeny, hkept, hdropped, -⟩ :=
    lists_divide_params.2 url names (by decide)
  rw [hparams] at hkept hdropped
  exact ⟨hskip, ((lists_divide_params.1 rules _ _).2 hskip).mpr (by decide),
    ((lists_divide_params.1 _ _ _).1 hshow).mpr (by decide), by decide, by decide,
    allow, deny, hallow, hdeny, hkept.trans (by decide), hdropped.trans (by decide)⟩

end UrlTemplate.Apply
