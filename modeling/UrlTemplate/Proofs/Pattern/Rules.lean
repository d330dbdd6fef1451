import Mathlib.Data.List.Chain
import UrlTemplate.Proofs.Pattern.Literal
import UrlTemplate.Proofs.Pattern.PathRules
import UrlTemplate.Proofs.SortWithin

/-!
# The rules that patterns say

Not every list of rules is what some pattern says. Texts are what a pattern can say about freely,
since it can protect every character of them; what it cannot do is to put two texts side by side,
to omit a segment that does not stand alone, or to leave the names of a list unsorted. Every list
without such faults is said by a pattern.

* `IsPathRules`, `IsQueryRules`, `IsFragmentRules`: the rules for the three parts of a URL.
* `isPathRules_pathRules`, `exists_isQueryRules`, `isFragmentRules_fragmentRules`: what the parts of
  a pattern say has these forms, once the names are sorted.
* `exists_isPath`, `exists_query`, `exists_isFragment`: rules of these forms are said by parts.
* `exists_read_eq_iff`: the lists of rules that patterns say.
-/

namespace UrlTemplate.Pattern

open Escape

/-! ## The forms of rules -/

def PathRule.isText : PathRule → Bool
  | matchSegment _ => true
  | _ => false

/-- The rule stands for a separator or a segment. A text that it asks for is not empty. -/
def PathRule.IsPart (r : PathRule) : Prop := r ≠ .omitPath ∧ r ≠ .matchSegment []

/-- No two texts stand side by side. -/
def Apart (rules : List PathRule) : Prop := rules.IsChain fun a b => ¬ (a.isText ∧ b.isText)

/-- The rules for a path: the whole of it is dropped, or each rule stands for a separator or a
segment. Texts do not stand side by side, and an omitted segment is apart from others, and not all
there is. -/
inductive IsPathRules : List PathRule → Prop
  | whole : IsPathRules [.omitPath]
  | parts {rules : List PathRule} (parts : ∀ r ∈ rules, r.IsPart) (apart : Apart rules)
    (spaced : Spaced rules) (ne : rules ≠ [.omitSegment]) : IsPathRules rules

/-- The rules for a query. The names of a list are not empty, and sorted. -/
inductive IsQueryRules : List Token → Prop
  | nothing : IsQueryRules []
  | omitted : IsQueryRules [.query .omitQuery]
  | list {kind : QueryRule} (hkind : kind = .allowList ∨ kind = .denyList)
    {names : List (List Char)} (hne : ∀ name ∈ names, name ≠ [])
    (hsorted : names.Pairwise fun a b => textLe a b) :
    IsQueryRules (.query kind :: nameRules names)

/-- The rules for a fragment: it may be dropped, and a text that is not empty may be asked for. -/
inductive IsFragmentRules : List Token → Prop
  | mk (omitted : Bool) (asked : Option (List Char)) (hne : ∀ t ∈ asked, t ≠ []) :
    IsFragmentRules ((if omitted then [.fragment .omitFragment] else []) ++
      asked.toList.map fun t => .fragment (.matchFragment t))

/-! ## What a path says -/

variable {fresh : Bool} {w : List Char} {l path : List Item} {rules : List PathRule}

theorem mem_nonEmpty {w t : List Char} : t ∈ nonEmpty w ↔ t = w ∧ w ≠ [] := by
  unfold nonEmpty
  split <;> simp_all

/-- The rules of a path are literal texts with other rules between them. -/
theorem rulesFrom_induction {motive : List PathRule → Prop}
    (text : ∀ w, motive ((nonEmpty w).map .matchSegment))
    (rule : ∀ w r rules, r ∈ [PathRule.separator, .glob, .omitSegment] → motive rules →
      motive ((nonEmpty w).map .matchSegment ++ r :: rules))
    (w : List Char) (l : List Item) : motive (rulesFrom w l) := by
  induction l generalizing w with
  | nil => exact text w
  | cons i l ih =>
    rw [rulesFrom]
    split
    · exact rule w _ _ (by simp) (ih [])
    · split
      · exact rule w _ _ (by simp) (ih [])
      · split
        · exact rule w _ _ (by simp) (ih [])
        · exact ih _

theorem parts_rulesFrom (w : List Char) (l : List Item) : ∀ r ∈ rulesFrom w l, r.IsPart := by
  have htext : ∀ w, ∀ r ∈ (nonEmpty w).map PathRule.matchSegment, r.IsPart := by
    intro w r hr
    obtain ⟨t, ht, rfl⟩ := List.mem_map.mp hr
    obtain ⟨rfl, hne⟩ := mem_nonEmpty.mp ht
    exact ⟨by simp, by simpa using hne⟩
  refine rulesFrom_induction (motive := fun rules => ∀ r ∈ rules, r.IsPart) htext
    (fun w r rules hr h => ?_) w l
  have hrule : r.IsPart := by
    constructor <;> rintro rfl <;> simp at hr
  exact List.forall_mem_append.mpr ⟨htext w, List.forall_mem_cons.mpr ⟨hrule, h⟩⟩

theorem apart_text_iff (hw : w ≠ []) :
    Apart ((nonEmpty w).map .matchSegment ++ rules) ↔
      (∀ r ∈ rules.head?, r.isText = false) ∧ Apart rules := by
  cases rules <;> simp [nonEmpty, hw, Apart, PathRule.isText]

/-- Literal text is closed by a delimiter, which says a rule of its own. -/
theorem apart_rulesFrom (w : List Char) (l : List Item) : Apart (rulesFrom w l) := by
  refine rulesFrom_induction (fun w => ?_) (fun w r rules hr h => ?_) w l
  · by_cases hw : w = []
    · simp [hw, Apart]
    · have halone := (apart_text_iff hw).mpr ⟨by simp, List.IsChain.nil⟩
      rwa [List.append_nil] at halone
  · have hother : r.isText = false := by
      simp only [List.mem_cons, List.not_mem_nil, or_false] at hr
      obtain rfl | rfl | rfl := hr <;> rfl
    have hrule : Apart (r :: rules) := List.IsChain.cons h (by simp [hother])
    by_cases hw : w = []
    · rw [hw]
      exact hrule
    · exact (apart_text_iff hw).mpr ⟨by simpa using hother, hrule⟩

/-- A segment is not omitted before a separator has been met. -/
theorem head?_rulesFrom_ne_omit (hl : Spread false l) (w : List Char) :
    (rulesFrom w l).head? ≠ some .omitSegment := by
  have hspaced : Spaced (.glob :: rulesFrom w l) := spaced_rulesFrom hl nofun nofun
  exact hspaced.head_ne_omit nofun

/-- Only a path that is nothing but a `-` omits a segment and says nothing else. -/
theorem eq_minus_of_rulesFrom (hl : Spread true l) (h : rulesFrom [] l = [.omitSegment]) :
    l = [.bare '-'] := by
  cases l with
  | nil => cases h
  | cons i l =>
    obtain ⟨hminus, hl⟩ := hl
    rw [rulesFrom] at h
    by_cases hsep : i = .bare '/'
    · rw [if_pos hsep] at h
      cases h
    rw [if_neg hsep] at h
    simp only [hsep, decide_false] at hl
    by_cases hglob : i = .bare '*'
    · rw [if_pos hglob] at h
      cases h
    rw [if_neg hglob] at h
    by_cases hi : i = .bare '-'
    · rw [if_pos hi] at h
      have hrest : rulesFrom [] l = [] := by simpa using h
      cases l with
      | nil => rw [hi]
      | cons j l =>
        obtain rfl := (hminus hi).2 j rfl
        simp [rulesFrom] at hrest
    · rw [if_neg hi] at h
      exact absurd (congrArg List.head? h) (head?_rulesFrom_ne_omit hl _)

theorem isPathRules_pathRules (h : IsPath path) : IsPathRules (pathRules path) := by
  have hspaced := spaced_pathRules h
  unfold pathRules at hspaced ⊢
  split
  · exact .whole
  · rename_i hne
    rw [if_neg hne] at hspaced
    exact .parts (parts_rulesFrom [] path) (apart_rulesFrom [] path) hspaced
      fun homit => hne (eq_minus_of_rulesFrom (isPath_iff.mp h).2 homit)

/-! ## What a query says -/

/-- The names go to the places of names, which stand together. -/
theorem refill_nameRules (names ks : List (List Char)) (hlen : ks.length = names.length)
    (b : List Token) :
    refill Token.name? (fun text => .query (.name text)) (nameRules names ++ b) ks =
      nameRules ks ++ b := by
  induction names generalizing ks with
  | nil =>
    obtain rfl := List.length_eq_zero_iff.mp hlen
    exact refill_nil_right _ _ b
  | cons name names ih =>
    cases ks with
    | nil => cases hlen
    | cons k ks =>
      have hname : Token.name? (.query (.name name)) = some name := rfl
      have hcons : ∀ m ms, nameRules (m :: ms) ++ b =
          .query (.name m) :: (nameRules ms ++ b) := fun _ _ => rfl
      rw [hcons, refill_cons_some hname, ih ks (by simpa using hlen), hcons]

theorem filterMap_name?_nameRules (names : List (List Char)) :
    (nameRules names).filterMap Token.name? = names := by
  induction names with
  | nil => rfl
  | cons name names ih => exact congrArg _ ih

/-- Sorting the names leaves the other rules alone. -/
theorem sortNames_parts {a b : List Token} (ha : ∀ t ∈ a, t.name? = none)
    (hb : ∀ t ∈ b, t.name? = none) (names : List (List Char)) :
    sortNames (a ++ (nameRules names ++ b)) = a ++ (nameRules (names.mergeSort textLe) ++ b) := by
  have hnames : (a ++ (nameRules names ++ b)).filterMap Token.name? = names := by
    rw [List.filterMap_append, List.filterMap_append, List.filterMap_eq_nil_iff.mpr ha,
      List.filterMap_eq_nil_iff.mpr hb, filterMap_name?_nameRules]
    simp
  rw [sortNames, sortWithin, hnames, refill_append_of_none ha,
    refill_nameRules _ _ (List.length_mergeSort names)]

/-- Empty names are dropped. -/
theorem ne_nil_of_mem_namesFrom {name : List Char} (h : name ∈ namesFrom w l) : name ≠ [] := by
  induction l generalizing w with
  | nil =>
    obtain ⟨rfl, hne⟩ := mem_nonEmpty.mp h
    exact hne
  | cons i l ih =>
    rw [namesFrom] at h
    split at h
    · obtain h | h := List.mem_append.mp h
      · obtain ⟨rfl, hne⟩ := mem_nonEmpty.mp h
        exact hne
      · exact ih h
    · exact ih h

theorem isQueryRules_sorted {kind : QueryRule} (hkind : kind = .allowList ∨ kind = .denyList)
    (l : List Item) :
    IsQueryRules (.query kind :: nameRules ((namesFrom [] l).mergeSort textLe)) := by
  exact .list hkind (fun _ h => ne_nil_of_mem_namesFrom (List.mem_mergeSort.mp h))
    (isLinear_textLe.pairwise_mergeSort _)

/-- The names of a list are sorted behind the rule that starts it. -/
theorem sortNames_list {kind : QueryRule} (hkind : kind = .allowList ∨ kind = .denyList)
    {a b : List Token} (ha : ∀ t ∈ a, t.name? = none) (hb : ∀ t ∈ b, t.name? = none)
    (names : List (List Char)) :
    sortNames (a ++ (.query kind :: nameRules names ++ b)) =
      a ++ (.query kind :: nameRules (names.mergeSort textLe) ++ b) := by
  have hstart : ∀ t ∈ a ++ [.query kind], t.name? = none := by
    obtain rfl | rfl := hkind <;> exact List.forall_mem_append.mpr ⟨ha, by simp [Token.name?]⟩
  simpa using sortNames_parts hstart hb names

/-- What a query says, once the names are sorted. -/
theorem exists_isQueryRules {query : List Item} {rules a b : List Token}
    (h : QueryRules query rules) (ha : ∀ t ∈ a, t.name? = none) (hb : ∀ t ∈ b, t.name? = none) :
    ∃ sorted, IsQueryRules sorted ∧ sortNames (a ++ (rules ++ b)) = a ++ (sorted ++ b) := by
  cases h with
  | absent | lone | all =>
    exact ⟨[], .nothing, sortNames_of_no_names (List.forall_mem_append.mpr ⟨ha, hb⟩)⟩
  | none =>
    refine ⟨_, .omitted, sortNames_of_no_names (List.forall_mem_append.mpr ⟨ha, ?_⟩)⟩
    exact List.forall_mem_cons.mpr ⟨rfl, hb⟩
  | allow => exact ⟨_, isQueryRules_sorted (.inl rfl) _, sortNames_list (.inl rfl) ha hb _⟩
  | deny => exact ⟨_, isQueryRules_sorted (.inr rfl) _, sortNames_list (.inr rfl) ha hb _⟩

/-! ## What a fragment says -/

theorem closeFragment_eq (w : List Char) : ∃ asked : Option (List Char), (∀ t ∈ asked, t ≠ []) ∧
    closeFragment w = asked.toList.map fun t => .fragment (.matchFragment t) := by
  by_cases hw : w = []
  · exact ⟨none, nofun, by simp [closeFragment, hw]⟩
  · exact ⟨some w, by simpa using hw, by simp [closeFragment, hw]⟩

theorem isFragmentRules_fragmentRules (l : List Item) : IsFragmentRules (fragmentRules l) := by
  cases l with
  | nil => exact .mk false none nofun
  | cons i l =>
    simp only [fragmentRules, fragmentRulesBehind]
    split
    · obtain ⟨asked, hne, he⟩ := closeFragment_eq (plainOf l.tail)
      exact he ▸ .mk true asked hne
    · split
      · obtain ⟨asked, hne, he⟩ := closeFragment_eq (plainOf l.tail)
        exact he ▸ .mk false asked hne
      · obtain ⟨asked, hne, he⟩ := closeFragment_eq (plainOf l)
        exact he ▸ .mk false asked hne

theorem IsFragmentRules.no_names {rules : List Token} (h : IsFragmentRules rules) :
    ∀ t ∈ rules ++ [.finish], t.name? = none := by
  obtain ⟨omitted, asked, -⟩ := h
  cases omitted <;> cases asked <;> simp [Token.name?]

/-! ## Saying rules for a path -/

/-- The items that say a rule, with every character of a text protected. -/
def ruleItems : PathRule → List Item
  | .separator => [.bare '/']
  | .glob => [.bare '*']
  | .omitPath | .omitSegment => [.bare '-']
  | .matchSegment t => t.map .pair

theorem bare_mem_ruleItems {c : Char} (h : .bare c ∈ rules.flatMap ruleItems) :
    c = '/' ∨ c = '*' ∨ c = '-' := by
  obtain ⟨r, -, hr⟩ := List.mem_flatMap.mp h
  cases r <;> simp_all [ruleItems]

theorem rulesFrom_ruleItems (w : List Char) (hparts : ∀ r ∈ rules, r.IsPart)
    (hapart : Apart ((nonEmpty w).map .matchSegment ++ rules)) :
    rulesFrom w (rules.flatMap ruleItems) = (nonEmpty w).map .matchSegment ++ rules := by
  induction rules generalizing w with
  | nil => simp [rulesFrom]
  | cons r rules ih =>
    obtain ⟨hr, hrest⟩ := List.forall_mem_cons.mp hparts
    have hrules : Apart (r :: rules) := List.IsChain.right_of_append hapart
    rw [List.flatMap_cons]
    cases r with
    | separator | glob | omitSegment =>
      have hmore := ih [] hrest (List.IsChain.tail hrules)
      simp only [nonEmpty_nil, List.map_nil, List.nil_append] at hmore
      simp [ruleItems, rulesFrom, hmore]
    | omitPath => exact absurd rfl hr.1
    | matchSegment t =>
      have ht : nonEmpty t = [t] := if_neg fun h => hr.2 (congrArg _ h)
      have hw : w = [] := by
        by_contra hw
        exact Bool.noConfusion (((apart_text_iff hw).mp hapart).1 _ rfl)
      have hmore := ih t hrest (by simpa [ht] using hrules)
      rw [ht] at hmore
      simp [ruleItems, rulesFrom_map_pair, hw, hmore]

theorem spread_of_false (h : Spread false l) (fresh : Bool) : Spread fresh l := by
  cases l with
  | nil => trivial
  | cons i l => exact ⟨fun hi => absurd (h.1 hi).1 (by decide), h.2⟩

theorem spread_map_pair (t : List Char) (h : Spread false l) (fresh : Bool) :
    Spread fresh (t.map .pair ++ l) := by
  induction t generalizing fresh with
  | nil => exact spread_of_false h fresh
  | cons c t ih => exact ⟨nofun, ih _⟩

/-- Rules that are spaced, also from the rule `r` before them, have their `-` spread. -/
theorem spread_ruleItems {r : PathRule} (h : Spaced (r :: rules)) (hclear : .omitPath ∉ rules) :
    Spread (r = .separator) (rules.flatMap ruleItems) := by
  induction rules generalizing r with
  | nil => trivial
  | cons s rules ih =>
    rw [List.mem_cons, not_or] at hclear
    obtain ⟨hbefore, -, hs⟩ := h
    have hrest := ih hs hclear.2
    cases s with
    | separator | glob => exact ⟨nofun, hrest⟩
    | omitSegment =>
      refine ⟨fun _ => ⟨by simpa using hbefore rfl, ?_⟩, hrest⟩
      cases rules with
      | nil => simp
      | cons next rules =>
        obtain rfl := hs.2.1 rfl
        simp [ruleItems]
    | omitPath => exact absurd rfl hclear.1
    | matchSegment t => exact spread_map_pair t hrest _

theorem exists_isPath (h : IsPathRules rules) :
    ∃ path, IsPath path ∧ pathRules path = rules ∧ .bare '\\' ∉ path := by
  cases h with
  | whole =>
    exact ⟨[.bare '-'], isPath_iff.mpr ⟨by simp, by simp [Spread]⟩, rfl, by simp⟩
  | parts hparts hapart hspaced hne =>
    have hsays := rulesFrom_ruleItems [] hparts hapart
    have hspaced' : Spaced (.separator :: rules) := by
      cases rules with
      | nil => trivial
      | cons r rules => exact ⟨fun _ => rfl, by simp, hspaced⟩
    refine ⟨rules.flatMap ruleItems, isPath_iff.mpr ⟨fun c hc h => ?_, ?_⟩, ?_, fun h => ?_⟩
    · obtain rfl | rfl | rfl := bare_mem_ruleItems h <;> exact absurd hc (by decide)
    · exact spread_ruleItems hspaced' fun h => (hparts _ h).1 rfl
    · unfold pathRules
      split
      · -- a lone `-` would say that a segment is omitted
        rename_i hminus
        rw [hminus] at hsays
        exact absurd hsays.symm hne
      · exact hsays
    · exact absurd (bare_mem_ruleItems h) (by decide)

/-! ## Saying rules for a query and a fragment -/

/-- The items of a list of these names. -/
def nameItems (names : List (List Char)) : List Item :=
  names.flatMap fun name => name.map .pair ++ [.bare ',']

theorem bare_mem_nameItems {c : Char} {names : List (List Char)}
    (h : .bare c ∈ nameItems names) : c = ',' := by
  obtain ⟨name, -, hname⟩ := List.mem_flatMap.mp h
  simpa using hname

theorem isNames_nameItems (names : List (List Char)) : IsNames (nameItems names) := by
  intro c hc h
  obtain rfl := bare_mem_nameItems h
  exact absurd hc (by decide)

theorem namesFrom_map_pair (s w : List Char) (l : List Item) :
    namesFrom w (s.map .pair ++ l) = namesFrom (w ++ s) l := by
  rw [namesFrom_append (by simp), plainOf_map_pair]

theorem namesFrom_nameItems {names : List (List Char)} (h : ∀ name ∈ names, name ≠ []) :
    namesFrom [] (nameItems names) = names := by
  induction names with
  | nil => rfl
  | cons name names ih =>
    obtain ⟨hname, hnames⟩ := List.forall_mem_cons.mp h
    have hcons : nameItems (name :: names) = name.map .pair ++ .bare ',' :: nameItems names := by
      simp [nameItems]
    rw [hcons, namesFrom_map_pair, namesFrom, if_pos rfl, ih hnames, List.nil_append, nonEmpty,
      if_neg hname, List.singleton_append]

theorem exists_query {rules : List Token} (h : IsQueryRules rules) :
    ∃ query, QueryRules query rules ∧ query ≠ [.bare '?'] ∧ .bare '\\' ∉ query := by
  cases h with
  | nothing => exact ⟨[], .absent, nofun, nofun⟩
  | omitted => exact ⟨_, .none, by decide, by decide⟩
  | @list kind hkind names hne =>
    have hstray : .bare '\\' ∉ nameItems names := fun h =>
      absurd (bare_mem_nameItems h) (by decide)
    rw [← namesFrom_nameItems hne]
    obtain rfl | rfl := hkind
    · exact ⟨_, .allow (isNames_nameItems names), by simp, by simp [hstray]⟩
    · exact ⟨_, .deny (isNames_nameItems names), by simp, by simp [hstray]⟩

theorem exists_isFragment {rules : List Token} (h : IsFragmentRules rules) :
    ∃ fragment, IsFragment fragment ∧ fragmentRules fragment = rules ∧
      .bare '\\' ∉ fragment := by
  obtain ⟨omitted, asked, hne⟩ := h
  have hclose : closeFragment (plainOf ((asked.getD []).map .pair)) =
      asked.toList.map fun t => .fragment (.matchFragment t) := by
    cases asked with
    | none => rfl
    | some t => simp [plainOf_map_pair, closeFragment, hne t rfl]
  cases omitted with
  | true =>
    refine ⟨.bare '#' :: .bare '-' :: (asked.getD []).map .pair, by simp [IsFragment], ?_, by simp⟩
    simp [fragmentRules, fragmentRulesBehind, hclose]
  | false =>
    have hhead : ∀ c, ((asked.getD []).map Item.pair).head? ≠ some (.bare c) := by
      cases asked.getD [] <;> simp
    refine ⟨.bare '#' :: (asked.getD []).map .pair, by simp [IsFragment], ?_, by simp⟩
    simp only [fragmentRules, fragmentRulesBehind, if_neg (hhead _), hclose]
    simp

/-! ## All that patterns say -/

/-- Rules that are already sorted are left as they are. -/
theorem sortNames_of_isQueryRules {rules a b : List Token} (h : IsQueryRules rules)
    (ha : ∀ t ∈ a, t.name? = none) (hb : ∀ t ∈ b, t.name? = none) :
    sortNames (a ++ (rules ++ b)) = a ++ (rules ++ b) := by
  cases h with
  | nothing => exact sortNames_of_no_names (List.forall_mem_append.mpr ⟨ha, hb⟩)
  | omitted =>
    refine sortNames_of_no_names (List.forall_mem_append.mpr ⟨ha, ?_⟩)
    exact List.forall_mem_cons.mpr ⟨rfl, hb⟩
  | list hkind hne hsorted =>
    rw [sortNames_list hkind ha hb, List.mergeSort_of_pairwise hsorted]

theorem path_no_names (rules : List PathRule) : ∀ t ∈ rules.map Token.path, t.name? = none := by
  simp [Token.name?]

/-- A list of rules is what a pattern says exactly if it is made of rules for a path, a query and
a fragment. Their texts may be any: a pattern can protect every character of them. -/
theorem exists_read_eq_iff (ts : List Token) :
    (∃ pattern, read pattern = .ok ts) ↔ ∃ path query fragment,
      ts = path.map .path ++ query ++ fragment ++ [.finish] ∧
        IsPathRules path ∧ IsQueryRules query ∧ IsFragmentRules fragment := by
  constructor
  · rintro ⟨pattern, h⟩
    obtain ⟨scanned, hscan, rfl⟩ := read_eq_ok_iff.mp h
    obtain ⟨path, rest, more, -, hpath, hfollows, rfl⟩ := scan_eq_ok_iff.mp hscan
    obtain ⟨query, fragment, rules, -, hquery, -, -, rfl⟩ := hfollows
    have hfragment := isFragmentRules_fragmentRules fragment
    obtain ⟨sorted, hsorted, he⟩ :=
      exists_isQueryRules hquery (path_no_names (pathRules path)) hfragment.no_names
    refine ⟨pathRules path, sorted, fragmentRules fragment, ?_, isPathRules_pathRules hpath,
      hsorted, hfragment⟩
    simpa using he
  · rintro ⟨path, query, fragment, rfl, hpath, hquery, hfragment⟩
    have hsorted :=
      sortNames_of_isQueryRules hquery (path_no_names path) hfragment.no_names
    obtain ⟨pathItems, hpathItems, rfl, hpathClear⟩ := exists_isPath hpath
    obtain ⟨queryItems, hqueryItems, hlone, hqueryClear⟩ := exists_query hquery
    obtain ⟨fragmentItems, hfragmentItems, rfl, hfragmentClear⟩ := exists_isFragment hfragment
    have hproper : Proper (pathItems ++ (queryItems ++ fragmentItems)) :=
      proper_of_not_mem (by simp [hpathClear, hqueryClear, hfragmentClear])
    refine ⟨textOf (pathItems ++ (queryItems ++ fragmentItems)), read_eq_ok_iff.mpr
      ⟨_, scan_eq_ok_iff.mpr ⟨pathItems, _, _, items_textOf hproper, hpathItems, ?_, rfl⟩,
        (by simpa using hsorted.symm)⟩⟩
    exact ⟨queryItems, fragmentItems, query, rfl, hqueryItems, hfragmentItems,
      fun h => absurd h hlone, (List.append_assoc _ _ _).symm⟩

end UrlTemplate.Pattern
