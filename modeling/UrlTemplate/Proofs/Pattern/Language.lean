import UrlTemplate.Proofs.Pattern.Reading

/-!
# The patterns that can be read

In the path the scan keeps three things in mind: the literal text that is waiting, whether a
segment has begun, and its own place, since only at the start of the pattern a `-` can stand for
the whole path. `PathSays` says what a path is and says when it is entered with these.

* `reads_path_iff`: reading goes well in the path exactly if a path is ahead, and what follows one.
* `scan_eq_ok_iff`: the tokens that are scanned are those of the path and of what follows it.
* `exists_read_eq_ok_iff`: the patterns that can be read are those of the grammar.
-/

namespace UrlTemplate.Pattern

open Escape
open Scan (View Reply)

variable {i : Nat} {fresh : Bool} {w : List Char} {l path : List Item} {j : Item}
  {ts more : List Token}

/-! ## The path -/

/-- The rules of the items of a path from the place `i` on: a `-` that is all of the path drops
the whole of it, which is seen by its place. -/
def rulesAt (i : Nat) (w : List Char) (path : List Item) : List PathRule :=
  if i = 0 ∧ path = [.bare '-'] then [.omitPath] else rulesFrom w path

@[simp] theorem rulesAt_succ (i : Nat) (w : List Char) (path : List Item) :
    rulesAt (i + 1) w path = rulesFrom w path := by simp [rulesAt]

theorem rulesAt_cons {j : Item} (hj : j ≠ .bare '-') (i : Nat) (w : List Char)
    (path : List Item) : rulesAt i w (j :: path) = rulesFrom w (j :: path) := by
  simp [rulesAt, hj]

/-- The items `path`, ahead of something that says `more`, can be read at the place `i` of a
path and give `ts` there. -/
structure PathSays (i : Nat) (fresh : Bool) (w : List Char) (ts : List Token)
    (path : List Item) (more : List Token) : Prop where
  clear : ∀ c ∈ ['[', ']', ',', '?', '#'], .bare c ∉ path
  spread : Spread fresh path
  tokens : ts = (rulesAt i w path).map .path ++ more

theorem pathSays_nil_iff : PathSays i fresh w ts [] more ↔ ts = closeSegment w ++ more := by
  rw [closeSegment_eq]
  constructor
  · rintro ⟨-, -, rfl⟩
    simp [rulesAt, rulesFrom]
  · rintro rfl
    exact ⟨by simp, trivial, by simp [rulesAt, rulesFrom]⟩

theorem clear_cons_iff : (∀ c ∈ ['[', ']', ',', '?', '#'], .bare c ∉ j :: path) ↔
    (∀ c ∈ ['[', ']', ',', '?', '#'], j ≠ .bare c) ∧
      ∀ c ∈ ['[', ']', ',', '?', '#'], .bare c ∉ path := by
  simp only [List.mem_cons, not_or, forall_and, ne_eq, eq_comm]

/-- Text in front of a path joins the literal text. -/
theorem pathSays_text_iff (hj : ∀ c ∈ ['[', ']', ',', '?', '#', '/', '*', '-'], j ≠ .bare c)
    (n : Nat) : PathSays i fresh w ts (j :: path) more ↔
      PathSays (n + 1) false (w ++ j.plain) ts path more := by
  have hclear : ∀ c ∈ ['[', ']', ',', '?', '#'], j ≠ .bare c := by
    simp only [List.mem_cons, List.not_mem_nil, or_false, forall_eq_or_imp, forall_eq] at hj ⊢
    exact ⟨hj.1, hj.2.1, hj.2.2.1, hj.2.2.2.1, hj.2.2.2.2.1⟩
  have hsep : j ≠ .bare '/' := hj '/' (by decide)
  have hglob : j ≠ .bare '*' := hj '*' (by decide)
  have hminus : j ≠ .bare '-' := hj '-' (by decide)
  have hrules : rulesAt i w (j :: path) = rulesAt (n + 1) (w ++ j.plain) path := by
    simp [rulesAt_cons hminus, rulesFrom, hsep, hglob, hminus]
  constructor
  · rintro ⟨hc, hs, rfl⟩
    exact ⟨(clear_cons_iff.mp hc).2, by simpa [Spread, hsep] using hs.2, by rw [hrules]⟩
  · rintro ⟨hc, hs, rfl⟩
    have hspread : Spread fresh (j :: path) := by simpa [Spread, hsep, hminus] using hs
    exact ⟨clear_cons_iff.mpr ⟨hclear, hc⟩, hspread, by rw [hrules]⟩

/-- A separator or a glob in front of a path closes the literal text. -/
theorem pathSays_rule_iff {c : Char} {rule : PathRule}
    (hc : c = '/' ∧ rule = .separator ∨ c = '*' ∧ rule = .glob) (n : Nat) :
    PathSays i fresh w ts (.bare c :: path) more ↔ ∃ later,
      PathSays (n + 1) (c = '/') [] later path more ∧
        ts = closeSegment w ++ .path rule :: later := by
  have hclear : ∀ d ∈ ['[', ']', ',', '?', '#'], Item.bare c ≠ .bare d := by
    obtain ⟨rfl, -⟩ | ⟨rfl, -⟩ := hc <;> simp
  have hminus : Item.bare c ≠ .bare '-' := by
    obtain ⟨rfl, -⟩ | ⟨rfl, -⟩ := hc <;> decide
  have hrules : (rulesAt i w (.bare c :: path)).map Token.path =
      closeSegment w ++ .path rule :: (rulesAt (n + 1) [] path).map .path := by
    obtain ⟨rfl, rfl⟩ | ⟨rfl, rfl⟩ := hc <;>
      simp [rulesAt_cons hminus, rulesFrom, closeSegment_eq]
  constructor
  · rintro ⟨hclean, hs, rfl⟩
    refine ⟨_, ⟨(clear_cons_iff.mp hclean).2, ?_, rfl⟩, by simp [hrules]⟩
    simpa [Spread] using hs.2
  · rintro ⟨_, ⟨hclean, hs, rfl⟩, rfl⟩
    refine ⟨clear_cons_iff.mpr ⟨hclear, hclean⟩, ?_, by simp [hrules]⟩
    simpa [Spread, by simpa using hminus] using hs

theorem pathSays_minus_iff (n : Nat) :
    PathSays i true [] ts (.bare '-' :: path) more ↔ ∃ later,
      PathSays (n + 1) false [] later path more ∧ (∀ k ∈ path.head?, k = .bare '/') ∧
        ts = .path (if i = 0 ∧ path = [] then .omitPath else .omitSegment) :: later := by
  have hrules : rulesAt i [] (.bare '-' :: path) =
      (if i = 0 ∧ path = [] then .omitPath else .omitSegment) :: rulesAt (n + 1) [] path := by
    by_cases h : i = 0 ∧ path = []
    · obtain ⟨rfl, rfl⟩ := h
      simp [rulesAt, rulesFrom]
    · simp [rulesAt, rulesFrom, nonEmpty, h]
  constructor
  · rintro ⟨hclean, ⟨hhead, hs⟩, rfl⟩
    refine ⟨_, ⟨(clear_cons_iff.mp hclean).2, hs, rfl⟩, (hhead rfl).2, by simp [hrules]⟩
  · rintro ⟨_, ⟨hclean, hs, rfl⟩, hhead, rfl⟩
    refine ⟨clear_cons_iff.mpr ⟨by simp, hclean⟩, ⟨fun _ => ⟨rfl, hhead⟩, hs⟩, by simp [hrules]⟩

/-- The items ahead are a path, which can be read at the place `i` of it, and what follows it. -/
def PathAhead (i : Nat) (fresh : Bool) (w : List Char) (l : List Item) (ts : List Token) : Prop :=
  ∃ path rest more, l = path ++ rest ∧ PathSays i fresh w ts path more ∧ Follows rest more

theorem pathAhead_nil_iff :
    PathAhead i fresh w [] ts ↔ ts = closeSegment w ++ [.finish] := by
  constructor
  · rintro ⟨path, rest, more, he, hp, hf⟩
    obtain ⟨rfl, rfl⟩ := List.append_eq_nil_iff.mp he.symm
    rw [pathSays_nil_iff.mp hp, follows_nil_iff.mp hf]
  · rintro rfl
    exact ⟨[], [], _, rfl, pathSays_nil_iff.mpr rfl, follows_nil_iff.mpr rfl⟩

/-- At its first bare `?` or `#` the path ends. -/
theorem pathAhead_end_iff {c : Char} (hc : c = '?' ∨ c = '#') :
    PathAhead i fresh w (.bare c :: l) ts ↔
      ∃ more, ts = closeSegment w ++ more ∧ Follows (.bare c :: l) more := by
  constructor
  · rintro ⟨path, rest, more, he, hp, hf⟩
    cases path with
    | nil =>
      obtain rfl : .bare c :: l = rest := he
      exact ⟨more, pathSays_nil_iff.mp hp, hf⟩
    | cons k path =>
      obtain rfl : .bare c = k := (List.cons.inj he).1
      refine absurd List.mem_cons_self (hp.clear c ?_)
      obtain rfl | rfl := hc <;> decide
  · rintro ⟨more, rfl, hf⟩
    exact ⟨[], _, more, rfl, pathSays_nil_iff.mpr rfl, hf⟩

/-- Before it, it goes on. -/
theorem pathAhead_cons_iff (hq : j ≠ .bare '?') (hh : j ≠ .bare '#') :
    PathAhead i fresh w (j :: l) ts ↔ ∃ path rest more,
      l = path ++ rest ∧ PathSays i fresh w ts (j :: path) more ∧ Follows rest more := by
  constructor
  · rintro ⟨path, rest, more, he, hp, hf⟩
    cases path with
    | nil =>
      obtain rfl : j :: l = rest := he
      exact (follows_head hf j rfl).elim (absurd · hq) (absurd · hh)
    | cons k path =>
      obtain ⟨rfl, rfl⟩ := List.cons.inj he
      exact ⟨path, rest, more, rfl, hp, hf⟩
  · rintro ⟨path, rest, more, rfl, hp, hf⟩
    exact ⟨j :: path, rest, more, rfl, hp, hf⟩

theorem pathAhead_text_iff (hj : ∀ c ∈ ['[', ']', ',', '?', '#', '/', '*', '-'], j ≠ .bare c)
    (n : Nat) : PathAhead i fresh w (j :: l) ts ↔
      PathAhead (n + 1) false (w ++ j.plain) l ts := by
  rw [pathAhead_cons_iff (hj '?' (by decide)) (hj '#' (by decide))]
  simp only [pathSays_text_iff hj n, PathAhead]

theorem pathAhead_rule_iff {c : Char} {rule : PathRule}
    (hc : c = '/' ∧ rule = .separator ∨ c = '*' ∧ rule = .glob) (n : Nat) :
    PathAhead i fresh w (.bare c :: l) ts ↔ ∃ later,
      PathAhead (n + 1) (c = '/') [] l later ∧ ts = closeSegment w ++ .path rule :: later := by
  have hend : Item.bare c ≠ .bare '?' ∧ Item.bare c ≠ .bare '#' := by
    obtain ⟨rfl, -⟩ | ⟨rfl, -⟩ := hc <;> decide
  rw [pathAhead_cons_iff hend.1 hend.2]
  simp only [pathSays_rule_iff hc n]
  constructor
  · rintro ⟨path, rest, more, he, ⟨later, hp, rfl⟩, hf⟩
    exact ⟨later, ⟨path, rest, more, he, hp, hf⟩, rfl⟩
  · rintro ⟨later, ⟨path, rest, more, he, hp, hf⟩, rfl⟩
    exact ⟨path, rest, more, he, ⟨later, hp, rfl⟩, hf⟩

theorem not_pathAhead_bad {c : Char} (hc : c ∈ ['[', ']', ',']) :
    ¬ PathAhead i fresh w (.bare c :: l) ts := by
  intro h
  have hend : Item.bare c ≠ .bare '?' ∧ Item.bare c ≠ .bare '#' := by
    constructor <;> rintro ⟨⟩ <;> exact absurd hc (by decide)
  obtain ⟨path, rest, more, rfl, hp, -⟩ := (pathAhead_cons_iff hend.1 hend.2).mp h
  exact hp.clear c (List.mem_append_left ['?', '#'] hc) List.mem_cons_self

theorem readStep_path_keep {rest : List Char}
    (hc : c ∉ ['[', ']', ',', '?', '#', '/', '*', '-']) (hslash : c ≠ '\\') :
    readStep (viewAt i (.path fresh) w (c :: rest)) =
      .ok { state := .path false, keep := true } := by
  simp only [List.mem_cons, List.not_mem_nil, or_false, not_or] at hc
  obtain ⟨hopen, hclose, hcomma, hquery, hhash, hsep, hstar, hminus⟩ := hc
  simp only [readStep, viewAt, pathStep, View.symbol, List.head?_cons]
  simp_all [pure, Except.pure]

/-- Nothing of the path is left. -/
def AtEnd (l : List Item) : Prop := ∀ j ∈ l.head?, j = .bare '?' ∨ j = .bare '#'

instance : Decidable (AtEnd l) := by
  unfold AtEnd
  infer_instance

theorem atEnd_iff : AtEnd l ↔ (textOf l).head? = none ∨ (textOf l).head? = some '?' ∨
    (textOf l).head? = some '#' := by
  rw [head?_textOf (by decide), head?_textOf (by decide)]
  cases l with
  | nil => simp [AtEnd]
  | cons j l => cases j <;> simp [AtEnd, Item.text]

theorem minus_alone_iff {rest : List Item} (hclear : ∀ c ∈ ['[', ']', ',', '?', '#'],
    .bare c ∉ path) (hf : Follows rest more) :
    (path = [] ↔ AtEnd (path ++ rest)) ∧ ((∀ k ∈ path.head?, k = .bare '/') ↔
      AtEnd (path ++ rest) ∨ (path ++ rest).head? = some (.bare '/')) := by
  cases path with
  | nil =>
    have hend : AtEnd rest := follows_head hf
    simp [hend]
  | cons k path =>
    obtain ⟨hk, -⟩ := clear_cons_iff.mp hclear
    have hend : ¬ AtEnd (k :: (path ++ rest)) := by
      intro h
      obtain hk' | hk' := h k rfl
      · exact hk '?' (by decide) hk'
      · exact hk '#' (by decide) hk'
    simp [hend]

/-- What a `-` in the path says depends on what is behind it: an end of the path or a `/`. -/
theorem pathAhead_minus_iff (n : Nat) : PathAhead i true [] (.bare '-' :: l) ts ↔
    (AtEnd l ∨ l.head? = some (.bare '/')) ∧ ∃ later, PathAhead (n + 1) false [] l later ∧
      ts = .path (if i = 0 ∧ AtEnd l then .omitPath else .omitSegment) :: later := by
  rw [pathAhead_cons_iff (by decide) (by decide)]
  simp only [pathSays_minus_iff n]
  constructor
  · rintro ⟨path, rest, more, rfl, ⟨later, hp, hhead, rfl⟩, hf⟩
    obtain ⟨hnil, halone⟩ := minus_alone_iff hp.clear hf
    exact ⟨halone.mp hhead, later, ⟨path, rest, more, rfl, hp, hf⟩, by simp only [hnil]⟩
  · rintro ⟨hhead, later, ⟨path, rest, more, rfl, hp, hf⟩, rfl⟩
    obtain ⟨hnil, halone⟩ := minus_alone_iff hp.clear hf
    exact ⟨path, rest, more, rfl, ⟨later, hp, halone.mpr hhead, by simp only [hnil]⟩, hf⟩

theorem not_pathAhead_minus : ¬ PathAhead i false w (.bare '-' :: l) ts := by
  intro h
  obtain ⟨path, rest, more, rfl, hp, -⟩ :=
    (pathAhead_cons_iff (by decide) (by decide)).mp h
  exact absurd (hp.spread.1 rfl).1 (by decide)

theorem minusStep_viewAt (i : Nat) (fresh : Bool) (w : List Char) (l : List Item) :
    readStep (viewAt i (.path fresh) w ('-' :: textOf l)) =
      if fresh = false ∨ ¬ (AtEnd l ∨ l.head? = some (.bare '/')) then
        .error { fault := .minus, index := i }
      else if i = 0 ∧ AtEnd l then .ok { state := .path false, emit := [.path .omitPath] }
      else .ok { state := .path false, emit := [.path .omitSegment] } := by
  have hstep : readStep (viewAt i (.path fresh) w ('-' :: textOf l)) =
      minusStep (viewAt i (.path fresh) w ('-' :: textOf l)) fresh := rfl
  rw [hstep, minusStep, peek_viewAt]
  simp only [atEnd_iff, ← head?_textOf (d := '/') (by decide)]
  rfl

theorem readStep_path_minus (h : AtEnd l ∨ l.head? = some (.bare '/')) :
    readStep (viewAt i (.path true) w ('-' :: textOf l)) = .ok {
      state := .path false
      emit := [.path (if i = 0 ∧ AtEnd l then .omitPath else .omitSegment)] } := by
  rw [minusStep_viewAt, if_neg (by simpa using h.resolve_left)]
  split <;> rfl

/-- A path ends at the first bare `?` or `#`, and its rules are those of its items. -/
theorem reads_path_iff (hl : Proper l) (hw : fresh = true → w = []) :
    Reads i (.path fresh) w l ts ↔ PathAhead i fresh w l ts := by
  -- no literal text waits where a `-` may stand, so it is never closed in front of one
  induction l, hl using proper_induction generalizing i fresh w ts with
  | nil => exact (reads_end_iff rfl).trans pathAhead_nil_iff.symm
  | stray =>
    rw [reads_stray_iff (z := .path fresh) (by simp), pathAhead_text_iff (by simp) i, Item.plain]
    refine (reads_end_iff rfl).trans ?_
    simp [pathAhead_nil_iff, viewAt]
  | pair c l _ ih =>
    rw [reads_pair_iff (z := .path fresh) (by simp), pathAhead_text_iff (by simp) (i + 1)]
    exact ih (by simp)
  | bare c l hc hl ih =>
    by_cases hend : c = '?' ∨ c = '#'
    · rw [pathAhead_end_iff hend]
      obtain rfl | rfl := hend
      · exact reads_mark_iff hl rfl
      · refine (reads_hash_iff hl rfl).trans ?_
        simp [follows_hash_iff, viewAt]
    obtain ⟨hquery, hhash⟩ := not_or.mp hend
    by_cases hsep : c = '/'
    · subst hsep
      rw [pathAhead_rule_iff (.inl ⟨rfl, rfl⟩) i]
      refine (reads_emit_iff [] rfl (by simp)).trans ?_
      simp [ih, viewAt]
    by_cases hglob : c = '*'
    · subst hglob
      rw [pathAhead_rule_iff (.inr ⟨rfl, rfl⟩) i]
      refine (reads_emit_iff [] rfl (by simp)).trans ?_
      simp [ih, viewAt]
    by_cases hminus : c = '-'
    · subst hminus
      cases fresh with
      | false =>
        have hno : ¬ Reads i (.path false) w (.bare '-' :: l) ts := not_reads_of_error rfl rfl
        simp [hno, not_pathAhead_minus]
      | true =>
        obtain rfl := hw rfl
        by_cases halone : AtEnd l ∨ l.head? = some (.bare '/')
        · refine (reads_emit_iff [] (readStep_path_minus halone) (by simp)).trans ?_
          simp [ih, pathAhead_minus_iff i, halone]
        · have herror := minusStep_viewAt i true [] l
          rw [if_pos (.inr halone)] at herror
          have hno : ¬ Reads i (.path true) [] (.bare '-' :: l) ts := not_reads_of_error rfl herror
          simp [hno, pathAhead_minus_iff i, halone]
    by_cases hbad : c ∈ ['[', ']', ',']
    · have hno : ¬ Reads i (.path fresh) w (.bare c :: l) ts := by
        simp only [List.mem_cons, List.not_mem_nil, or_false] at hbad
        obtain rfl | rfl | rfl := hbad <;> exact not_reads_of_error rfl rfl
      simp [hno, not_pathAhead_bad hbad]
    · have hc' : c ∉ ['[', ']', ',', '?', '#', '/', '*', '-'] := by
        simp_all
      rw [reads_keep_iff (readStep_path_keep hc' hc), pathAhead_text_iff ?_ i,
        Item.plain_bare hc]
      · exact ih (by simp)
      · rintro d hd he
        exact hc' (Item.bare.inj he ▸ hd)

/-! ## Patterns -/

theorem pathSays_start_iff :
    PathSays 0 true [] ts path more ↔ IsPath path ∧ ts = (pathRules path).map .path ++ more := by
  have hrules : rulesAt 0 [] path = pathRules path := by simp [rulesAt, pathRules]
  rw [isPath_iff]
  constructor
  · rintro ⟨hc, hs, rfl⟩
    exact ⟨⟨hc, hs⟩, by rw [hrules]⟩
  · rintro ⟨⟨hc, hs⟩, rfl⟩
    exact ⟨hc, hs, by rw [hrules]⟩

/-- What a scan makes of a pattern: the rules of its path, and those of what follows it. -/
theorem scan_eq_ok_iff {pattern : List Char} :
    scan pattern = .ok ts ↔ ∃ path rest more, items pattern = path ++ rest ∧ IsPath path ∧
      Follows rest more ∧ ts = (pathRules path).map .path ++ more := by
  have hreads : scan pattern = .ok ts ↔ Reads 0 (.path true) [] (items pattern) ts := by
    rw [Reads, textOf_items]
    rfl
  rw [hreads, reads_path_iff (proper_items pattern) (fun _ => rfl)]
  constructor
  · rintro ⟨path, rest, more, he, hp, hf⟩
    obtain ⟨hpath, rfl⟩ := pathSays_start_iff.mp hp
    exact ⟨path, rest, more, he, hpath, hf, rfl⟩
  · rintro ⟨path, rest, more, he, hpath, hf, rfl⟩
    exact ⟨path, rest, more, he, pathSays_start_iff.mpr ⟨hpath, rfl⟩, hf⟩

theorem read_eq_ok_iff {pattern : List Char} :
    read pattern = .ok ts ↔ ∃ scanned, scan pattern = .ok scanned ∧ ts = sortNames scanned := by
  unfold read
  cases scan pattern with
  | error e => exact ⟨nofun, nofun⟩
  | ok scanned =>
    constructor
    · rintro ⟨⟩
      exact ⟨scanned, rfl, rfl⟩
    · rintro ⟨_, ⟨⟩, rfl⟩
      rfl

/-- The patterns that can be read are those of the grammar. -/
theorem exists_read_eq_ok_iff (pattern : List Char) :
    (∃ ts, read pattern = .ok ts) ↔ ∃ path query fragment,
      items pattern = path ++ query ++ fragment ∧ IsPattern path query fragment := by
  constructor
  · rintro ⟨ts, hts⟩
    obtain ⟨scanned, hscan, -⟩ := read_eq_ok_iff.mp hts
    obtain ⟨path, rest, more, he, hpath, hf, -⟩ := scan_eq_ok_iff.mp hscan
    obtain ⟨query, fragment, rules, rfl, hquery, hfragment, hlone, -⟩ := hf
    exact ⟨path, query, fragment, by simp [he], hpath, ⟨rules, hquery⟩, hfragment, hlone⟩
  · rintro ⟨path, query, fragment, he, hpath, ⟨rules, hquery⟩, hfragment, hlone⟩
    have hf : Follows (query ++ fragment) (rules ++ fragmentRules fragment ++ [.finish]) :=
      ⟨query, fragment, rules, rfl, hquery, hfragment, hlone, rfl⟩
    have hscan := scan_eq_ok_iff.mpr ⟨path, _, _, by simpa using he, hpath, hf, rfl⟩
    exact ⟨_, read_eq_ok_iff.mpr ⟨_, hscan, rfl⟩⟩

end UrlTemplate.Pattern
