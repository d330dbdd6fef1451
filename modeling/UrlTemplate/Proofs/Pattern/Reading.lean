import UrlTemplate.Proofs.Pattern.Grammar
import UrlTemplate.Proofs.Scan

/-!
# Reading what follows the path of a pattern

The scan of a pattern goes from zone to zone and never back. What it makes of the items ahead
depends on the zone and on the literal text that is waiting. So each zone has one equivalence:
reading goes well from there, with these tokens, exactly if the items ahead have a certain form.
They follow from each other from the fragment backwards.

* `reads_fragment_iff`, `reads_query_iff`, `reads_paramList_iff`: the zones behind the path.
* `reads_hash_iff`, `reads_mark_iff`: the ways into them.
-/

namespace UrlTemplate.Pattern

open Escape
open Scan (View Reply)

/-! ## Single steps -/

/-- Reading the items `l` in the zone `z`, when the literal text `w` is waiting, gives `ts`. -/
def Reads (i : Nat) (z : Zone) (w : List Char) (l : List Item) (ts : List Token) : Prop :=
  Scan.go readStep i { state := z, literal := w } (textOf l) = .ok ts

/-- What a step sees there. -/
def viewAt (i : Nat) (z : Zone) (w rest : List Char) : View Zone :=
  { index := i, ahead := rest, literal := w, state := z }

/-- The zone behind an item that is none of the delimiters of its zone. -/
def Zone.within : Zone → Zone
  | .path _ => .path false
  | z => z

@[simp] theorem within_path (fresh : Bool) : (Zone.path fresh).within = .path false := rfl

@[simp] theorem within_paramList : Zone.paramList.within = .paramList := rfl

@[simp] theorem within_fragment : Zone.fragment.within = .fragment := rfl

variable {i : Nat} {z z' : Zone} {w : List Char} {c : Char} {l : List Item} {ts : List Token}

theorem reads_end_iff {reply : Reply Zone Token} (h : readStep (viewAt i z w []) = .ok reply) :
    Reads i z w [] ts ↔ ts = reply.emit := by
  refine Scan.ok_nil_iff.trans ?_
  constructor
  · rintro ⟨reply', hreply, rfl⟩
    cases h.symm.trans hreply
    rfl
  · exact fun he => ⟨reply, h, he⟩

theorem not_reads_of_error {rest : List Char} {e : SyntaxError} (ht : textOf l = c :: rest)
    (h : readStep (viewAt i z w (c :: rest)) = .error e) : ¬ Reads i z w l ts := by
  intro hr
  rw [Reads, ht] at hr
  obtain ⟨reply, more, hreply, -⟩ := (Scan.ok_cons_iff rfl rfl).mp hr
  cases h.symm.trans hreply

/-- A character that joins the literal text. -/
theorem reads_keep_iff
    (h : readStep (viewAt i z w (c :: textOf l)) = .ok { state := z', keep := true }) :
    Reads i z w (.bare c :: l) ts ↔ Reads (i + 1) z' (w ++ [c]) l ts := by
  refine (Scan.ok_cons_iff rfl rfl).trans ?_
  constructor
  · rintro ⟨reply, more, hreply, hmore, rfl⟩
    cases h.symm.trans hreply
    exact hmore
  · exact fun hr => ⟨_, ts, h, hr, rfl⟩

theorem textOf_map_bare (s : List Char) : textOf (s.map .bare) = s := by
  induction s with
  | nil => rfl
  | cons c s ih => simp [Item.text, ih]

/-- The characters that a step has looked at are passed over. -/
theorem go_skipped (i : Nat) (p : Scan.Pending Zone) (s rest : List Char)
    (hp : p.skip = s.length) :
    Scan.go readStep i p (s ++ rest) =
      Scan.go readStep (i + s.length) { p with skip := 0 } rest := by
  induction s generalizing i p with
  | nil =>
    obtain ⟨state, literal, skip, escape⟩ := p
    obtain rfl : skip = 0 := hp
    rfl
  | cons c s ih =>
    rw [List.length_cons] at hp
    rw [List.cons_append, Scan.go_skip (by omega), ih _ _ (by simp [hp]), List.length_cons]
    congr 1
    omega

/-- A delimiter, together with the characters `s` behind it that the step has looked at. -/
theorem reads_emit_iff (s : List Char) {written : List Token} {take : Bool}
    (h : readStep (viewAt i z w (c :: (s ++ textOf l))) =
      .ok { state := z', emit := written, take, skip := s.length })
    (hw : take = false → w = []) :
    Reads i z w (.bare c :: (s.map .bare ++ l)) ts ↔
      ∃ more, Reads (i + 1 + s.length) z' [] l more ∧ ts = written ++ more := by
  have hnil : (if take then [] else w) = [] := by
    cases take with
    | false => exact hw rfl
    | true => rfl
  have hgo : ∀ more, Scan.go readStep (i + 1)
      { state := z', literal := if take then [] else w, skip := s.length } (s ++ textOf l) =
        .ok more ↔ Reads (i + 1 + s.length) z' [] l more := by
    intro more
    rw [go_skipped _ _ _ _ rfl, hnil]
    rfl
  have htext : textOf (s.map .bare ++ l) = s ++ textOf l := by
    rw [textOf_append, textOf_map_bare]
  unfold Reads
  rw [textOf_cons, htext]
  refine (Scan.ok_cons_iff rfl rfl).trans ?_
  constructor
  · rintro ⟨reply, more, hreply, hmore, rfl⟩
    cases h.symm.trans hreply
    exact ⟨more, (hgo more).mp hmore, rfl⟩
  · rintro ⟨more, hmore, rfl⟩
    exact ⟨_, more, h, (hgo more).mpr hmore, rfl⟩

theorem readStep_backslash (hz : z ≠ .query) (i : Nat) (w rest : List Char) :
    readStep (viewAt i z w ('\\' :: rest)) = .ok { state := z.within, escape := true } := by
  cases z with
  | query => exact absurd rfl hz
  | _ => rfl

/-- A protected character joins the literal text, whatever it is. -/
theorem reads_pair_iff (hz : z ≠ .query) :
    Reads i z w (.pair c :: l) ts ↔ Reads (i + 2) z.within (w ++ [c]) l ts := by
  have hgo : Scan.go readStep (i + 1) { state := z.within, literal := w, escape := true }
      (c :: textOf l) = Scan.go readStep (i + 2) { state := z.within, literal := w ++ [c] }
        (textOf l) := Scan.go_escape rfl rfl (i + 1) c (textOf l)
  refine (Scan.ok_cons_iff rfl rfl).trans ?_
  constructor
  · rintro ⟨reply, more, hreply, hmore, rfl⟩
    cases (readStep_backslash hz i w _).symm.trans hreply
    exact hgo.symm.trans hmore
  · exact fun hr => ⟨_, ts, readStep_backslash hz i w _, hgo.trans hr, rfl⟩

/-- A backslash at the end is dropped. -/
theorem reads_stray_iff (hz : z ≠ .query) :
    Reads i z w [.bare '\\'] ts ↔ Reads (i + 1) z.within w [] ts := by
  refine (Scan.ok_cons_iff rfl rfl).trans ?_
  constructor
  · rintro ⟨reply, more, hreply, hmore, rfl⟩
    cases (readStep_backslash hz i w []).symm.trans hreply
    exact hmore
  · exact fun hr => ⟨_, ts, readStep_backslash hz i w [], hr, rfl⟩

/-- The next character that a step sees. -/
theorem peek_viewAt (i : Nat) (z : Zone) (w : List Char) (c : Char) (l : List Item) :
    (viewAt i z w (c :: textOf l)).peek 1 = (textOf l).head? := by
  simp [View.peek, viewAt, List.head?_eq_getElem?]

theorem head?_textOf {d : Char} (hd : d ≠ '\\') (l : List Item) :
    (textOf l).head? = some d ↔ l.head? = some (.bare d) := by
  cases l with
  | nil => simp
  | cons j l => cases j <;> simp [Item.text, Ne.symm hd]

/-! ## The fragment -/

theorem readStep_fragment_end (i : Nat) (w : List Char) :
    readStep (viewAt i .fragment w []) =
      .ok { state := .fragment, emit := closeFragment w ++ [.finish], take := true } := rfl

/-- Any items can be read in the fragment. -/
theorem reads_fragment_iff (hl : Proper l) :
    Reads i .fragment w l ts ↔ ts = closeFragment (w ++ plainOf l) ++ [.finish] := by
  induction l, hl using proper_induction generalizing i w with
  | nil => simpa using reads_end_iff (readStep_fragment_end i w)
  | stray =>
    rw [reads_stray_iff (by decide)]
    simpa [Item.plain] using reads_end_iff (readStep_fragment_end (i + 1) w)
  | pair c l _ ih =>
    rw [reads_pair_iff (by decide), within_fragment, ih]
    simp [Item.plain]
  | bare c l hc _ ih =>
    have hstep : readStep (viewAt i .fragment w (c :: textOf l)) =
        .ok { state := .fragment, keep := true } := by
      simp only [readStep, viewAt, View.symbol, fragmentStep, List.head?_cons]
      rfl
    rw [reads_keep_iff hstep, ih]
    simp [Item.plain, hc]

/-- A `#` starts the fragment, behind the tokens `written`. -/
theorem reads_hash_iff (hl : Proper l) {written : List Token}
    (h : readStep (viewAt i z w ('#' :: textOf l)) =
      .ok (openFragment (viewAt i z w ('#' :: textOf l)) written)) :
    Reads i z w (.bare '#' :: l) ts ↔ ts = written ++ fragmentRulesBehind l ++ [.finish] := by
  unfold fragmentRulesBehind
  by_cases hminus : l.head? = some (.bare '-')
  · obtain ⟨l, rfl⟩ := List.head?_eq_some_iff.mp hminus
    refine (reads_emit_iff ['-'] h nofun).trans ?_
    simp [reads_fragment_iff hl.2]
  · by_cases hglob : l.head? = some (.bare '*')
    · obtain ⟨l, rfl⟩ := List.head?_eq_some_iff.mp hglob
      refine (reads_emit_iff ['*'] h nofun).trans ?_
      simp [reads_fragment_iff hl.2]
    · have hopen : openFragment (viewAt i z w ('#' :: textOf l)) written =
          { state := .fragment, emit := written, take := true } := by
        rw [← head?_textOf (by decide), ← peek_viewAt i z w '#'] at hminus hglob
        unfold openFragment
        split
        · exact absurd ‹_› hminus
        · exact absurd ‹_› hglob
        · rfl
      refine (reads_emit_iff [] (h.trans (congrArg _ hopen)) nofun).trans ?_
      simp [reads_fragment_iff hl, hminus, hglob]

/-! ## The query -/

theorem queryStep_error {v : View Zone} (hv : v.symbol = some c) (hc : c ≠ '#') :
    ∃ e, queryStep v = .error e := by
  unfold queryStep
  rw [hv]
  split
  · cases ‹some c = none›
  · exact absurd (Option.some.inj ‹_›) hc
  all_goals exact ⟨_, rfl⟩

/-- Nothing but a fragment follows a query. -/
theorem reads_query_iff (hl : Proper l) :
    Reads i .query w l ts ↔ IsFragment l ∧ ts = fragmentRules l ++ [.finish] := by
  cases l with
  | nil =>
    refine (reads_end_iff rfl).trans ?_
    simp [IsFragment, fragmentRules]
  | cons j l =>
    by_cases hj : j = .bare '#'
    · subst hj
      refine (reads_hash_iff hl.2 rfl).trans ?_
      simp [IsFragment, fragmentRules]
    · obtain ⟨c, rest, ht, hc⟩ : ∃ c rest, textOf (j :: l) = c :: rest ∧ c ≠ '#' := by
        cases j with
        | pair d => exact ⟨'\\', _, rfl, by decide⟩
        | bare d => exact ⟨d, _, rfl, fun hd => hj (congrArg _ hd)⟩
      obtain ⟨e, he⟩ := queryStep_error (v := viewAt i .query w (c :: rest)) rfl hc
      have hno : ¬ Reads i .query w (j :: l) ts := not_reads_of_error ht he
      simp [hno, IsFragment, hj]

/-! ## Lists of names -/

theorem isNames_cons {j : Item} :
    IsNames (j :: l) ↔
      (∀ c ∈ ['[', ']', '^', '-', '?', '#', '*', '/'], .bare c ≠ j) ∧ IsNames l := by
  simp only [IsNames, List.mem_cons, not_or, forall_and, ne_eq]

/-- The list goes on up to its first bare `]`. -/
theorem exists_names_cons {j : Item} (hj : j ≠ .bare ']') {P : List Item → List Item → Prop} :
    (∃ names rest, j :: l = names ++ .bare ']' :: rest ∧ P names rest) ↔
      ∃ names rest, l = names ++ .bare ']' :: rest ∧ P (j :: names) rest := by
  constructor
  · rintro ⟨names, rest, he, hp⟩
    cases names with
    | nil => exact absurd (List.cons.inj he).1 hj
    | cons k names =>
      obtain ⟨rfl, rfl⟩ := List.cons.inj he
      exact ⟨names, rest, rfl, hp⟩
  · rintro ⟨names, rest, rfl, hp⟩
    exact ⟨j :: names, rest, rfl, hp⟩

theorem not_reads_paramList_nil : ¬ Reads i .paramList w [] ts := by
  intro h
  obtain ⟨reply, hreply, -⟩ := Scan.ok_nil_iff.mp h
  cases hreply

theorem readStep_paramList_error (hc : c ∈ ['[', '^', '-', '?', '#', '*', '/'])
    (i : Nat) (w rest : List Char) :
    ∃ e, readStep (viewAt i .paramList w (c :: rest)) = .error e := by
  simp only [List.mem_cons, List.not_mem_nil, or_false] at hc
  obtain rfl | rfl | rfl | rfl | rfl | rfl | rfl := hc <;> exact ⟨_, rfl⟩

theorem readStep_paramList_keep {rest : List Char}
    (hc : c ∉ ['[', ']', '^', '-', '?', '#', '*', '/']) (hcomma : c ≠ ',') (hslash : c ≠ '\\') :
    readStep (viewAt i .paramList w (c :: rest)) = .ok { state := .paramList, keep := true } := by
  simp only [List.mem_cons, List.not_mem_nil, or_false, not_or] at hc
  obtain ⟨hopen, hclose, hcaret, hminus, hquery, hhash, hstar, hsep⟩ := hc
  simp only [readStep, viewAt, paramListStep, View.symbol, List.head?_cons]
  split <;> simp_all [pure, Except.pure]

/-- A list of names is closed by a bare `]`, which ends the query. -/
theorem reads_paramList_iff (hl : Proper l) :
    Reads i .paramList w l ts ↔ ∃ names rest, l = names ++ .bare ']' :: rest ∧
      IsNames names ∧ IsFragment rest ∧
        ts = nameRules (namesFrom w names) ++ fragmentRules rest ++ [.finish] := by
  induction l, hl using proper_induction generalizing i w ts with
  | nil => simp [not_reads_paramList_nil]
  | stray =>
    rw [reads_stray_iff (by decide), within_paramList, exists_names_cons (by decide)]
    simp [not_reads_paramList_nil]
  | pair c l _ ih =>
    rw [reads_pair_iff (by decide), within_paramList, ih]
    refine Iff.trans ?_ (exists_names_cons (by simp)).symm
    simp [isNames_cons, namesFrom, Item.plain]
  | bare c l hc hl ih =>
    by_cases hclose : c = ']'
    · subst hclose
      have hstep : readStep (viewAt i .paramList w (']' :: textOf l)) =
          .ok { state := .query, emit := closeName w, take := true } := rfl
      refine (reads_emit_iff [] hstep (by simp)).trans ?_
      constructor
      · rintro ⟨more, hmore, rfl⟩
        obtain ⟨hf, rfl⟩ := (reads_query_iff hl).mp hmore
        exact ⟨[], l, rfl, by simp [IsNames], hf, by simp [namesFrom, closeName_eq]⟩
      · rintro ⟨names, rest, he, hnames, hf, rfl⟩
        cases names with
        | nil =>
          obtain rfl : l = rest := (List.cons.inj he).2
          exact ⟨_, (reads_query_iff hl).mpr ⟨hf, rfl⟩, by simp [namesFrom, closeName_eq]⟩
        | cons j names =>
          obtain rfl : Item.bare ']' = j := (List.cons.inj he).1
          exact absurd List.mem_cons_self (hnames ']' (by decide))
    · refine Iff.trans ?_ (exists_names_cons (by simpa using hclose)).symm
      by_cases hcomma : c = ','
      · subst hcomma
        have hstep : readStep (viewAt i .paramList w (',' :: textOf l)) =
            .ok { state := .paramList, emit := closeName w, take := true } := rfl
        refine (reads_emit_iff [] hstep (by simp)).trans ?_
        simp only [ih]
        constructor
        · rintro ⟨more, ⟨names, rest, rfl, hnames, hf, rfl⟩, rfl⟩
          refine ⟨names, rest, rfl, isNames_cons.mpr ⟨by simp, hnames⟩, hf, ?_⟩
          simp [namesFrom, closeName_eq, nameRules]
        · rintro ⟨names, rest, rfl, hnames, hf, rfl⟩
          refine ⟨_, ⟨names, rest, rfl, (isNames_cons.mp hnames).2, hf, rfl⟩, ?_⟩
          simp [namesFrom, closeName_eq, nameRules]
      · by_cases hbad : c ∈ ['[', ']', '^', '-', '?', '#', '*', '/']
        · have hnames : ∀ names, ¬ IsNames (.bare c :: names) :=
            fun names h => (isNames_cons.mp h).1 c hbad rfl
          obtain ⟨e, he⟩ := readStep_paramList_error (by simpa [hclose] using hbad) i w (textOf l)
          have hno : ¬ Reads i .paramList w (.bare c :: l) ts := not_reads_of_error rfl he
          simp [hno, hnames]
        · have hnames : ∀ names, IsNames (.bare c :: names) ↔ IsNames names := by
            refine fun names => isNames_cons.trans (and_iff_right ?_)
            rintro d hd he
            exact hbad (Item.bare.inj he ▸ hd)
          rw [reads_keep_iff (readStep_paramList_keep hbad hcomma hc), ih]
          simp [hnames, namesFrom, Item.plain_bare hc, hcomma]

/-! ## What follows the path -/

theorem follows_nil_iff : Follows [] ts ↔ ts = [.finish] := by
  constructor
  · rintro ⟨query, fragment, rules, he, hq, -, -, rfl⟩
    obtain ⟨rfl, rfl⟩ := List.append_eq_nil_iff.mp he.symm
    cases hq
    rfl
  · rintro rfl
    exact ⟨[], [], [], rfl, .absent, by simp [IsFragment], by simp, rfl⟩

theorem follows_hash_iff :
    Follows (.bare '#' :: l) ts ↔ ts = fragmentRulesBehind l ++ [.finish] := by
  constructor
  · rintro ⟨query, fragment, rules, he, hq, -, -, rfl⟩
    cases hq with
    | absent =>
      obtain rfl : .bare '#' :: l = fragment := he
      rfl
    | _ => simp at he
  · rintro rfl
    exact ⟨[], .bare '#' :: l, [], rfl, .absent, by simp [IsFragment], by simp, rfl⟩

theorem follows_mark_iff : Follows (.bare '?' :: l) ts ↔
    (l = [] ∧ ts = [.finish]) ∨
    (∃ f, l = .bare '*' :: f ∧ IsFragment f ∧ ts = fragmentRules f ++ [.finish]) ∨
    (∃ f, l = .bare '-' :: f ∧ IsFragment f ∧
      ts = .query .omitQuery :: fragmentRules f ++ [.finish]) ∨
    (∃ names f, l = .bare '[' :: .bare '^' :: (names ++ .bare ']' :: f) ∧ IsNames names ∧
      IsFragment f ∧ ts = .query .denyList :: nameRules (namesFrom [] names) ++
        fragmentRules f ++ [.finish]) ∨
    ∃ names f, l = .bare '[' :: (names ++ .bare ']' :: f) ∧ IsNames names ∧
      IsFragment f ∧ ts = .query .allowList :: nameRules (namesFrom [] names) ++
        fragmentRules f ++ [.finish] := by
  constructor
  · rintro ⟨query, fragment, rules, he, hq, hf, hlone, rfl⟩
    cases hq with
    | absent =>
      obtain rfl : .bare '?' :: l = fragment := he
      simp [IsFragment] at hf
    | lone =>
      obtain rfl := hlone rfl
      exact .inl ⟨by simpa using he, rfl⟩
    | all => exact .inr (.inl ⟨fragment, by simpa using he, hf, rfl⟩)
    | none => exact .inr (.inr (.inl ⟨fragment, by simpa using he, hf, rfl⟩))
    | deny h => exact .inr (.inr (.inr (.inl ⟨_, fragment, by simpa using he, h, hf, rfl⟩)))
    | allow h => exact .inr (.inr (.inr (.inr ⟨_, fragment, by simpa using he, h, hf, rfl⟩)))
  · rintro (⟨rfl, rfl⟩ | ⟨f, rfl, hf, rfl⟩ | ⟨f, rfl, hf, rfl⟩ | ⟨names, f, rfl, h, hf, rfl⟩ |
      ⟨names, f, rfl, h, hf, rfl⟩)
    · exact ⟨[.bare '?'], [], [], rfl, .lone, by simp [IsFragment], by simp, rfl⟩
    · exact ⟨_, f, _, rfl, .all, hf, by simp, rfl⟩
    · exact ⟨_, f, _, rfl, .none, hf, by simp, rfl⟩
    · exact ⟨_, f, _, by simp, .deny h, hf, by simp, rfl⟩
    · exact ⟨_, f, _, by simp, .allow h, hf, by simp, rfl⟩

theorem follows_head (h : Follows l ts) : ∀ j ∈ l.head?, j = .bare '?' ∨ j = .bare '#' := by
  obtain ⟨query, fragment, rules, rfl, hq, hf, -, -⟩ := h
  intro j hj
  cases hq with
  | absent => exact .inr (hf j hj)
  | _ => exact .inl (by simpa using hj.symm)

/-- What a list of names behind `?[` or `?[^` says, behind the token `t` of its kind. -/
theorem exists_reads_paramList_iff (hl : Proper l) (t : Token) :
    (∃ more, Reads i .paramList [] l more ∧ ts = [t] ++ more) ↔
      ∃ names rest, l = names ++ .bare ']' :: rest ∧ IsNames names ∧ IsFragment rest ∧
        ts = t :: nameRules (namesFrom [] names) ++ fragmentRules rest ++ [.finish] := by
  constructor
  · rintro ⟨more, hmore, rfl⟩
    obtain ⟨names, rest, rfl, h, hf, rfl⟩ := (reads_paramList_iff hl).mp hmore
    exact ⟨names, rest, rfl, h, hf, by simp⟩
  · rintro ⟨names, rest, rfl, h, hf, rfl⟩
    exact ⟨_, (reads_paramList_iff hl).mpr ⟨names, rest, rfl, h, hf, rfl⟩, by simp⟩

/-- A list of names does not start with a bare `^`. -/
theorem not_isNames_of_caret {names rest : List Item}
    (he : .bare '^' :: l = names ++ .bare ']' :: rest) : ¬ IsNames names := by
  intro h
  cases names with
  | nil => simp at he
  | cons j names =>
    obtain rfl : Item.bare '^' = j := (List.cons.inj he).1
    exact h '^' (by decide) List.mem_cons_self

theorem follows_caret_iff : Follows (.bare '?' :: .bare '[' :: .bare '^' :: l) ts ↔
    ∃ names rest, l = names ++ .bare ']' :: rest ∧ IsNames names ∧ IsFragment rest ∧
      ts = .query .denyList :: nameRules (namesFrom [] names) ++ fragmentRules rest ++
        [.finish] := by
  rw [follows_mark_iff]
  constructor
  · rintro (⟨h, -⟩ | ⟨f, h, -⟩ | ⟨f, h, -⟩ | ⟨names, f, h, hnames, hf, rfl⟩ |
      ⟨names, f, h, hnames, -⟩)
    · cases h
    · cases h
    · cases h
    · exact ⟨names, f, by simpa using h, hnames, hf, rfl⟩
    · exact absurd hnames (not_isNames_of_caret (List.cons.inj h).2)
  · rintro ⟨names, f, rfl, h⟩
    exact .inr (.inr (.inr (.inl ⟨names, f, rfl, h⟩)))

theorem follows_bracket_iff (hl : l.head? ≠ some (.bare '^')) :
    Follows (.bare '?' :: .bare '[' :: l) ts ↔
      ∃ names rest, l = names ++ .bare ']' :: rest ∧ IsNames names ∧ IsFragment rest ∧
        ts = .query .allowList :: nameRules (namesFrom [] names) ++ fragmentRules rest ++
          [.finish] := by
  rw [follows_mark_iff]
  constructor
  · rintro (⟨h, -⟩ | ⟨f, h, -⟩ | ⟨f, h, -⟩ | ⟨names, f, h, -⟩ | ⟨names, f, h, hnames⟩)
    · cases h
    · cases h
    · cases h
    · exact absurd (by rw [(List.cons.inj h).2]; rfl) hl
    · exact ⟨names, f, (List.cons.inj h).2, hnames⟩
  · rintro ⟨names, f, rfl, h⟩
    exact .inr (.inr (.inr (.inr ⟨names, f, rfl, h⟩)))

theorem peek_two_viewAt (i : Nat) (z : Zone) (w : List Char) (c d : Char) (l : List Item) :
    (viewAt i z w (c :: d :: textOf l)).peek 2 = (textOf l).head? := by
  simp [View.peek, viewAt, List.head?_eq_getElem?]

/-- The start of a query, together with the characters `s` that say of which kind it is. -/
theorem reads_opened_iff (s : List Char) (extra : List Token) {written : List Token}
    (h : readStep (viewAt i z w ('?' :: (s ++ textOf l))) =
      .ok { state := z', emit := written ++ extra, take := true, skip := s.length })
    (hf : ∀ more, Follows (.bare '?' :: (s.map .bare ++ l)) more ↔
      ∃ m, Reads (i + 1 + s.length) z' [] l m ∧ more = extra ++ m) :
    Reads i z w (.bare '?' :: (s.map .bare ++ l)) ts ↔
      ∃ more, ts = written ++ more ∧ Follows (.bare '?' :: (s.map .bare ++ l)) more := by
  refine (reads_emit_iff s h (by simp)).trans ?_
  constructor
  · rintro ⟨m, hm, rfl⟩
    exact ⟨extra ++ m, by simp, (hf _).mpr ⟨m, hm, rfl⟩⟩
  · rintro ⟨more, rfl, hmore⟩
    obtain ⟨m, hm, rfl⟩ := (hf _).mp hmore
    exact ⟨m, hm, by simp⟩

theorem openQuery_error {v : View Zone} {d : Char} (hv : v.peek 1 = some d)
    (hd : d ∉ ['*', '-', '[']) (written : List Token) : ∃ e, openQuery v written = .error e := by
  simp only [List.mem_cons, List.not_mem_nil, or_false, not_or] at hd
  obtain ⟨hglob, hminus, hopen⟩ := hd
  unfold openQuery
  rw [hv]
  split <;> first | exact ⟨_, rfl⟩ | simp_all

/-- A `?` starts the query, behind the tokens `written`. -/
theorem reads_mark_iff (hl : Proper l) {written : List Token}
    (h : readStep (viewAt i z w ('?' :: textOf l)) =
      openQuery (viewAt i z w ('?' :: textOf l)) written) :
    Reads i z w (.bare '?' :: l) ts ↔ ∃ more, ts = written ++ more ∧
      Follows (.bare '?' :: l) more := by
  cases l with
  | nil =>
    refine reads_opened_iff [] [] (h.trans (by simp; rfl)) fun more => ?_
    simp [reads_query_iff hl, follows_mark_iff, IsFragment, fragmentRules]
  | cons j l =>
    by_cases hglob : j = .bare '*'
    · subst hglob
      refine reads_opened_iff ['*'] [] (h.trans (by simp; rfl)) fun more => ?_
      simp [reads_query_iff hl.2, follows_mark_iff]
    by_cases hminus : j = .bare '-'
    · subst hminus
      refine reads_opened_iff ['-'] [.query .omitQuery] (h.trans rfl) fun more => ?_
      simp [reads_query_iff hl.2, follows_mark_iff, and_assoc]
    by_cases hopen : j = .bare '['
    · subst hopen
      by_cases hcaret : l.head? = some (.bare '^')
      · obtain ⟨l, rfl⟩ := List.head?_eq_some_iff.mp hcaret
        refine reads_opened_iff ['[', '^'] [.query .denyList] (h.trans rfl) fun more => ?_
        exact follows_caret_iff.trans (exists_reads_paramList_iff hl.2.2 _).symm
      · have hopened : openQuery (viewAt i z w ('?' :: textOf (.bare '[' :: l))) written =
            .ok { state := .paramList, emit := written ++ [.query .allowList],
                  take := true, skip := 1 } := by
          rw [← head?_textOf (by decide), ← peek_two_viewAt i z w '?' '['] at hcaret
          exact if_neg hcaret
        refine reads_opened_iff ['['] [.query .allowList] (h.trans hopened) fun more => ?_
        exact (follows_bracket_iff hcaret).trans (exists_reads_paramList_iff hl.2 _).symm
    · obtain ⟨d, rest, ht, hd⟩ : ∃ d rest, textOf (j :: l) = d :: rest ∧ d ∉ ['*', '-', '['] := by
        cases j with
        | pair d => exact ⟨'\\', _, rfl, by decide⟩
        | bare d => exact ⟨d, _, rfl, by simp_all⟩
      obtain ⟨e, he⟩ := openQuery_error (v := viewAt i z w ('?' :: d :: rest)) rfl hd written
      rw [ht] at h
      have hno : ¬ Reads i z w (.bare '?' :: j :: l) ts :=
        not_reads_of_error (congrArg _ ht) (h.trans he)
      simp [hno, follows_mark_iff, hglob, hminus, hopen]

end UrlTemplate.Pattern
