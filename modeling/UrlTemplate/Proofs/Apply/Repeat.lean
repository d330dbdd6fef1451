import Mathlib.Data.List.Chain
import UrlTemplate.Proofs.Apply.Canonical

/-!
# Applying a pattern twice

A walk that drops no segment on the way keeps the front of a path. Along that front it goes the
same way again, as far as the rules fit it at all. The front can be too short for them: a
separator that only a later rule has taken is not kept, and then the path does not fit any more.

* `walk_again`: what a walk keeps, it keeps again.
* `fitPath_again`, `fitPath_root`: so do path rules, and nothing is made of the root if nothing
  has been left of a path.
* `apply_again`: so does a pattern.
-/

namespace UrlTemplate.Apply

open Pattern (PathRule Spaced)
open Url (Form PathToken followers joinSegments pathTokens)

variable {copyRest : Bool} {rules : List PathRule} {path out : List PathToken} {w : Written}

/-- A rule that stands for a segment, and keeps it, leaves something of a path. -/
theorem walk_segment_ne_nil {r : PathRule} (hr : r.isSegment) (homit : r ≠ .omitSegment) :
    walk copyRest (r :: rules) path w ≠ .ok [] := by
  have hwritten : ∀ rules path t, walk copyRest rules path (w.segment t) ≠ .ok [] := by
    intro rules path t h
    have hnil := List.prefix_nil.mp (prefix_of_walk h)
    simp [Written.segment] at hnil
  intro h
  cases r with
  | separator => cases hr
  | omitPath => cases hr
  | omitSegment => exact homit rfl
  | matchSegment expected =>
    rcases path with _ | ⟨_ | found, path⟩
    · cases h
    · cases h
    · rw [walk] at h
      split at h
      · exact hwritten _ _ _ h
      · cases h
  | glob =>
    cases rules with
    | nil =>
      rw [walk] at h
      split at h
      · cases h
      · rename_i hpath
        have hfinish : (w.flush.copy path).finish = w.flush.tokens ++ path :=
          Written.finish_of_not_pending w.pending_flush
        have hnil := Except.ok.inj h
        rw [hfinish, List.append_eq_nil_iff] at hnil
        obtain ⟨hflush, rfl⟩ := hnil
        cases hp : w.pending <;> simp_all [Written.flush]
    | cons s rules =>
      rcases path with _ | ⟨_ | found, path⟩
      · cases h
      · cases h
      · rw [walk] at h
        · exact hwritten _ _ _ h
        · simp

/-! ## Walking twice -/

/-- No two separators stand side by side. -/
def Single (path : List PathToken) : Prop :=
  path.IsChain fun a b => a = .separator → b ≠ .separator

/-- A separator is pending only if it has been taken from the path and rules are left, but for a
path that has come to its end. -/
structure Ready (rules : List PathRule) (path : List PathToken) (w : Written) : Prop where
  single : Single path
  taken : w.pending → path.head? ≠ some .separator
  ended : w.pending → rules = [] → path = []

/-- Behind what has been written, `out` keeps the front of the path, and the rules keep it again
if they fit it. A pending separator may have been dropped, though, with nothing behind it. -/
def Keeps (copyRest : Bool) (rules : List PathRule) (path : List PathToken) (w : Written)
    (out : List PathToken) : Prop :=
  (∃ front, front <+: path ∧ out = w.flush.tokens ++ front ∧
    ∀ again, walk copyRest rules front w = .ok again → again = out) ∨
  (w.pending ∧ out = w.tokens)

theorem keeps_nil (hw : w.pending → path = []) :
    Keeps copyRest [] path w (if copyRest then w.copy path else w).finish := by
  cases hp : w.pending with
  | false =>
    cases copyRest with
    | false =>
      refine .inl ⟨[], List.nil_prefix, ?_, fun again h => (Except.ok.inj h).symm⟩
      simp [Written.flush_of_not_pending hp, Written.finish_of_not_pending hp]
    | true =>
      refine .inl ⟨path, List.prefix_rfl, ?_, fun again h => (Except.ok.inj h).symm⟩
      simp [Written.flush_of_not_pending hp, Written.finish, Written.copy, hp]
  | true =>
    obtain rfl := hw hp
    by_cases ht : w.tokens = []
    · refine .inl ⟨[], List.nil_prefix, ?_, fun again h => (Except.ok.inj h).symm⟩
      cases copyRest <;> simp [Written.finish, Written.flush, Written.copy, hp, ht]
    · refine .inr ⟨hp, ?_⟩
      cases copyRest <;> simp [Written.finish, Written.copy, ht]

theorem keeps_separator (hw : w.pending = false) (hrules : rules ≠ [])
    (h : Keeps copyRest rules path { w with pending := true } out) :
    Keeps copyRest (.separator :: rules) (.separator :: path) w out := by
  have hempty : rules.isEmpty = false := by simpa using hrules
  rcases h with ⟨front, hfront, rfl, hagain⟩ | ⟨-, rfl⟩
  · refine .inl ⟨.separator :: front, List.cons_prefix_cons.mpr ⟨rfl, hfront⟩, ?_, ?_⟩
    · rw [Written.flush_of_not_pending hw]
      simp [Written.flush]
    · intro again h
      rw [walk, hempty] at h
      exact hagain again h
  · refine .inl ⟨[], List.nil_prefix, ?_, ?_⟩
    · rw [Written.flush_of_not_pending hw, List.append_nil]
    · intro again h
      simp [walk, hempty, throw, throwThe, MonadExceptOf.throw] at h

/-- A separator that is the last rule is taken, and not written. -/
theorem keeps_last_separator (hw : w.pending = false) (hcopy : copyRest = false) :
    Keeps copyRest [.separator] path w w.finish := by
  subst hcopy
  refine .inl ⟨[], List.nil_prefix, ?_, fun again h => (Except.ok.inj h).symm⟩
  rw [Written.finish_of_not_pending hw, Written.flush_of_not_pending hw, List.append_nil]

theorem keeps_segment {r : PathRule} {t : List Char}
    (hstep : ∀ front, walk copyRest (r :: rules) (.segment t :: front) w =
      walk copyRest rules front (w.segment t))
    (h : Keeps copyRest rules path (w.segment t) out) :
    Keeps copyRest (r :: rules) (.segment t :: path) w out := by
  rcases h with ⟨front, hfront, rfl, hagain⟩ | ⟨hp, -⟩
  · refine .inl ⟨.segment t :: front, List.cons_prefix_cons.mpr ⟨rfl, hfront⟩, ?_, ?_⟩
    · simp [w.flush_segment, w.tokens_segment]
    · intro again h
      rw [hstep] at h
      exact hagain again h
  · rw [w.pending_segment] at hp
    cases hp

theorem keeps_rest (hpath : ¬ (path.isEmpty && !(w.pending && w.tokens.isEmpty))) :
    Keeps copyRest [.glob] path w (w.flush.copy path).finish := by
  refine .inl ⟨path, List.prefix_rfl, ?_, fun again h => ?_⟩
  · exact Written.finish_of_not_pending w.pending_flush
  · rw [walk, if_neg hpath] at h
    exact (Except.ok.inj h).symm

theorem keeps_omitPath : Keeps copyRest (.omitPath :: rules) path w w.tokens := by
  cases hp : w.pending with
  | false =>
    refine .inl ⟨[], List.nil_prefix, ?_, fun again h => (Except.ok.inj h).symm⟩
    rw [Written.flush_of_not_pending hp, List.append_nil]
  | true => exact .inr ⟨hp, rfl⟩

namespace Ready

theorem separator (h : Ready (.separator :: rules) (.separator :: path) w) (hrules : rules ≠ []) :
    Ready rules path { w with pending := true } := by
  refine ⟨List.IsChain.tail h.single, fun _ hhead => ?_, fun _ he => absurd he hrules⟩
  obtain ⟨rest, rfl⟩ := List.head?_eq_some_iff.mp hhead
  exact (List.isChain_cons_cons.mp h.single).1 rfl rfl

theorem segment {r : PathRule} {t : List Char} (h : Ready (r :: rules) (.segment t :: path) w) :
    Ready rules path (w.segment t) := by
  have hp : ¬ (w.segment t).pending := by simp [w.pending_segment]
  exact ⟨List.IsChain.tail h.single, fun h => absurd h hp, fun h => absurd h hp⟩

theorem not_pending {r : PathRule} (h : Ready (r :: rules) (.separator :: path) w) :
    w.pending = false := by
  by_contra hp
  exact h.taken (by simpa using hp) rfl

end Ready

/-- What a walk keeps of a path, it keeps again. -/
theorem walk_again (homit : .omitSegment ∉ rules)
    (hlast : copyRest → ∀ r ∈ rules.getLast?, r.isSegment) (hw : Ready rules path w)
    (h : walk copyRest rules path w = .ok out) : Keeps copyRest rules path w out := by
  -- one case for each way a rule can meet the path, in the order of the walk's equations
  fun_induction walk copyRest rules path w with
  | case1 path w =>
    cases h
    exact keeps_nil fun hp => hw.ended hp rfl
  | case2 rules w path ih =>
    by_cases hrules : rules = []
    · subst hrules
      have hcopy : copyRest = false := by
        cases copyRest with
        | false => rfl
        | true => exact absurd (hlast rfl .separator rfl) (by decide)
      subst hcopy
      have hpending : { w with pending := false } = w := by rw [← hw.not_pending]
      rw [List.isEmpty_nil, Bool.not_true, hpending] at h
      cases h
      exact keeps_last_separator hw.not_pending rfl
    · have hempty : (!rules.isEmpty) = true := by simpa using hrules
      rw [hempty] at ih h
      refine keeps_separator hw.not_pending hrules (ih ?_ ?_ (hw.separator hrules) h)
      · exact List.not_mem_of_not_mem_cons homit
      · exact fun hc => isSegment_getLast?_tail (hlast hc)
  | case3 rules w path hpath hend ih =>
    obtain ⟨rfl, rfl⟩ : rules = [] ∧ path = [] := by simpa using hend
    cases h
    have hnil : Keeps copyRest [] [] w (if copyRest then w.copy [] else w).finish :=
      keeps_nil fun _ => rfl
    -- on the empty path, the only front, the rule does nothing
    rcases hnil with ⟨front, hfront, he, hagain⟩ | hpending
    · obtain rfl := List.prefix_nil.mp hfront
      exact .inl ⟨[], hfront, he, hagain⟩
    · exact .inr hpending
  | case4 => cases h
  | case5 rules w t path ih =>
    refine keeps_segment ?_ (ih ?_ ?_ hw.segment h)
    · intro front
      rw [walk, if_pos rfl]
    · exact List.not_mem_of_not_mem_cons homit
    · exact fun hc => isSegment_getLast?_tail (hlast hc)
  | case6 => cases h
  | case7 => cases h
  | case8 => cases h
  | case9 path w hpath =>
    cases h
    exact keeps_rest hpath
  | case10 rules w hne t path ih =>
    refine keeps_segment ?_ (ih ?_ ?_ hw.segment h)
    · intro front
      rw [walk]
      exact hne
    · exact List.not_mem_of_not_mem_cons homit
    · exact fun hc => isSegment_getLast?_tail (hlast hc)
  | case11 => cases h
  | case12 => exact absurd List.mem_cons_self homit
  | case13 => exact absurd List.mem_cons_self homit
  | case14 =>
    cases h
    exact keeps_omitPath

/-! ## Path rules applied twice -/

theorem single_pathTokens (rooted : Bool) (segments : List (List Char)) :
    Single (pathTokens rooted segments) := by
  have hfollowers : ∀ (t : List Char) (ts : List (List Char)),
      Single (.segment t :: followers ts) := by
    intro t ts
    induction ts generalizing t with
    | nil => exact List.isChain_singleton _
    | cons u ts ih =>
      have hsegment : Single (.segment u :: followers ts) := ih u
      exact List.isChain_cons_cons.mpr ⟨by simp, List.isChain_cons_cons.mpr ⟨by simp, hsegment⟩⟩
  cases segments with
  | nil =>
    cases rooted with
    | false => exact List.isChain_nil
    | true => exact List.isChain_singleton _
  | cons t ts =>
    cases rooted with
    | false => exact hfollowers t ts
    | true => exact List.isChain_cons_cons.mpr ⟨by simp, hfollowers t ts⟩

/-- What path rules make of a path, they keep if they fit it. -/
theorem fitPath_again (homit : .omitSegment ∉ rules)
    (hlast : copyRest → ∀ r ∈ rules.getLast?, r.isSegment) (hpath : Single path)
    (h : fitPath copyRest rules path = .ok out) {again : List PathToken}
    (hagain : fitPath copyRest rules out = .ok again) : again = out := by
  cases rules with
  | nil =>
    cases h
    cases hagain
    rfl
  | cons r rules =>
    by_cases hr : r.isSegment ∧ path.head? = some .separator
    · obtain ⟨hr, hhead⟩ := hr
      obtain ⟨path, rfl⟩ := List.head?_eq_some_iff.mp hhead
      have hready : Ready (r :: rules) path { pending := true } := by
        refine ⟨List.IsChain.tail hpath, fun _ hhead => ?_, nofun⟩
        obtain ⟨rest, rfl⟩ := List.head?_eq_some_iff.mp hhead
        exact (List.isChain_cons_cons.mp hpath).1 rfl rfl
      rw [fitPath_cons, enter_separator hr] at h
      rcases walk_again homit hlast hready h with ⟨front, -, rfl, hfront⟩ | ⟨-, rfl⟩
      · have hout : ({ pending := true } : Written).flush.tokens ++ front =
            .separator :: front := rfl
        rw [hout, fitPath_cons, enter_separator hr] at hagain
        exact hfront again hagain
      · exact absurd h (walk_segment_ne_nil hr (List.ne_of_not_mem_cons homit).symm)
    · have hready : Ready (r :: rules) path {} := ⟨hpath, nofun, nofun⟩
      rw [fitPath_cons, enter_plain hr] at h
      rcases walk_again homit hlast hready h with ⟨front, hprefix, hout, hfront⟩ | ⟨hpending, -⟩
      · obtain rfl : out = front := hout
        have hplain : ¬ (r.isSegment ∧ out.head? = some .separator) := by
          rintro ⟨hsegment, hhead⟩
          obtain ⟨rest, rfl⟩ := List.head?_eq_some_iff.mp hhead
          obtain ⟨more, rfl⟩ := hprefix
          exact hr ⟨hsegment, rfl⟩
        rw [fitPath_cons, enter_plain hplain] at hagain
        exact hfront again hagain
      · cases hpending

/-- Behind a separator that is pending, only dropping the path leaves nothing of it. -/
theorem eq_omitPath_of_walk {s : PathRule} (hs : s ≠ .omitSegment)
    (hpath : path.head? ≠ some .separator)
    (h : walk copyRest (s :: rules) path { pending := true } = .ok []) : s = .omitPath := by
  cases s with
  | omitSegment => exact absurd rfl hs
  | matchSegment expected => exact absurd h (walk_segment_ne_nil rfl hs)
  | glob => exact absurd h (walk_segment_ne_nil rfl hs)
  | omitPath => rfl
  | separator =>
    rcases path with _ | ⟨_ | t, path⟩
    · cases rules <;> cases copyRest <;> cases h
    · exact absurd rfl hpath
    · cases rules <;> cases h

/-- Where path rules leave nothing of a path, they leave nothing of the root. -/
theorem fitPath_root (homit : .omitSegment ∉ rules) (hne : rules ≠ []) (hpath : Single path)
    (h : fitPath copyRest rules path = .ok []) :
    fitPath copyRest rules [.separator] = .ok [] := by
  obtain ⟨r, rules, rfl⟩ := List.exists_cons_of_ne_nil hne
  have hr : r ≠ .omitSegment := (List.ne_of_not_mem_cons homit).symm
  have hrules := List.not_mem_of_not_mem_cons homit
  rw [fitPath_cons] at h
  cases r with
  | omitSegment => exact absurd rfl hr
  | matchSegment expected => exact absurd h (walk_segment_ne_nil rfl hr)
  | glob => exact absurd h (walk_segment_ne_nil rfl hr)
  | omitPath => rfl
  | separator =>
    cases rules with
    | nil => cases copyRest <;> rfl
    | cons s rules =>
      rcases path with _ | ⟨_ | t, path⟩
      · cases h
      · have hhead : path.head? ≠ some .separator := by
          intro hhead
          obtain ⟨rest, rfl⟩ := List.head?_eq_some_iff.mp hhead
          exact (List.isChain_cons_cons.mp hpath).1 rfl rfl
        obtain rfl := eq_omitPath_of_walk (List.ne_of_not_mem_cons hrules).symm hhead h
        rfl
      · cases h

/-! ## Patterns applied twice -/

section Patterns

variable {f g : Form} {rules : List Pattern.Token} {ts : List Url.Token} {e : Mismatch}

theorem mem_of_mem_leadingPathRules {r : PathRule} (h : r ∈ leadingPathRules rules) :
    .path r ∈ rules := by
  obtain ⟨t, ht, hr⟩ := List.mem_filterMap.mp h
  cases t with
  | path s =>
    obtain rfl := Option.some.inj hr
    exact (List.takeWhile_prefix _).subset ht
  | query _ => cases hr
  | fragment _ => cases hr
  | finish => cases hr

/-- What a pattern leaves of a form, with the path that its path rules make. -/
def kept (f : Form) (rules : List Pattern.Token) (r : Bool) (segments : List (List Char)) : Form :=
  ⟨f.origin, r, segments, keptParams f rules, keptFragment f rules⟩

theorem kept_kept (f : Form) (rules : List Pattern.Token) (r r' : Bool)
    (ts us : List (List Char)) :
    kept (kept f rules r ts) rules r' us = kept f rules r' us := by
  have hparams : keptParams (kept f rules r ts) rules = keptParams f rules := by
    simp [keptParams, kept, List.filter_filter]
  have hfragment : keptFragment (kept f rules r ts) rules = keptFragment f rules := by
    simp only [keptFragment, kept]
    split <;> rfl
  rw [kept, hparams, hfragment]
  rfl

/-- The parts of what a pattern leaves of a form. -/
theorem exists_parts_of_apply (hspaced : Spaced (leadingPathRules rules))
    (h : apply f.tokens rules = .ok ts) : ∃ r segments,
      fitPath (copiesRest rules) (leadingPathRules rules) (pathTokens f.rooted f.segments) =
        .ok (pathTokens r segments) ∧
      ts = (kept f rules r segments).tokens := by
  obtain ⟨-, path, hpath, rfl⟩ := apply_tokens_eq_ok_iff.mp h
  obtain ⟨r, segments, rfl, -⟩ := fitPath_shape hspaced getLast?_of_copiesRest hpath
  exact ⟨r, segments, hpath, rfl⟩

/-- What a pattern leaves of a form, it leaves again if it fits it. -/
theorem apply_again (hspaced : Spaced (leadingPathRules rules))
    (homit : .path .omitSegment ∉ rules) (h : apply f.tokens rules = .ok g.tokens)
    (hagain : apply g.tokens rules = .ok ts) : ts = g.tokens := by
  obtain ⟨r, segments, hpath, hg⟩ := exists_parts_of_apply hspaced h
  obtain rfl := Form.tokens_inj hg
  obtain ⟨r', segments', hpath', rfl⟩ := exists_parts_of_apply hspaced hagain
  have hsame := fitPath_again (mt mem_of_mem_leadingPathRules homit) getLast?_of_copiesRest
    (single_pathTokens f.rooted f.segments) hpath hpath'
  obtain ⟨rfl, rfl⟩ := Url.pathTokens_inj hsame
  rw [kept_kept]

/-- Where the path fits, only the fragment can be what does not. -/
theorem isFragment_of_fitPath {path : List PathToken}
    (hpath : fitPath (copiesRest rules) (leadingPathRules rules)
      (pathTokens f.rooted f.segments) = .ok path)
    (h : apply f.tokens rules = .error e) : e.isFragment := by
  rw [apply_tokens, hpath] at h
  cases hf : omitsFragment f.fragment rules with
  | ok omitted =>
    rw [hf] at h
    cases h
  | error e' =>
    rw [hf] at h
    cases h
    exact isFragment_of_omitsFragment hf

/-- A scheme and an authority, and at most the root path behind them. -/
abbrev bare (o : Url.Origin) (rooted : Bool) : Form := ⟨some o, rooted, [], [], none⟩

theorem kept_bare (o : Url.Origin) (rules : List Pattern.Token) (r r' : Bool) :
    kept (bare o r) rules r' [] = bare o r' := by
  simp [kept, keptParams, keptFragment]

/-- Where nothing but an authority is left, path rules leave no more of it with the root path. -/
theorem apply_root {o : Url.Origin} (hspaced : Spaced (leadingPathRules rules))
    (homit : .path .omitSegment ∉ rules) (hne : leadingPathRules rules ≠ [])
    (h : apply f.tokens rules = .ok (bare o false).tokens) :
    (∀ ts, apply (bare o true).tokens rules = .ok ts → ts = (bare o false).tokens) ∧
    ∀ e, apply (bare o true).tokens rules = .error e → e.isFragment := by
  obtain ⟨r, segments, hpath, hkept⟩ := exists_parts_of_apply hspaced h
  obtain ⟨rfl, rfl⟩ : false = r ∧ [] = segments := by
    have hsame := Form.tokens_inj hkept
    exact ⟨congrArg Form.rooted hsame, congrArg Form.segments hsame⟩
  have hroot : fitPath (copiesRest rules) (leadingPathRules rules) (pathTokens true []) =
      .ok (pathTokens false []) :=
    fitPath_root (mt mem_of_mem_leadingPathRules homit) hne
      (single_pathTokens f.rooted f.segments) hpath
  constructor
  · intro ts hts
    obtain ⟨r, segments, hpath', rfl⟩ := exists_parts_of_apply hspaced hts
    obtain ⟨rfl, rfl⟩ := Url.pathTokens_inj (Except.ok.inj (hroot.symm.trans hpath'))
    rw [kept_bare]
  · exact fun e he => isFragment_of_fitPath hroot he

/-- Without path rules the root path stays, if no fragment is asked for. -/
theorem apply_root_of_not_asked {o : Url.Origin} (hnil : leadingPathRules rules = [])
    (hasked : ∀ t, .fragment (.matchFragment t) ∉ rules) :
    apply (bare o true).tokens rules = .ok (bare o true).tokens := by
  have hpath : fitPath (copiesRest rules) (leadingPathRules rules) (pathTokens true []) =
      .ok (pathTokens true []) := by
    rw [hnil]
    rfl
  have happly : apply (bare o true).tokens rules = .ok (kept (bare o true) rules true []).tokens :=
    apply_tokens_eq_ok_iff.mpr ⟨fun t ht => absurd ht (hasked t), _, hpath, rfl⟩
  rwa [kept_bare] at happly

theorem apply_root_of_asked {o : Url.Origin} {t : List Char} (hnil : leadingPathRules rules = [])
    (hasked : .fragment (.matchFragment t) ∈ rules) :
    ∃ e, apply (bare o true).tokens rules = .error e ∧ e.isFragment := by
  have hpath : fitPath (copiesRest rules) (leadingPathRules rules) (pathTokens true []) =
      .ok (pathTokens true []) := by
    rw [hnil]
    rfl
  cases h : apply (bare o true).tokens rules with
  | error e => exact ⟨e, rfl, isFragment_of_fitPath hpath h⟩
  | ok ts =>
    have hfound := (apply_tokens_eq_ok_iff.mp h).1 t hasked
    cases hfound

end Patterns

end UrlTemplate.Apply
