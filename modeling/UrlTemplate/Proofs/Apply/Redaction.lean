import Mathlib.Data.List.Permutation
import UrlTemplate.Proofs.Apply.Forms
import UrlTemplate.Proofs.Apply.Walk
import UrlTemplate.Proofs.Pattern.PathRules
import UrlTemplate.Url.Read

/-!
# What a pattern hides

A pattern drops parts of a URL, and what it drops has no influence on anything: not on the
result, and not on the mismatch that is reported. Here the path rules are steps, each behind a
separator. Two URLs may differ in the segments that are omitted, in what follows the last step
unless that is kept, in the query entries that are dropped, and in a fragment that is dropped and
not asked for.

* `Route`: the patterns in question, and `Route.Alike` the URLs that one of them cannot tell apart.
* `walk_agree`: steps walk alike along paths that agree where it matters.
* `apply_eq_of_alike`: a pattern gives the same for URLs that it cannot tell apart.
-/

namespace UrlTemplate.Apply

open Pattern (PathRule leadingPathRules_append stopsAtMarker_append)
open Url (PathToken followers fragmentOf joinSegments pathOf)

/-! ## Routes -/

/-- A pattern whose path rules are steps, each behind a separator. -/
structure Route where
  /-- The rules that stand for the segments at the start of a path. -/
  steps : List PathRule
  /-- A separator closes the path rules. -/
  closed : Bool
  /-- The rules behind the path rules. -/
  rest : List Pattern.Token
  steps_ne_nil : steps ≠ []
  isSegment : ∀ r ∈ steps, r.isSegment
  not_isPath : ∀ r ∈ rest.head?, r.isPath = false

/-- Rules with a separator before each of them, and perhaps one behind them. -/
def stepRules (steps : List PathRule) (closed : Bool) : List PathRule :=
  steps.flatMap (fun r => [.separator, r]) ++ if closed then [.separator] else []

namespace Route

def tokens (p : Route) : List Pattern.Token :=
  (stepRules p.steps p.closed).map .path ++ p.rest

/-- What is left of a path behind the steps is kept: by a last step that takes everything, or
because a query or fragment rule follows it. -/
def KeepsRest (p : Route) : Prop :=
  p.closed = false ∧
    (p.steps.getLast? = some .glob ∨ ∃ r ∈ p.rest.head?, r.isQuery ∨ r.isFragment)

end Route

/-- Segments that the steps cannot tell apart: there are enough of them on both sides, and those
that are not omitted are the same. -/
structure Agree (steps : List PathRule) (ss ts : List (List Char)) : Prop where
  left : steps.length ≤ ss.length
  right : steps.length ≤ ts.length
  same : ∀ (i : Nat) (r : PathRule), steps[i]? = some r → r ≠ .omitSegment → ss[i]? = ts[i]?

namespace Agree

variable {steps : List PathRule} {r : PathRule} {s t : List Char} {ss ts : List (List Char)}

theorem exists_cons (h : Agree (r :: steps) ss ts) :
    ∃ s ss' t ts', ss = s :: ss' ∧ ts = t :: ts' := by
  obtain ⟨s, ss', rfl⟩ := List.exists_cons_of_length_pos (Nat.lt_of_lt_of_le (by simp) h.left)
  obtain ⟨t, ts', rfl⟩ := List.exists_cons_of_length_pos (Nat.lt_of_lt_of_le (by simp) h.right)
  exact ⟨s, ss', t, ts', rfl, rfl⟩

theorem head (h : Agree (r :: steps) (s :: ss) (t :: ts)) (hr : r ≠ .omitSegment) : s = t := by
  simpa using h.same 0 r rfl hr

theorem tail (h : Agree (r :: steps) (s :: ss) (t :: ts)) : Agree steps ss ts where
  left := by simpa using h.left
  right := by simpa using h.right
  same i r hi hr := by simpa using h.same (i + 1) r (by simpa using hi) hr

end Agree

variable {copyRest closed : Bool} {steps : List PathRule} {ss ts : List (List Char)} {w : Written}

theorem stepRules_cons (r : PathRule) (steps : List PathRule) (closed : Bool) :
    stepRules (r :: steps) closed = .separator :: r :: stepRules steps closed := rfl

/-- The separator before a step is taken. -/
theorem walk_separator (r : PathRule) (rules : List PathRule) (path : List PathToken)
    (w : Written) :
    walk copyRest (.separator :: r :: rules) (.separator :: path) w =
      walk copyRest (r :: rules) path { w with pending := true } := by
  rw [walk]
  rfl

/-- At the end of the steps, the rest of the path is copied or dropped. -/
theorem walk_end (hclosed : closed → copyRest = false) (hw : w.pending = false)
    (ss : List (List Char)) :
    walk copyRest (stepRules [] closed) (followers ss) w =
      .ok (if copyRest then w.copy (followers ss) else w).finish := by
  cases closed with
  | false => rfl
  | true =>
    obtain rfl := hclosed rfl
    have hpending : { w with pending := false } = w := by rw [← hw]
    cases ss with
    | nil => rfl
    | cons s ss =>
      have hwalk : walk false (stepRules [] true) (followers (s :: ss)) w =
          .ok ({ w with pending := false } : Written).finish := rfl
      rw [hwalk, hpending]
      rfl

/-- So it is behind a last segment that is omitted, whose separator goes with it. -/
theorem walk_omit_end (hclosed : closed → copyRest = false) (s : List Char)
    (ss : List (List Char)) (w : Written) :
    walk copyRest (.omitSegment :: stepRules [] closed) (.segment s :: followers ss) w =
      .ok (if copyRest then w.copy (followers ss) else w).finish := by
  cases closed with
  | false => rfl
  | true =>
    obtain rfl := hclosed rfl
    cases ss <;> rfl

/-- The separator behind a segment that is omitted takes the place of the one before it. -/
theorem walk_omit {r : PathRule} (hss : ss ≠ []) (s : List Char) (w : Written) :
    walk copyRest (.omitSegment :: stepRules (r :: steps) closed) (.segment s :: followers ss)
        { w with pending := true } =
      walk copyRest (stepRules (r :: steps) closed) (followers ss) { w with pending := true } := by
  obtain ⟨t, ts, rfl⟩ := List.exists_cons_of_ne_nil hss
  rfl

/-- A glob that is not the last rule takes one segment. -/
theorem walk_glob {rules : List PathRule} (hrules : rules ≠ []) (s : List Char)
    (path : List PathToken) (w : Written) :
    walk copyRest (.glob :: rules) (.segment s :: path) w =
      walk copyRest rules path (w.segment s) := by
  rw [walk]
  exact fun h => hrules h

/-- Steps cannot tell paths apart that agree on the segments which are kept, and on what is behind
them if that is kept as well. -/
theorem walk_agree (hclosed : closed → copyRest = false) (hw : steps = [] → w.pending = false)
    (hsteps : ∀ r ∈ steps, r.isSegment) (h : Agree steps ss ts)
    (hrest : copyRest ∨ closed = false ∧ steps.getLast? = some .glob →
      ss.drop steps.length = ts.drop steps.length) :
    walk copyRest (stepRules steps closed) (followers ss) w =
      walk copyRest (stepRules steps closed) (followers ts) w := by
  induction steps generalizing ss ts w with
  | nil =>
    rw [walk_end hclosed (hw rfl), walk_end hclosed (hw rfl)]
    cases copyRest with
    | false => rfl
    | true => rw [show ss = ts from hrest (.inl rfl)]
  | cons r steps ih =>
    obtain ⟨s, ss, t, ts, rfl, rfl⟩ := h.exists_cons
    have hsteps' : ∀ r ∈ steps, r.isSegment := fun r hr => hsteps r (List.mem_cons_of_mem _ hr)
    have hrest' : copyRest ∨ closed = false ∧ steps.getLast? = some .glob →
        ss.drop steps.length = ts.drop steps.length := by
      intro hc
      refine hrest (hc.imp_right fun ⟨hc, hlast⟩ => ⟨hc, ?_⟩)
      cases steps with
      | nil => cases hlast
      | cons r' steps => exact hlast
    rw [stepRules_cons, Url.followers_cons, Url.followers_cons]
    simp only [joinSegments, walk_separator]
    cases r with
    | separator => exact absurd (hsteps _ List.mem_cons_self) (by decide)
    | omitPath => exact absurd (hsteps _ List.mem_cons_self) (by decide)
    | matchSegment expected =>
      obtain rfl := h.head (by simp)
      rw [walk, walk, ih (fun _ => Written.pending_segment _ s) hsteps' h.tail hrest']
    | glob =>
      obtain rfl := h.head (by simp)
      by_cases hend : stepRules steps closed = []
      · -- the last step takes all that is left
        obtain ⟨rfl, rfl⟩ : steps = [] ∧ closed = false := by
          cases steps <;> cases closed <;> simp [stepRules] at hend ⊢
        have hbehind : ss = ts := hrest (.inr ⟨rfl, rfl⟩)
        rw [hbehind]
      · rw [walk_glob hend, walk_glob hend,
          ih (fun _ => Written.pending_segment _ s) hsteps' h.tail hrest']
    | omitSegment =>
      cases steps with
      | nil =>
        rw [walk_omit_end hclosed, walk_omit_end hclosed]
        cases copyRest with
        | false => rfl
        | true => rw [show ss = ts from hrest' (.inl rfl)]
      | cons r steps =>
        obtain ⟨u, us, v, vs, rfl, rfl⟩ := h.tail.exists_cons
        rw [walk_omit (by simp), walk_omit (by simp), ih nofun hsteps' h.tail hrest']

/-! ## Patterns -/

namespace Route

variable (p : Route)

theorem leadingPathRules_tokens : leadingPathRules p.tokens = stepRules p.steps p.closed :=
  leadingPathRules_append p.not_isPath _

theorem stopsAtMarker_tokens :
    stopsAtMarker p.tokens = p.rest.head?.any fun r => r.isQuery || r.isFragment :=
  stopsAtMarker_append p.not_isPath _

theorem not_copiesRest_of_closed (h : p.closed) : copiesRest p.tokens = false := by
  have hlast : (stepRules p.steps p.closed).getLast? = some .separator := by
    simp [stepRules, h]
  rw [copiesRest, leadingPathRules_tokens, hlast]
  exact Bool.and_false _

theorem keepsRest_of_copiesRest (h : copiesRest p.tokens) : p.KeepsRest := by
  have hclosed : p.closed = false := by
    cases hc : p.closed with
    | false => rfl
    | true => rw [p.not_copiesRest_of_closed hc] at h; cases h
  rw [copiesRest, Bool.and_eq_true, stopsAtMarker_tokens, Option.any_eq_true] at h
  obtain ⟨⟨r, hr, hmarker⟩, -⟩ := h
  exact ⟨hclosed, .inr ⟨r, hr, by simpa using hmarker⟩⟩

/-- URLs that a pattern with this route cannot tell apart: what it keeps of them is the same, and
so is what it asks for. -/
structure Alike (a b : List Url.Token) : Prop where
  authority : authority a = authority b
  path : ∃ ss ts, pathOf a = followers ss ∧ pathOf b = followers ts ∧ Agree p.steps ss ts ∧
    (p.KeepsRest → ss.drop p.steps.length = ts.drop p.steps.length)
  params :
    (a.filterMap Url.Token.param?).filter
        (fun q => (QueryAction.ofPattern p.tokens).keeps (Escape.unescape q.name)) =
      (b.filterMap Url.Token.param?).filter
        fun q => (QueryAction.ofPattern p.tokens).keeps (Escape.unescape q.name)
  fragment : fragmentOf a = fragmentOf b ∨
    .fragment .omitFragment ∈ p.tokens ∧ ∀ t, .fragment (.matchFragment t) ∉ p.tokens

end Route

variable {p : Route} {a b : List Url.Token}

theorem Route.Alike.fitPath_eq (h : p.Alike a b) :
    fitPath (copiesRest p.tokens) (leadingPathRules p.tokens) (pathOf a) =
      fitPath (copiesRest p.tokens) (leadingPathRules p.tokens) (pathOf b) := by
  obtain ⟨ss, ts, ha, hb, hagree, hrest⟩ := h.path
  rw [ha, hb, p.leadingPathRules_tokens]
  obtain ⟨r, steps, hsteps⟩ := List.exists_cons_of_ne_nil p.steps_ne_nil
  have hfit : ∀ us, fitPath (copiesRest p.tokens) (stepRules p.steps p.closed) (followers us) =
      walk (copiesRest p.tokens) (stepRules p.steps p.closed) (followers us) {} := by
    intro us
    rw [hsteps]
    rfl
  rw [hfit, hfit]
  refine walk_agree p.not_copiesRest_of_closed (fun _ => rfl) p.isSegment hagree ?_
  rintro (hcopy | ⟨hclosed, hlast⟩)
  · exact hrest (p.keepsRest_of_copiesRest hcopy)
  · exact hrest ⟨hclosed, .inl hlast⟩

/-- A fragment that is dropped and not asked for does not matter. -/
theorem omitsFragment_of_omit {rules : List Pattern.Token}
    (homit : .fragment .omitFragment ∈ rules) (hmatch : ∀ t, .fragment (.matchFragment t) ∉ rules)
    (found : Option (List Char)) : omitsFragment found rules = .ok true := by
  have hany : rules.any (· = .fragment .omitFragment) = true :=
    List.any_eq_true.mpr ⟨_, homit, decide_eq_true rfl⟩
  exact omitsFragment_eq_ok_iff.mpr ⟨fun t ht => absurd ht (hmatch t), hany.symm⟩

/-- What a pattern drops of a URL has no influence on the result, nor on what is reported when the
pattern does not fit. -/
theorem apply_eq_of_alike (p : Route) (h : p.Alike a b) : apply a p.tokens = apply b p.tokens := by
  have hquery : applyQuery a p.tokens = applyQuery b p.tokens := congrArg writeParams h.params
  rw [apply_eq, apply_eq, h.fitPath_eq, h.authority, hquery]
  rcases h.fragment with hfragment | ⟨homit, hmatch⟩
  · rw [hfragment]
  · rw [omitsFragment_of_omit homit hmatch, omitsFragment_of_omit homit hmatch]
    rfl

/-- A segment, what follows the named ones, an entry and the fragment are dropped. -/
theorem apply_eq_of_alike_dropped :
    let p : Route :=
      { steps := [.matchSegment ['a'], .omitSegment, .glob]
        closed := true
        rest := [.query .allowList, .query (.name ['x']), .fragment .omitFragment, .finish]
        steps_ne_nil := by decide
        isSegment := by decide
        not_isPath := by decide }
    let a : List Url.Token := [.path .separator, .path (.segment ['a']), .path .separator,
      .path (.segment ['k']), .path .separator, .path (.segment ['b']), .path .separator,
      .path (.segment ['c']), .querySeparator, .param (.ofRaw ['x']), .paramSeparator,
      .param (.ofRaw ['y']), .fragmentSeparator, .fragment ['f'], .finish]
    let b : List Url.Token := [.path .separator, .path (.segment ['a']), .path .separator,
      .path (.segment ['o']), .path .separator, .path (.segment ['b']), .querySeparator,
      .param (.ofRaw ['x']), .finish]
    Pattern.read "/a/-/*/?[x]#-".toList = .ok p.tokens ∧
      Url.read "/a/k/b/c?y&x#f".toList = a ∧ Url.read "//a/o/b?x".toList = b ∧
      p.Alike a b ∧ apply a p.tokens = apply b p.tokens ∧
      apply b p.tokens = .ok (Url.read "/a/b?x".toList) := by
  intro p a b
  have hpattern : Pattern.read "/a/-/*/?[x]#-".toList = .ok p.tokens := by cbv
  have ha : Url.read "/a/k/b/c?y&x#f".toList = a := by cbv
  have hb : Url.read "//a/o/b?x".toList = b := by cbv
  have hresult : apply b p.tokens = .ok (Url.read "/a/b?x".toList) := by cbv
  have hagree : Agree p.steps [['a'], ['k'], ['b'], ['c']] [['a'], ['o'], ['b']] := by
    refine ⟨by decide, by decide, fun i r hi hr => ?_⟩
    rcases i with _ | _ | _ | i
    · rfl
    · exact absurd (Option.some.inj hi).symm hr
    · rfl
    · cases hi
  have hpath : p.KeepsRest → [['c']] = ([] : List (List Char)) := fun h => absurd h.1 (by decide)
  have hparams :
      (a.filterMap Url.Token.param?).filter
          (fun q => (QueryAction.ofPattern p.tokens).keeps (Escape.unescape q.name)) =
        (b.filterMap Url.Token.param?).filter
          fun q => (QueryAction.ofPattern p.tokens).keeps (Escape.unescape q.name) := by
    cbv
  have hfragment : .fragment .omitFragment ∈ p.tokens ∧
      ∀ t, .fragment (.matchFragment t) ∉ p.tokens := by
    simp [p, Route.tokens, stepRules]
  have halike : p.Alike a b :=
    ⟨rfl, ⟨_, _, rfl, rfl, hagree, hpath⟩, hparams, .inr hfragment⟩
  exact ⟨hpattern, ha, hb, halike, apply_eq_of_alike p halike, hresult⟩

end UrlTemplate.Apply
