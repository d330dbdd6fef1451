import Mathlib.Data.Nat.Find
import UrlTemplate.Proofs.Apply.Redaction

/-!
# What steps keep of a path

Path rules that are steps, each behind a separator, look at a path place by place: the first step
at the first segment, the second one at the second, and so on. The separators that a walk holds
back, and the ones that go with an omitted segment, come to nothing but that.

* `fitSteps`: the steps, place by place.
* `walk_steps`: steps walk along a path as they look at its segments.
* `fitSteps_eq_ok_iff`, `fitSteps_eq_error_iff`: which segments fit, and what is reported if they
  do not.
* `applyPath_route`: what the path rules of a route make of a path.
-/

namespace UrlTemplate.Apply

open Escape
open Pattern (PathRule)
open Scan (map_eq_error_iff map_eq_ok_iff)
open Url (PathToken followers joinSegments pathOf)

/-! ## Place by place -/

/-- What steps keep of segments, each step looking at one of them. The segments behind them are
kept if `keepRest` holds. -/
def fitSteps (keepRest : Bool) : List PathRule → List (List Char) →
    Except Mismatch (List (List Char))
  | [], ss => .ok (if keepRest then ss else [])
  | _ :: _, [] => .error .noSeparator
  | .omitSegment :: steps, _ :: ss => fitSteps keepRest steps ss
  | .matchSegment expected :: steps, s :: ss =>
    if unescape s = expected then (s :: ·) <$> fitSteps keepRest steps ss
    else .error (.segment expected s)
  | _ :: steps, s :: ss => (s :: ·) <$> fitSteps keepRest steps ss

/-- The segments that steps look at and do not omit. -/
def keptSegments (steps : List PathRule) (ss : List (List Char)) : List (List Char) :=
  ((steps.zip ss).filter (·.1 ≠ .omitSegment)).map (·.2)

/-- The step at the place `i` asks for the text `t`, and the segment there is `s`, which says
something else. -/
def Misses (steps : List PathRule) (ss : List (List Char)) (i : Nat) (t s : List Char) : Prop :=
  steps[i]? = some (.matchSegment t) ∧ ss[i]? = some s ∧ unescape s ≠ t

/-- No step asks for another segment than the one at its place. -/
def Fits (steps : List PathRule) (ss : List (List Char)) : Prop := ∀ i t s, ¬ Misses steps ss i t s

variable {keepRest : Bool} {steps : List PathRule} {ss kept : List (List Char)} {r : PathRule}
  {s t u : List Char} {i : Nat} {e : Mismatch}

theorem fits_nil_left (ss : List (List Char)) : Fits [] ss := by
  rintro i t s ⟨h, -⟩
  cases h

theorem fits_nil_right (steps : List PathRule) : Fits steps [] := by
  rintro i t s ⟨-, h, -⟩
  cases h

theorem misses_zero_iff :
    Misses (r :: steps) (s :: ss) 0 t u ↔ r = .matchSegment t ∧ s = u ∧ unescape u ≠ t := by
  simp [Misses]

theorem misses_succ_iff :
    Misses (r :: steps) (s :: ss) (i + 1) t u ↔ Misses steps ss i t u := Iff.rfl

theorem fits_cons_iff :
    Fits (r :: steps) (s :: ss) ↔ (∀ t, r = .matchSegment t → unescape s = t) ∧ Fits steps ss := by
  constructor
  · intro h
    refine ⟨fun t hr => ?_, fun i t u hi => h (i + 1) t u (misses_succ_iff.mpr hi)⟩
    by_contra hs
    exact h 0 t s (misses_zero_iff.mpr ⟨hr, rfl, hs⟩)
  · rintro ⟨hr, h⟩ i t u hi
    cases i with
    | zero =>
      obtain ⟨rfl, rfl, hs⟩ := misses_zero_iff.mp hi
      exact hs (hr t rfl)
    | succ i => exact h i t u (misses_succ_iff.mp hi)

theorem keptSegments_omit (steps : List PathRule) (s : List Char) (ss : List (List Char)) :
    keptSegments (.omitSegment :: steps) (s :: ss) = keptSegments steps ss := rfl

theorem keptSegments_cons (hr : r ≠ .omitSegment) (steps : List PathRule) (s : List Char)
    (ss : List (List Char)) :
    keptSegments (r :: steps) (s :: ss) = s :: keptSegments steps ss := by
  simp [keptSegments, hr]

/-- Segments fit if there are enough of them and none says something else than the step at its
place asks for. Those at the places of omitted ones are left out. -/
theorem fitSteps_of_fits (hlength : steps.length ≤ ss.length) (h : Fits steps ss) :
    fitSteps keepRest steps ss =
      .ok (keptSegments steps ss ++ if keepRest then ss.drop steps.length else []) := by
  fun_induction fitSteps keepRest steps ss with
  | case1 ss => rfl
  | case2 r steps => simp at hlength
  | case3 steps s ss ih =>
    rw [ih (by simpa using hlength) (fits_cons_iff.mp h).2, keptSegments_omit]
    rfl
  | case4 steps s ss ih =>
    rw [ih (by simpa using hlength) (fits_cons_iff.mp h).2, keptSegments_cons (by simp)]
    rfl
  | case5 t steps s ss hs => exact absurd ((fits_cons_iff.mp h).1 t rfl) hs
  | case6 r steps s ss hr _ ih =>
    rw [ih (by simpa using hlength) (fits_cons_iff.mp h).2, keptSegments_cons hr]
    rfl

/-- A step that its segment fits reports what is reported behind it. -/
theorem fitSteps_cons_error (hfit : ∀ t, r = .matchSegment t → unescape s = t)
    (h : fitSteps keepRest steps ss = .error e) :
    fitSteps keepRest (r :: steps) (s :: ss) = .error e := by
  cases r with
  | omitSegment => exact h
  | matchSegment t =>
    rw [fitSteps, if_pos (hfit t rfl), h]
    rfl
  | _ =>
    rw [fitSteps, h] <;> first | rfl | simp

/-- The first segment that says something else is reported. -/
theorem fitSteps_of_misses (h : Misses steps ss i t u)
    (hfirst : ∀ j < i, ∀ t u, ¬ Misses steps ss j t u) :
    fitSteps keepRest steps ss = .error (.segment t u) := by
  induction steps generalizing ss i with
  | nil => exact absurd h (fits_nil_left ss i t u)
  | cons r steps ih =>
    cases ss with
    | nil => exact absurd h (fits_nil_right (r :: steps) i t u)
    | cons s ss =>
      cases i with
      | zero =>
        obtain ⟨rfl, rfl, hs⟩ := misses_zero_iff.mp h
        exact if_neg hs
      | succ i =>
        have hr : ∀ t, r = .matchSegment t → unescape s = t := by
          intro t hr
          by_contra hs
          exact hfirst 0 i.succ_pos t s (misses_zero_iff.mpr ⟨hr, rfl, hs⟩)
        have hbehind : ∀ j < i, ∀ t u, ¬ Misses steps ss j t u := fun j hj =>
          hfirst (j + 1) (Nat.succ_lt_succ hj)
        exact fitSteps_cons_error hr (ih (misses_succ_iff.mp h) hbehind)

/-- Where no segment says something else but there are too few, a separator is missed. -/
theorem fitSteps_of_short (hlength : ss.length < steps.length) (h : Fits steps ss) :
    fitSteps keepRest steps ss = .error .noSeparator := by
  induction steps generalizing ss with
  | nil => simp at hlength
  | cons r steps ih =>
    cases ss with
    | nil => rfl
    | cons s ss =>
      obtain ⟨hr, h⟩ := fits_cons_iff.mp h
      exact fitSteps_cons_error hr (ih (by simpa using hlength) h)

/-- Segments that do not fit have a first one that says something else. -/
theorem exists_first_of_not_fits (h : ¬ Fits steps ss) :
    ∃ i t u, Misses steps ss i t u ∧ ∀ j < i, ∀ t u, ¬ Misses steps ss j t u := by
  classical
  have hex : ∃ i t u, Misses steps ss i t u := by
    simpa [Fits] using h
  obtain ⟨t, u, hmiss⟩ := Nat.find_spec hex
  exact ⟨_, t, u, hmiss, fun j hj t u hj' => Nat.find_min hex hj ⟨t, u, hj'⟩⟩

theorem fitSteps_eq_error_iff : fitSteps keepRest steps ss = .error e ↔
    (∃ i t s, Misses steps ss i t s ∧ (∀ j < i, ∀ t s, ¬ Misses steps ss j t s) ∧
      e = .segment t s) ∨
    ss.length < steps.length ∧ Fits steps ss ∧ e = .noSeparator := by
  constructor
  · intro h
    by_cases hfits : Fits steps ss
    · refine .inr ?_
      rcases Nat.lt_or_ge ss.length steps.length with hshort | hlength
      · rw [fitSteps_of_short hshort hfits] at h
        exact ⟨hshort, hfits, (Except.error.inj h).symm⟩
      · rw [fitSteps_of_fits hlength hfits] at h
        cases h
    · obtain ⟨i, t, s, hmiss, hfirst⟩ := exists_first_of_not_fits hfits
      rw [fitSteps_of_misses hmiss hfirst] at h
      exact .inl ⟨i, t, s, hmiss, hfirst, (Except.error.inj h).symm⟩
  · rintro (⟨i, t, s, hmiss, hfirst, rfl⟩ | ⟨hshort, hfits, rfl⟩)
    · exact fitSteps_of_misses hmiss hfirst
    · exact fitSteps_of_short hshort hfits

theorem fitSteps_eq_ok_iff : fitSteps keepRest steps ss = .ok kept ↔
    steps.length ≤ ss.length ∧ Fits steps ss ∧
      kept = keptSegments steps ss ++ if keepRest then ss.drop steps.length else [] := by
  constructor
  · intro h
    have hnone : ∀ e, fitSteps keepRest steps ss ≠ .error e := by
      intro e he
      rw [h] at he
      cases he
    have hfits : Fits steps ss := by
      by_contra hfits
      obtain ⟨i, t, s, hmiss, hfirst⟩ := exists_first_of_not_fits hfits
      exact hnone _ (fitSteps_of_misses hmiss hfirst)
    have hlength : steps.length ≤ ss.length := by
      by_contra hshort
      exact hnone _ (fitSteps_of_short (Nat.lt_of_not_le hshort) hfits)
    rw [fitSteps_of_fits hlength hfits] at h
    exact ⟨hlength, hfits, (Except.ok.inj h).symm⟩
  · rintro ⟨hlength, hfits, rfl⟩
    exact fitSteps_of_fits hlength hfits

/-! ## The walk -/

variable {copyRest closed : Bool} {w : Written}

theorem finish_of_ne_nil (h : w.tokens ≠ []) : w.finish = w.tokens := by
  simp [Written.finish, h]

/-- What has been written of a path, when the segments `kept` are written behind it and there is a
step that may have kept nothing. -/
def Written.behind (w : Written) (steps : List PathRule) (kept : List (List Char)) : Written :=
  { tokens := w.tokens ++ followers kept, pending := !steps.isEmpty }

theorem finish_behind_cons (w : Written) (steps : List PathRule) (s : List Char)
    (kept : List (List Char)) :
    (w.behind steps (s :: kept)).finish = w.tokens ++ followers (s :: kept) :=
  finish_of_ne_nil (by simp [Written.behind, Url.followers_cons])

/-- A segment that is written behind a separator is the first of those kept. -/
theorem finish_behind_segment (w : Written) (r : PathRule) (steps : List PathRule) (s : List Char)
    (kept : List (List Char)) :
    ((({ w with pending := true } : Written).segment s).behind steps kept).finish =
      (w.behind (r :: steps) (s :: kept)).finish := by
  have htokens : (({ w with pending := true } : Written).segment s).tokens =
      w.tokens ++ followers [s] := by
    simp [Written.segment, Written.flush, followers]
  rw [finish_behind_cons, finish_of_ne_nil (by simp [Written.behind, htokens, followers]),
    Written.behind, htokens, List.append_assoc]
  rfl

theorem map_behind_segment (w : Written) (r : PathRule) (steps : List PathRule) (s : List Char)
    (x : Except Mismatch (List (List Char))) :
    (fun kept => ((({ w with pending := true } : Written).segment s).behind steps kept).finish) <$>
        x =
      (fun kept => (w.behind (r :: steps) kept).finish) <$> (s :: ·) <$> x := by
  cases x with
  | error e => rfl
  | ok kept => exact congrArg Except.ok (finish_behind_segment w r steps s kept)

/-- A glob that is the last step takes all that is left. -/
theorem walk_last_glob (copyRest : Bool) (w : Written) (s : List Char) (ss : List (List Char)) :
    walk copyRest [.glob] (.segment s :: followers ss) { w with pending := true } =
      .ok (w.behind [.glob] (s :: ss)).finish := by
  have hwalk : walk copyRest [.glob] (.segment s :: followers ss) { w with pending := true } =
      .ok (({ tokens := w.tokens ++ [.separator] } : Written).copy
        (.segment s :: followers ss)).finish := rfl
  rw [hwalk, finish_behind_cons, finish_of_ne_nil (by simp [Written.copy])]
  simp [Written.copy, Url.followers_cons, joinSegments]

/-- Steps walk along a path as they look at its segments, one after the other. What they keep is
written behind what has been written, and if that is nothing, the path is the root. -/
theorem walk_steps (hclosed : closed → copyRest = false) (hw : steps = [] → w.pending = false)
    (hsteps : ∀ r ∈ steps, r.isSegment)
    (hrest : keepRest ↔ copyRest ∨ closed = false ∧ steps.getLast? = some .glob) :
    walk copyRest (stepRules steps closed) (followers ss) w =
      (fun kept => (w.behind steps kept).finish) <$> fitSteps keepRest steps ss := by
  induction steps generalizing ss w with
  | nil =>
    obtain rfl : keepRest = copyRest := Bool.eq_iff_iff.mpr (hrest.trans (by simp))
    obtain ⟨tokens, pending⟩ := w
    obtain rfl : pending = false := hw rfl
    rw [walk_end hclosed rfl]
    cases keepRest with
    | false => simp [Written.behind, fitSteps]
    | true => rfl
  | cons r steps ih =>
    have hsteps' : ∀ r ∈ steps, r.isSegment := fun r hr => hsteps r (List.mem_cons_of_mem _ hr)
    have hrest' (hr : r = .glob → stepRules steps closed ≠ []) :
        keepRest ↔ copyRest ∨ closed = false ∧ steps.getLast? = some .glob := by
      refine hrest.trans (or_congr_right (and_congr_right fun hopen => ?_))
      cases steps with
      | nil =>
        have hne : r ≠ .glob := fun hglob => hr hglob (by rw [hopen]; rfl)
        simp [hne]
      | cons r' steps => rfl
    cases ss with
    | nil => rfl
    | cons s ss =>
      rw [stepRules_cons, Url.followers_cons, joinSegments, walk_separator]
      cases r with
      | separator => exact absurd (hsteps _ List.mem_cons_self) (by decide)
      | omitPath => exact absurd (hsteps _ List.mem_cons_self) (by decide)
      | matchSegment expected =>
        rw [walk, fitSteps]
        split
        · rw [ih (fun _ => Written.pending_segment _ s) hsteps' (hrest' (by simp))]
          exact map_behind_segment w _ steps s _
        · rfl
      | glob =>
        by_cases hend : stepRules steps closed = []
        · obtain ⟨rfl, rfl⟩ : steps = [] ∧ closed = false := by
            cases steps <;> cases closed <;> simp [stepRules] at hend ⊢
          obtain rfl : keepRest = true := hrest.mpr (.inr ⟨rfl, rfl⟩)
          rw [hend, walk_last_glob]
          rfl
        · rw [walk_glob hend, ih (fun _ => Written.pending_segment _ s) hsteps'
            (hrest' fun _ => hend)]
          exact map_behind_segment w _ steps s _
      | omitSegment =>
        cases steps with
        | nil =>
          obtain rfl : keepRest = copyRest :=
            Bool.eq_iff_iff.mpr ((hrest' (by simp)).trans (by simp))
          rw [walk_omit_end hclosed]
          cases keepRest with
          | false => simp [Written.behind, fitSteps]
          | true => rfl
        | cons r' steps =>
          cases ss with
          | nil => rfl
          | cons s' ss =>
            rw [walk_omit (by simp), ih (by simp) hsteps' (hrest' (by simp))]
            rfl

/-! ## Routes -/

/-- Segments, each behind a separator; the root path without any. -/
def rootedPath (segments : List (List Char)) : List PathToken :=
  if segments = [] then [.separator] else followers segments

theorem finish_behind (hsteps : steps ≠ []) (kept : List (List Char)) :
    (({} : Written).behind steps kept).finish = rootedPath kept := by
  cases kept with
  | nil => simp [Written.behind, Written.finish, rootedPath, hsteps]
  | cons s kept => exact finish_behind_cons {} steps s kept

namespace Route

variable (p : Route)

instance : Decidable p.KeepsRest := by
  unfold KeepsRest
  infer_instance

theorem getLast?_stepRules (steps : List PathRule) :
    (stepRules steps false).getLast? = steps.getLast? := by
  rcases List.eq_nil_or_concat steps with rfl | ⟨init, r, rfl⟩
  · rfl
  · simp [stepRules]

/-- Behind the steps, what is left of a path is copied before a query or fragment rule, or taken
by a last glob. -/
theorem keepsRest_iff : p.KeepsRest ↔
    copiesRest p.tokens ∨ p.closed = false ∧ p.steps.getLast? = some .glob := by
  constructor
  · rintro ⟨hopen, hglob | ⟨r, hr, hmarker⟩⟩
    · exact .inr ⟨hopen, hglob⟩
    · left
      obtain ⟨last, hlast⟩ : ∃ last, p.steps.getLast? = some last :=
        Option.isSome_iff_exists.mp (by simpa using p.steps_ne_nil)
      have hsegment : last.isSegment := p.isSegment last (List.mem_of_getLast? hlast)
      have hstop : stopsAtMarker p.tokens := by
        rw [stopsAtMarker_tokens, Option.any_eq_true]
        exact ⟨r, hr, by simpa using hmarker⟩
      rw [copiesRest, hstop, leadingPathRules_tokens, hopen, getLast?_stepRules, hlast]
      exact hsegment
  · rintro (hcopy | ⟨hopen, hglob⟩)
    · exact p.keepsRest_of_copiesRest hcopy
    · exact ⟨hopen, .inl hglob⟩

/-- The path rules of a route look at the segments of a path place by place. -/
theorem applyPath_tokens {url : List Url.Token} (hpath : pathOf url = followers ss) :
    applyPath url p.tokens =
      (fun kept => (rootedPath kept).map .path) <$> fitSteps (decide p.KeepsRest) p.steps ss := by
  obtain ⟨r, steps, hsteps⟩ := List.exists_cons_of_ne_nil p.steps_ne_nil
  have hfit : fitPath (copiesRest p.tokens) (stepRules p.steps p.closed) (followers ss) =
      walk (copiesRest p.tokens) (stepRules p.steps p.closed) (followers ss) {} := by
    rw [hsteps]
    rfl
  have hwalk : walk (copiesRest p.tokens) (stepRules p.steps p.closed) (followers ss) {} =
      (fun kept => (({} : Written).behind p.steps kept).finish) <$>
        fitSteps (decide p.KeepsRest) p.steps ss :=
    walk_steps p.not_copiesRest_of_closed (fun _ => rfl) p.isSegment
      (decide_eq_true_iff.trans p.keepsRest_iff)
  simp only [finish_behind p.steps_ne_nil] at hwalk
  have happly : applyPath url p.tokens =
      List.map .path <$> fitPath (copiesRest p.tokens) (leadingPathRules p.tokens) (pathOf url) :=
    rfl
  rw [happly, hpath, leadingPathRules_tokens, hfit, hwalk, Functor.map_map]

end Route

/-- The path rules of a route fit a path if it has a segment for each step and none says something
else than the step at its place asks for. They keep the segments that no step omits, and those
behind the steps if these are kept, each behind a separator; if there are none, they keep the
root path. If they do not fit, the first segment that says something else is reported, and a
missing separator if there is none. -/
theorem applyPath_route (p : Route) {url : List Url.Token} (hpath : pathOf url = followers ss) :
    ((∃ out, applyPath url p.tokens = .ok out) ↔
      p.steps.length ≤ ss.length ∧ Fits p.steps ss) ∧
    (∀ out, applyPath url p.tokens = .ok out →
      out = (rootedPath (keptSegments p.steps ss ++
        if p.KeepsRest then ss.drop p.steps.length else [])).map .path) ∧
    ∀ e, applyPath url p.tokens = .error e ↔
      (∃ i t s, Misses p.steps ss i t s ∧ (∀ j < i, ∀ t s, ¬ Misses p.steps ss j t s) ∧
        e = .segment t s) ∨
      ss.length < p.steps.length ∧ Fits p.steps ss ∧ e = .noSeparator := by
  have hok : ∀ out, applyPath url p.tokens = .ok out ↔
      p.steps.length ≤ ss.length ∧ Fits p.steps ss ∧
        out = (rootedPath (keptSegments p.steps ss ++
          if p.KeepsRest then ss.drop p.steps.length else [])).map .path := by
    intro out
    rw [p.applyPath_tokens hpath, map_eq_ok_iff]
    simp [fitSteps_eq_ok_iff, and_assoc]
  refine ⟨?_, fun out h => ((hok out).mp h).2.2, fun e => ?_⟩
  · simp [hok]
  · rw [p.applyPath_tokens hpath, map_eq_error_iff, fitSteps_eq_error_iff]

/-- A segment that is asked for, one that is omitted, and all that is left, behind which a query
rule stands; then too few segments, and too few of which the first is another one. -/
theorem applyPath_route_each :
    let p : Route :=
      { steps := [.matchSegment ['a'], .omitSegment, .glob]
        closed := false
        rest := [.query .omitQuery, .finish]
        steps_ne_nil := by decide
        isSegment := by decide
        not_isPath := by decide }
    let url : List (List Char) → List Url.Token := fun ss => (followers ss).map .path
    let ss : List (List Char) := [['\\', 'a'], ['k'], ['b'], ['c']]
    Pattern.read "/a/-/*?-".toList = .ok p.tokens ∧
      applyPath (url ss) p.tokens =
        .ok [.path .separator, .path (.segment ['\\', 'a']), .path .separator,
          .path (.segment ['b']), .path .separator, .path (.segment ['c'])] ∧
      applyPath (url [['a'], ['k']]) p.tokens = .error .noSeparator ∧
      applyPath (url [['b']]) p.tokens = .error (.segment ['a'] ['b']) := by
  intro p url ss
  have hread : Pattern.read "/a/-/*?-".toList = .ok p.tokens := by cbv
  have hfits : Fits p.steps ss := by simp [p, ss, fits_cons_iff, fits_nil_left, unescape]
  have hshort : Fits p.steps [['a'], ['k']] := by
    simp [p, fits_cons_iff, fits_nil_right, unescape]
  have hmiss : Misses p.steps [['b']] 0 ['a'] ['b'] := ⟨rfl, rfl, by decide⟩
  have hurl : ∀ ss, pathOf (url ss) = followers ss := by
    intro ss
    have hsome : Url.Token.path? ∘ Url.Token.path = some := rfl
    rw [pathOf, List.filterMap_map, hsome, List.filterMap_some]
  obtain ⟨out, hout⟩ := (applyPath_route p (hurl ss)).1.mpr ⟨by decide, hfits⟩
  have hkept := (applyPath_route p (hurl ss)).2.1 out hout
  refine ⟨hread, ?_, ?_, ?_⟩
  · rw [hout, hkept]
    rfl
  · exact ((applyPath_route p (hurl _)).2.2 _).mpr (.inr ⟨by decide, hshort, rfl⟩)
  · exact ((applyPath_route p (hurl _)).2.2 _).mpr (.inl ⟨0, _, _, hmiss, by simp, rfl⟩)

end UrlTemplate.Apply
