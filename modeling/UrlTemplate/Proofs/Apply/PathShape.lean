import UrlTemplate.Proofs.Apply.Walk
import UrlTemplate.Proofs.Pattern.PathRules
import UrlTemplate.Proofs.Url.Form

/-!
# The path that path rules make

Whatever path rules do along the way, they end up with some of the segments of the path, in
their order, with one separator between two of them. A separator is written late, so what has
been written always ends in a segment; the separator behind it is taken, pending, or still to
be read, and it is the place in the walk that says which.

* `Laid`: what can have been written, and `Stage` where the walk can stand.
* `walk_shape`: a walk makes a path of some of the segments.
* `fitPath_shape`: so do path rules, whether they take the separator at the start or not.
-/

namespace UrlTemplate.Apply

open Pattern (PathRule Spaced)
open Url (PathToken followers joinSegments pathTokens followers_cons followers_nil
  joinSegments_nil pathTokens_append)

/-! ## Shapes of paths -/

/-- A path of some of the `segments`, in their order, that stays rooted unless it has none. -/
def Shape (rooted : Bool) (segments : List (List Char)) (path : List PathToken) : Prop :=
  ∃ r ts, path = pathTokens r ts ∧ ts.Sublist segments ∧ (rooted → r ∨ ts = [])

/-- The segments `ts` have been written, or nothing yet, and then a separator is pending if
the path is rooted. -/
inductive Laid (rooted : Bool) : List (List Char) → Written → Prop
  | nothing {pending : Bool} (h : rooted → pending) : Laid rooted [] { tokens := [], pending }
  | path {r pending : Bool} {ts : List (List Char)} (hr : rooted → r) (hne : ts ≠ []) :
    Laid rooted ts { tokens := pathTokens r ts, pending }

variable {rooted : Bool} {segments ts us : List (List Char)} {w : Written}

theorem pathTokens_ne_nil (h : ts ≠ []) (r : Bool) : pathTokens r ts ≠ [] := by
  obtain ⟨t, ts, rfl⟩ := List.exists_cons_of_ne_nil h
  simp [pathTokens, joinSegments]

namespace Laid

theorem shape_tokens (h : Laid rooted ts w) (hs : (ts ++ us).Sublist segments) :
    Shape rooted segments w.tokens := by
  have hs := (List.sublist_append_left ts us).trans hs
  cases h with
  | nothing => exact ⟨false, [], rfl, hs, fun _ => .inr rfl⟩
  | path hr => exact ⟨_, ts, rfl, hs, fun h => .inl (hr h)⟩

theorem shape_finish (h : Laid rooted ts w) (hs : (ts ++ us).Sublist segments) :
    Shape rooted segments w.finish := by
  have hs := (List.sublist_append_left ts us).trans hs
  cases h with
  | @nothing pending =>
    cases pending with
    | false => exact ⟨false, [], rfl, hs, fun _ => .inr rfl⟩
    | true => exact ⟨true, [], rfl, hs, fun _ => .inl rfl⟩
  | path hr hne =>
    refine ⟨_, ts, ?_, hs, fun h => .inl (hr h)⟩
    simp [Written.finish, pathTokens_ne_nil hne]

/-- A separator can be pending wherever segments have been written. -/
theorem pend (h : Laid rooted ts w) : Laid rooted ts { w with pending := true } := by
  cases h with
  | nothing => exact .nothing fun _ => rfl
  | path hr hne => exact .path hr hne

/-- Writing a segment flushes what is pending. -/
theorem segment (h : Laid rooted ts w) (hp : ts ≠ [] → w.pending) (t : List Char) :
    Laid rooted (ts ++ [t]) (w.segment t) ∧ (w.segment t).pending = false := by
  cases h with
  | @nothing pending h =>
    cases pending with
    | false => exact ⟨.path (r := false) h (by simp), rfl⟩
    | true => exact ⟨.path (r := true) (fun _ => rfl) (by simp), rfl⟩
  | @path r _ _ hr hne =>
    obtain rfl := hp hne
    refine ⟨?_, rfl⟩
    have hw : Written.segment { tokens := pathTokens r ts, pending := true } t =
        { tokens := pathTokens r (ts ++ [t]), pending := false } := by
      simp [Written.segment, Written.flush, pathTokens_append hne, followers]
    exact hw ▸ .path hr (by simp)

/-- What follows a segment can be copied as it is. -/
theorem shape_copy_followers (h : Laid rooted ts w) (hs : (ts ++ us).Sublist segments) :
    Shape rooted segments (w.copy (followers us)).finish := by
  cases us with
  | nil => simpa [Written.copy] using h.shape_finish hs
  | cons u us =>
    have hne : ts ++ u :: us ≠ [] := by simp
    cases h with
    | nothing =>
      refine ⟨true, u :: us, ?_, hs, fun _ => .inl rfl⟩
      simp [Written.copy, Written.finish, followers_cons, pathTokens]
    | @path r _ _ hr hts =>
      refine ⟨r, ts ++ u :: us, ?_, hs, fun h => .inl (hr h)⟩
      simp [Written.copy, Written.finish, pathTokens_append hts, followers_cons]

/-- The rest of a path that starts with a segment can be copied behind what is pending. -/
theorem shape_copy_joinSegments (h : Laid rooted ts w) (hp : ts ≠ [] → w.pending)
    (hs : (ts ++ us).Sublist segments) (hus : us = [] → w.pending && w.tokens.isEmpty) :
    Shape rooted segments (w.flush.copy (joinSegments us)).finish := by
  cases h with
  | @nothing pending h =>
    cases us with
    | nil =>
      obtain rfl : pending = true := by simpa using hus rfl
      exact ⟨true, [], rfl, hs, fun _ => .inl rfl⟩
    | cons u us =>
      refine ⟨pending, u :: us, ?_, hs, fun hr => .inl (h hr)⟩
      cases pending <;> simp [Written.copy, Written.flush, Written.finish, pathTokens, joinSegments]
  | @path r pending _ hr hts =>
    obtain rfl : pending = true := hp hts
    cases us with
    | nil => simp [pathTokens_ne_nil hts] at hus
    | cons u us =>
      refine ⟨r, ts ++ u :: us, ?_, hs, fun h => .inl (hr h)⟩
      simp [Written.copy, Written.flush, Written.finish, pathTokens_append hts, followers_cons]

end Laid

/-! ## The walk -/

/-- Where a walk along a path stands, with `ts` behind it and `us` before it. -/
inductive Stage (copyRest rooted : Bool) (segments : List (List Char)) :
    List PathRule → List PathToken → Written → Prop
  /-- The separator at the start of the path has not been taken. -/
  | start {r : PathRule} {rules : List PathRule} (hr : r.isSegment = false) :
    Stage copyRest rooted segments (r :: rules) (pathTokens rooted segments) {}
  /-- The path goes on with a segment. -/
  | before {rules : List PathRule} {ts us : List (List Char)} {w : Written}
    (hrules : rules ≠ []) (hw : Laid rooted ts w) (hp : ts ≠ [] → w.pending)
    (hs : (ts ++ us).Sublist segments) :
    Stage copyRest rooted segments rules (joinSegments us) w
  /-- A segment has been written, and its separator is next. -/
  | after {rules : List PathRule} {ts us : List (List Char)} {w : Written}
    (hrules : rules.head? ≠ some .omitSegment) (hw : Laid rooted ts w) (hts : ts ≠ [])
    (hp : w.pending = false) (hs : (ts ++ us).Sublist segments) :
    Stage copyRest rooted segments rules (followers us) w
  /-- The rules have come to their end. -/
  | ended {path : List PathToken} {w : Written}
    (h : Shape rooted segments (if copyRest then w.copy path else w).finish) :
    Stage copyRest rooted segments [] path w

namespace Stage

variable {copyRest : Bool} {rules : List PathRule} {path : List PathToken}

/-- At the end of the rules, a path that is dropped or has come to its end does not matter. -/
theorem ended_of_shape (hpath : copyRest = false ∨ path = [])
    (h : Shape rooted segments w.finish) : Stage copyRest rooted segments [] path w := by
  refine .ended ?_
  rcases hpath with rfl | rfl
  · exact h
  · cases copyRest <;> simpa [Written.copy] using h

theorem read_separator (h : Stage copyRest rooted segments (.separator :: rules)
      (.separator :: path) w) (hlast : rules = [] → copyRest = false) :
    Stage copyRest rooted segments rules path { w with pending := !rules.isEmpty } := by
  generalize hpath : PathToken.separator :: path = p at h
  cases h with
  | start =>
    cases rooted with
    | false => cases segments <;> cases hpath
    | true =>
      obtain rfl : path = joinSegments segments := (List.cons.inj hpath).2
      cases rules with
      | nil => exact ended_of_shape (.inl (hlast rfl)) ⟨false, [], rfl, by simp, fun _ => .inr rfl⟩
      | cons r rules =>
        exact .before (by simp) (.nothing fun _ => rfl) (by simp) (List.Sublist.refl _)
  | @before _ ts us => cases us <;> cases hpath
  | @after _ ts us _ _ hw hts _ hs =>
    cases us with
    | nil => cases hpath
    | cons u us =>
      obtain rfl : path = joinSegments (u :: us) := (List.cons.inj hpath).2
      cases rules with
      | nil =>
        refine ended_of_shape (.inl (hlast rfl)) ?_
        exact hw.shape_tokens hs
      | cons r rules => exact .before (by simp) hw.pend (fun _ => rfl) hs

theorem read_no_separator (h : Stage copyRest rooted segments [.separator] [] w) :
    Stage copyRest rooted segments [] [] w := by
  refine ended_of_shape (.inr rfl) ?_
  generalize hpath : ([] : List PathToken) = p at h
  cases h with
  | start => exact ⟨false, [], rfl, by simp, fun _ => .inr rfl⟩
  | before _ hw _ hs => exact hw.shape_finish hs
  | after _ hw _ _ hs => exact hw.shape_finish hs

/-- A segment that is kept is written. -/
theorem read_segment {r : PathRule} {t : List Char} (hr : r.isSegment)
    (hrules : rules.head? ≠ some .omitSegment)
    (h : Stage copyRest rooted segments (r :: rules) (.segment t :: path) w) :
    Stage copyRest rooted segments rules path (w.segment t) := by
  generalize hpath : PathToken.segment t :: path = p at h
  cases h with
  | start hsegment => simp [hr] at hsegment
  | @before _ ts us _ _ hw hp hs =>
    cases us with
    | nil => cases hpath
    | cons u us =>
      obtain ⟨ht, rfl⟩ := List.cons.inj hpath
      obtain rfl := PathToken.segment.inj ht
      obtain ⟨hw, hp⟩ := hw.segment hp t
      exact .after hrules hw (by simp) hp (by simpa using hs)
  | @after _ ts us => cases us <;> cases hpath

/-- The last rule takes all that is left. -/
theorem read_rest (h : Stage copyRest rooted segments [.glob] path w)
    (hpath : ¬ (path.isEmpty && !(w.pending && w.tokens.isEmpty))) :
    Shape rooted segments (w.flush.copy path).finish := by
  cases h with
  | start hsegment => cases hsegment
  | before _ hw hp hs =>
    refine hw.shape_copy_joinSegments hp hs ?_
    rintro rfl
    simpa using hpath
  | after _ hw _ hp hs =>
    have hflush : w.flush = w := by simp [Written.flush, hp]
    rw [hflush]
    exact hw.shape_copy_followers hs

/-- A segment that is omitted goes with the separator behind it. -/
theorem omit_segment {rest : List PathToken}
    (h : Stage copyRest rooted segments (.omitSegment :: .separator :: rules) path w)
    (hpath : dropSegment path = .separator :: rest)
    (hlast : rules = [] → copyRest = false) : Stage copyRest rooted segments rules rest w := by
  cases h with
  | start hsegment => cases hsegment
  | @before _ ts us _ _ hw hp hs =>
    match us with
    | [] => cases hpath
    | [u] => cases hpath
    | u :: v :: us =>
      obtain rfl : rest = joinSegments (v :: us) := (List.cons.inj hpath).2.symm
      have hs : (ts ++ v :: us).Sublist segments := by
        refine List.Sublist.trans ?_ hs
        exact (List.Sublist.refl ts).append (List.sublist_cons_self u _)
      cases rules with
      | nil =>
        refine ended_of_shape (.inl (hlast rfl)) ?_
        exact hw.shape_finish hs
      | cons r rules => exact .before (by simp) hw hp hs
  | after hrules => simp at hrules

/-- If there is no separator behind it, the path or the rules are at their end. -/
theorem omit_rest (hspaced : Spaced (.omitSegment :: rules))
    (h : Stage copyRest rooted segments (.omitSegment :: rules) path w)
    (hpath : ∀ rules' rest, rules = .separator :: rules' → dropSegment path ≠ .separator :: rest) :
    Stage copyRest rooted segments rules (dropSegment path) w := by
  cases h with
  | start hsegment => cases hsegment
  | @before _ ts us _ _ hw hp hs =>
    have hdrop : dropSegment (joinSegments us) = followers us.tail := by cases us <;> rfl
    have hs' : (ts ++ us.tail).Sublist segments :=
      ((List.Sublist.refl ts).append (List.tail_sublist us)).trans hs
    rw [hdrop] at hpath ⊢
    cases rules with
    | nil =>
      refine .ended ?_
      cases copyRest with
      | false => exact hw.shape_finish hs
      | true => exact hw.shape_copy_followers hs'
    | cons r rules =>
      obtain rfl : r = .separator := hspaced.2.1 rfl
      have hus : us.tail = [] := by
        cases hu : us.tail with
        | nil => rfl
        | cons u us =>
          exact absurd (by rw [hu, followers_cons]) (hpath rules (joinSegments (u :: us)) rfl)
      rw [hus] at hs' ⊢
      rw [followers_nil, ← joinSegments_nil]
      exact .before (by simp) hw hp hs'
  | after hrules => simp at hrules

/-- Omitting the rest of the path leaves what has been written. -/
theorem omit_path (h : Stage copyRest rooted segments (.omitPath :: rules) path w) :
    Shape rooted segments w.tokens := by
  cases h with
  | start => exact ⟨false, [], rfl, by simp, fun _ => .inr rfl⟩
  | before _ hw _ hs => exact hw.shape_tokens hs
  | after _ hw _ _ hs => exact hw.shape_tokens hs

end Stage

/-- The last rule stays the last one when rules are taken from the front. -/
theorem isSegment_getLast?_tail {r : PathRule} {rules : List PathRule}
    (h : ∀ s ∈ (r :: rules).getLast?, s.isSegment) : ∀ s ∈ rules.getLast?, s.isSegment := by
  cases rules with
  | nil => simp
  | cons s rules => simpa using h

/-- A walk makes a path of some of the segments. -/
theorem walk_shape {copyRest : Bool} {rules : List PathRule} {path out : List PathToken}
    (hrules : Spaced rules) (hlast : copyRest → ∀ r ∈ rules.getLast?, r.isSegment)
    (hstage : Stage copyRest rooted segments rules path w)
    (h : walk copyRest rules path w = .ok out) : Shape rooted segments out := by
  have hseparator : ∀ rules' : List PathRule,
      (copyRest → ∀ r ∈ (PathRule.separator :: rules').getLast?, r.isSegment) →
        rules' = [] → copyRest = false := by
    rintro _ hlast rfl
    cases copyRest with
    | false => rfl
    | true => exact absurd (hlast rfl .separator rfl) (by decide)
  -- one case for each way a rule can meet the path, in the order of `walk`
  fun_induction walk copyRest rules path w with
  | case1 path w =>
    -- no rule is left
    cases h
    cases hstage with
    | before hne => exact absurd rfl hne
    | after _ hw _ _ hs =>
      cases copyRest with
      | false => exact hw.shape_finish hs
      | true => exact hw.shape_copy_followers hs
    | ended h => exact h
  | case2 rules w path ih =>
    refine ih hrules.tail (fun hc => isSegment_getLast?_tail (hlast hc)) ?_ h
    exact hstage.read_separator (hseparator rules hlast)
  | case3 rules w path hpath hend ih =>
    obtain ⟨rfl, rfl⟩ : rules = [] ∧ path = [] := by simpa using hend
    exact ih hrules.tail (fun hc => isSegment_getLast?_tail (hlast hc)) hstage.read_no_separator h
  | case4 => cases h
  | case5 rules w t path ih =>
    refine ih hrules.tail (fun hc => isSegment_getLast?_tail (hlast hc)) ?_ h
    exact hstage.read_segment rfl (hrules.head_ne_omit (by simp))
  | case6 => cases h
  | case7 => cases h
  | case8 => cases h
  | case9 path w hpath =>
    -- the last rule is a glob
    cases h
    exact hstage.read_rest hpath
  | case10 rules w hne t path ih =>
    refine ih hrules.tail (fun hc => isSegment_getLast?_tail (hlast hc)) ?_ h
    exact hstage.read_segment rfl (hrules.head_ne_omit (by simp))
  | case11 => cases h
  | case12 path w rules rest hdrop ih =>
    -- two rules are taken at once
    have hlast := fun hc => isSegment_getLast?_tail (hlast hc)
    refine ih hrules.tail.tail (fun hc => isSegment_getLast?_tail (hlast hc)) ?_ h
    exact hstage.omit_segment hdrop (hseparator rules hlast)
  | case13 path w rules hdrop ih =>
    refine ih hrules.tail (fun hc => isSegment_getLast?_tail (hlast hc)) ?_ h
    exact hstage.omit_rest hrules fun rules' rest hr hd => hdrop rules' rest hr hd
  | case14 =>
    cases h
    exact hstage.omit_path

/-- Where a walk starts. -/
theorem stage_enter {copyRest : Bool} {rules : List PathRule} (hne : rules ≠ []) :
    Stage copyRest rooted segments rules (enter rules (pathTokens rooted segments)).1
      (enter rules (pathTokens rooted segments)).2 := by
  obtain ⟨r, rules, rfl⟩ := List.exists_cons_of_ne_nil hne
  cases hr : r.isSegment with
  | false =>
    have he : enter (r :: rules) (pathTokens rooted segments) =
        (pathTokens rooted segments, {}) := by
      simp [enter, hr]
    exact he ▸ .start hr
  | true =>
    -- the path goes on with a segment, behind the separator at its start
    have he : enter (r :: rules) (pathTokens rooted segments) =
        (joinSegments segments, { pending := rooted }) := by
      cases rooted <;> cases segments <;> simp [enter, hr, pathTokens, joinSegments]
    exact he ▸ .before hne (.nothing id) (by simp) (List.Sublist.refl _)

/-- Path rules make a path of some of the segments of a path. -/
theorem fitPath_shape {copyRest : Bool} {rules : List PathRule} {out : List PathToken}
    (hrules : Spaced rules) (hlast : copyRest → ∀ r ∈ rules.getLast?, r.isSegment)
    (h : fitPath copyRest rules (pathTokens rooted segments) = .ok out) :
    Shape rooted segments out := by
  unfold fitPath at h
  by_cases hne : rules = []
  · rw [if_pos (by simp [hne])] at h
    cases h
    exact ⟨rooted, segments, rfl, List.Sublist.refl _, .inl⟩
  · rw [if_neg (by simp [hne])] at h
    exact walk_shape hrules hlast (stage_enter hne) h

end UrlTemplate.Apply
