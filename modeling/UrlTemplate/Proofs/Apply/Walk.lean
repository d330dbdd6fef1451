import UrlTemplate.Apply.Path

/-!
# What a walk writes

Path rules walk along a path and write as they go. Nothing that has been written is taken back,
and nothing is written that has not been taken from the path, each token at most once and in the
order of the path. This holds for any rules and for any path, also one that no URL has.

* `prefix_of_walk`: a walk goes on from what has been written.
* `walk_sublist`: what it adds are tokens of the path, in their order.
* `fitPath_sublist`: path rules only leave tokens of a path out.
-/

namespace UrlTemplate.Apply

open Pattern (PathRule)
open Url (PathToken)

variable {copyRest : Bool} {rules : List PathRule} {path out : List PathToken} {w : Written}

/-! ## What is written -/

namespace Written

theorem flush_of_not_pending (h : w.pending = false) : w.flush = w := by simp [flush, h]

theorem pending_flush (w : Written) : w.flush.pending = false := by
  unfold flush
  split
  · rfl
  · simpa using ‹¬ w.pending = true›

theorem finish_of_not_pending (h : w.pending = false) : w.finish = w.tokens := by
  simp [finish, h]

theorem tokens_segment (w : Written) (t : List Char) :
    (w.segment t).tokens = w.flush.tokens ++ [.segment t] := rfl

theorem pending_segment (w : Written) (t : List Char) : (w.segment t).pending = false :=
  w.pending_flush

theorem flush_segment (w : Written) (t : List Char) : (w.segment t).flush = w.segment t :=
  flush_of_not_pending (w.pending_segment t)

theorem prefix_flush (w : Written) : w.tokens <+: w.flush.tokens := by
  unfold flush
  split
  · exact List.prefix_append _ _
  · exact List.prefix_rfl

theorem prefix_finish (w : Written) : w.tokens <+: w.finish := by
  unfold finish
  split
  · rename_i h
    simp only [Bool.and_eq_true, List.isEmpty_iff] at h
    rw [h.2]
    exact List.nil_prefix
  · exact List.prefix_rfl

theorem prefix_copy (w : Written) (path : List PathToken) : w.tokens <+: (w.copy path).tokens :=
  List.prefix_append _ _

/-- A separator that is taken becomes pending or is dropped, and so does one that was pending
before. -/
theorem flush_pend_sublist (w : Written) (pending : Bool) :
    ({ w with pending } : Written).flush.tokens.Sublist (w.flush.tokens ++ [.separator]) := by
  cases pending with
  | false => exact w.prefix_flush.sublist.trans (List.sublist_append_left _ _)
  | true => exact w.prefix_flush.sublist.append_right _

theorem finish_copy_sublist (w : Written) (path : List PathToken) :
    (w.copy path).finish.Sublist (w.flush.tokens ++ path) := by
  unfold finish
  split
  · rename_i h
    have hflush : w.flush.tokens = w.tokens ++ [.separator] := by simp_all [copy, flush]
    rw [hflush]
    simp
  · exact w.prefix_flush.sublist.append_right path

theorem finish_sublist (w : Written) : w.finish.Sublist w.flush.tokens := by
  simpa [copy] using w.finish_copy_sublist []

end Written

/-! ## The walk -/

/-- A walk takes nothing back of what has been written. -/
theorem prefix_of_walk (h : walk copyRest rules path w = .ok out) : w.tokens <+: out := by
  fun_induction walk copyRest rules path w
  case case2 ih | case3 ih | case12 ih | case13 ih => exact ih h
  case case4 | case6 | case7 | case8 | case11 => cases h
  case case1 path w =>
    cases h
    cases copyRest with
    | false => exact w.prefix_finish
    | true => exact (w.prefix_copy path).trans (w.copy path).prefix_finish
  case case5 w t path ih | case10 w _ t path ih =>
    have hsegment : w.flush.tokens <+: (w.segment t).tokens := List.prefix_append _ _
    exact w.prefix_flush.trans (hsegment.trans (ih h))
  case case9 path w hpath =>
    cases h
    exact w.prefix_flush.trans ((w.flush.prefix_copy path).trans (w.flush.copy path).prefix_finish)
  case case14 =>
    cases h
    exact List.prefix_rfl

theorem dropSegment_suffix (path : List PathToken) : dropSegment path <:+ path := by
  unfold dropSegment
  split
  · exact List.suffix_cons _ _
  · exact List.suffix_rfl

/-- A walk writes tokens of the path in their order, behind what has been written and the
separator that is pending. -/
theorem walk_sublist (h : walk copyRest rules path w = .ok out) :
    out.Sublist (w.flush.tokens ++ path) := by
  fun_induction walk copyRest rules path w with
  | case1 path w =>
    cases h
    cases copyRest with
    | false => exact w.finish_sublist.trans (List.sublist_append_left _ _)
    | true => exact w.finish_copy_sublist path
  | case2 rules w path ih =>
    rw [List.append_cons]
    exact (ih h).trans ((w.flush_pend_sublist _).append_right path)
  | case3 rules w path hpath hend ih => exact ih h
  | case5 rules w t path ih | case10 rules w _ t path ih =>
    rw [List.append_cons, ← w.tokens_segment, ← w.flush_segment]
    exact ih h
  | case4 | case6 | case7 | case8 | case11 => cases h
  | case9 path w hpath =>
    -- the last glob takes what is left
    cases h
    have hfinish := (w.flush.copy path).finish_sublist
    rwa [Written.flush_of_not_pending (w := w.flush.copy path) w.pending_flush] at hfinish
  | case12 path w rules rest hdrop ih =>
    have hrest : rest <:+ path := (List.suffix_cons _ rest).trans (hdrop ▸ dropSegment_suffix path)
    exact (ih h).trans (hrest.sublist.append_left _)
  | case13 path w rules hdrop ih =>
    exact (ih h).trans ((dropSegment_suffix path).sublist.append_left _)
  | case14 rules path w =>
    cases h
    exact w.prefix_flush.sublist.trans (List.sublist_append_left _ _)

/-! ## Where a walk starts -/

theorem enter_plain {r : PathRule} (h : ¬ (r.isSegment ∧ path.head? = some .separator)) :
    enter (r :: rules) path = (path, {}) := by
  unfold enter
  split
  · simp_all
  · rfl

theorem enter_separator {r : PathRule} (hr : r.isSegment) (path : List PathToken) :
    enter (r :: rules) (.separator :: path) = (path, { pending := true }) := by
  simp [enter, hr]

theorem fitPath_cons (r : PathRule) (rules : List PathRule) (path : List PathToken) :
    fitPath copyRest (r :: rules) path = walk copyRest (r :: rules)
      (enter (r :: rules) path).1 (enter (r :: rules) path).2 := rfl

/-- Whatever the path, path rules only leave tokens of it out. -/
theorem fitPath_sublist (h : fitPath copyRest rules path = .ok out) : out.Sublist path := by
  cases rules with
  | nil =>
    cases h
    exact List.Sublist.refl _
  | cons r rules =>
    rw [fitPath_cons] at h
    by_cases hr : r.isSegment ∧ path.head? = some .separator
    · obtain ⟨hr, hhead⟩ := hr
      obtain ⟨path, rfl⟩ := List.head?_eq_some_iff.mp hhead
      rw [enter_separator hr] at h
      exact walk_sublist h
    · rw [enter_plain hr] at h
      exact walk_sublist h

end UrlTemplate.Apply
