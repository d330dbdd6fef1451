import UrlTemplate.Apply.Whole
import UrlTemplate.Proofs.Apply.PathShape

/-!
# Which mismatch is found

The path is fitted before the fragment is looked at, so a fragment that does not fit is
reported only where the path does.

* `not_isFragment_of_applyPath`: fitting a path fails only because of the path.
* `exists_applyPath_of_fragment`: a fragment is looked at only when the path fits.
-/

namespace UrlTemplate.Apply

theorem isFragment_iff {e : Mismatch} :
    e.isFragment ↔ ∃ expected found, e = .fragment expected found := by
  cases e <;> simp [Mismatch.isFragment]

/-- A walk along a path fails only because of the path. -/
theorem not_isFragment_of_walk {copyRest : Bool} {rules : List Pattern.PathRule}
    {path : List Url.PathToken} {w : Written} {e : Mismatch}
    (h : walk copyRest rules path w = .error e) : e.isFragment = false := by
  fun_induction walk copyRest rules path w
  case case2 ih | case3 ih | case5 ih | case10 ih | case12 ih | case13 ih => exact ih h
  case case1 | case9 | case14 => cases h
  case case4 | case6 | case7 | case8 | case11 =>
    cases h
    rfl

theorem not_isFragment_of_applyPath {url : List Url.Token} {rules : List Pattern.Token}
    {e : Mismatch} (h : applyPath url rules = .error e) : e.isFragment = false := by
  cases hp : fitPath (copiesRest rules) (leadingPathRules rules)
      (url.filterMap Url.Token.path?) with
  | ok path =>
    rw [applyPath, hp] at h
    cases h
  | error e' =>
    rw [applyPath, hp] at h
    cases h
    unfold fitPath at hp
    split at hp
    · cases hp
    · exact not_isFragment_of_walk hp

/-- The fragment is looked at only when the path fits. -/
theorem exists_applyPath_of_fragment {url : List Url.Token} {rules : List Pattern.Token}
    {e : Mismatch} (h : apply url rules = .error e) (he : e.isFragment) :
    ∃ path, applyPath url rules = .ok path := by
  cases hp : applyPath url rules with
  | ok path => exact ⟨path, rfl⟩
  | error e' =>
    rw [apply, hp] at h
    cases h
    rw [not_isFragment_of_applyPath hp] at he
    cases he

end UrlTemplate.Apply
