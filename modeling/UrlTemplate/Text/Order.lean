/-! # The order of texts

Texts are ordered by their first difference, by code points, and a text comes
before those that go on from it.
-/

namespace UrlTemplate

/-- The first text does not come after the second. -/
def textLe (a b : List Char) : Bool := !decide (b < a)

theorem textLe_refl (a : List Char) : textLe a a = true := by
  rw [textLe, decide_eq_false (List.lt_irrefl a)]
  rfl

theorem textLe_total (a b : List Char) : (textLe a b || textLe b a) = true := by
  by_cases h : b < a
  · simp [textLe, h, List.lt_asymm h]
  · simp [textLe, h]

theorem textLe_antisymm {a b : List Char} (h : textLe a b = true) (h' : textLe b a = true) :
    a = b := by
  simp only [textLe, Bool.not_eq_true', decide_eq_false_iff_not] at h h'
  exact List.le_antisymm h h'

theorem textLe_trans {a b c : List Char} (h : textLe a b = true) (h' : textLe b c = true) :
    textLe a c = true := by
  simp only [textLe, Bool.not_eq_true', decide_eq_false_iff_not] at h h' ⊢
  exact List.le_trans h h'

end UrlTemplate
