import UrlTemplate.Proofs.Text.Cuts
import UrlTemplate.Proofs.Url.ParamOrder

/-!
# Cutting query entries

An entry is cut where `=` first stands unprotected. Cutting and unescaping see the same
protection, so unescaping an entry unescapes its two parts, and a text comes back from any
spelling of it that protects its backslashes.

* `hasBare_iff`: a character stands unprotected exactly where it is an item of its own.
* `splitAtBare_textOf`: the cut of a text is the first cut of its items.
* `unescape_protectAt`: a backslash more before a character changes nothing.
* `ofRaw_cuts_first_bare`: both for entries.
-/

namespace UrlTemplate.Escape

variable {d : Char}

/-- The character stands somewhere in the text behind no odd run of backslashes. -/
def HasBare (d : Char) (text : List Char) : Prop :=
  ∃ before after, text = before ++ d :: after ∧ ¬ Dangles before

/-- The items around a bare one spell the texts around its character. -/
theorem eq_of_items_eq_append {text : List Char} {a b : List Item}
    (h : items text = a ++ .bare d :: b) :
    text = textOf a ++ d :: textOf b ∧ ¬ Dangles (textOf a) := by
  have hproper := proper_append.mp (h ▸ proper_items text)
  constructor
  · rw [← textOf_items text, h]
    simp [Item.text]
  · rw [dangles_iff, items_textOf hproper.1]
    exact hproper.2.2 (List.cons_ne_nil _ _)

theorem hasBare_iff (hd : d ≠ '\\') (text : List Char) :
    HasBare d text ↔ .bare d ∈ items text := by
  constructor
  · rintro ⟨before, after, rfl, hbefore⟩
    rw [items_append hbefore, items_bare hd]
    simp
  · intro h
    obtain ⟨a, b, hab⟩ := List.append_of_mem h
    exact ⟨textOf a, textOf b, eq_of_items_eq_append hab⟩

/-! ## The cut of a text -/

theorem splitAtBare_textOf (hd : d ≠ '\\') {l : List Item} (hl : Proper l) :
    splitAtBare d (textOf l) =
      if .bare d ∈ l then some (textOf (beforeBare d l), textOf (afterBare d l)) else none := by
  induction l, hl using proper_induction with
  | nil => rfl
  | stray => simp [Item.text, splitAtBare, hd]
  | pair c l _ ih =>
    have hne : Item.pair c ≠ .bare d := by simp
    simp only [textOf_cons, Item.text, List.cons_append, List.nil_append, splitAtBare, ih]
    rw [beforeBare_cons, afterBare_cons, if_neg hne, if_neg hne]
    by_cases h : .bare d ∈ l <;> simp [h, Item.text]
  | bare c l hc _ ih =>
    simp only [textOf_cons, Item.text, List.cons_append, List.nil_append]
    rw [Url.splitAtBare_bare hc, beforeBare_cons, afterBare_cons, ih]
    by_cases hcd : c = d
    · simp [hcd]
    · have hne : Item.bare c ≠ .bare d := fun h => hcd (Item.bare.inj h)
      rw [if_neg hcd, if_neg hne, if_neg hne]
      by_cases h : .bare d ∈ l <;> simp [h, Ne.symm hcd, Item.text]

/-! ## Spellings of a text -/

/-- The text with a backslash before each backslash and before the characters at the places that
`also` picks. -/
def protectAt (also : Nat → Bool) (text : List Char) : List Char :=
  text.zipIdx.flatMap fun (c, i) => if c = '\\' || also i then ['\\', c] else [c]

theorem unescape_protectAt (also : Nat → Bool) (text : List Char) :
    unescape (protectAt also text) = text := by
  unfold protectAt
  generalize 0 = start
  induction text generalizing start with
  | nil => rfl
  | cons c rest ih =>
    rw [List.zipIdx_cons, List.flatMap_cons]
    by_cases h : (c = '\\' || also start) = true
    · simp only [h, if_true, List.cons_append, List.nil_append, unescape, ih]
    · have hc : c ≠ '\\' := by
        intro he
        simp [he] at h
      simp only [h, if_false, Bool.false_eq_true, List.singleton_append, unescape_bare hc, ih]

end UrlTemplate.Escape

namespace UrlTemplate.Url

open Escape

namespace Param

theorem ofRaw_of_hasBare {raw : List Char} (h : HasBare '=' raw) :
    raw = (ofRaw raw).name ++ '=' :: (ofRaw raw).value ∧ ¬ Dangles (ofRaw raw).name ∧
      ¬ HasBare '=' (ofRaw raw).name := by
  have hmem := (hasBare_iff (by decide) raw).mp h
  have hcut := splitAtBare_textOf (by decide : '=' ≠ '\\') (proper_items raw)
  rw [textOf_items, if_pos hmem] at hcut
  have hparts := beforeBare_append_afterBare hmem
  have hbefore : Proper (beforeBare '=' (items raw)) :=
    proper_of_isInfix (beforeBare_isPrefix _ _).isInfix (proper_items raw)
  simp only [ofRaw, hcut]
  obtain ⟨htext, hfirm⟩ := eq_of_items_eq_append hparts
  refine ⟨htext, hfirm, ?_⟩
  rw [hasBare_iff (by decide), items_textOf hbefore]
  exact not_mem_beforeBare _ _

theorem ofRaw_of_not_hasBare {raw : List Char} (h : ¬ HasBare '=' raw) :
    (ofRaw raw).name = raw ∧ (ofRaw raw).value = [] := by
  have hmem : .bare '=' ∉ items raw := mt (hasBare_iff (by decide) raw).mpr h
  have hcut := splitAtBare_textOf (by decide : '=' ≠ '\\') (proper_items raw)
  rw [textOf_items, if_neg hmem] at hcut
  simp [ofRaw, hcut]

/-- An entry is cut at its first unprotected `=` if it has one, so that unescaping its parts
unescapes it; and unescaping undoes any protection of a text that covers its backslashes. -/
theorem ofRaw_cuts_first_bare :
    (∀ raw : List Char,
      HasBare '=' raw ∧ raw = (ofRaw raw).name ++ '=' :: (ofRaw raw).value ∧
          ¬ HasBare '=' (ofRaw raw).name ∧ ¬ Dangles (ofRaw raw).name ∧
          unescape raw = unescape (ofRaw raw).name ++ '=' :: unescape (ofRaw raw).value ∨
        ¬ HasBare '=' raw ∧ (ofRaw raw).name = raw ∧ (ofRaw raw).value = []) ∧
    ∀ (also : Nat → Bool) (text : List Char), unescape (protectAt also text) = text := by
  refine ⟨?_, unescape_protectAt⟩
  intro raw
  by_cases h : HasBare '=' raw
  · obtain ⟨htext, hfirm, hfirst⟩ := ofRaw_of_hasBare h
    refine .inl ⟨h, htext, hfirst, hfirm, ?_⟩
    calc
      unescape raw = unescape ((ofRaw raw).name ++ '=' :: (ofRaw raw).value) := by rw [← htext]
      _ = unescape (ofRaw raw).name ++ unescape ('=' :: (ofRaw raw).value) :=
        unescape_append hfirm _
      _ = unescape (ofRaw raw).name ++ '=' :: unescape (ofRaw raw).value := by
        rw [unescape_bare (by decide)]
  · exact .inr ⟨h, ofRaw_of_not_hasBare h⟩

/-- A protected `=` does not cut. -/
example : ofRaw ['a', '\\', '=', 'b', '=', 'c'] =
    { raw := ['a', '\\', '=', 'b', '=', 'c'], name := ['a', '\\', '=', 'b'], value := ['c'] } := by
  decide

end Param

end UrlTemplate.Url
