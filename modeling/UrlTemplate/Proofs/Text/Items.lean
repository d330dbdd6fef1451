import UrlTemplate.Text.Escape

/-!
# Texts as lists of items

A text is read from the left as a list of items: a backslash with the character that
it protects, or a character that stands bare. A backslash at the very end protects
nothing and counts as a bare one. Protection is then no matter of position any more:
a character stands unprotected in a text exactly if its bare item is in the list.

* `textOf_items`, `items_textOf`: texts and proper lists of items are the same thing.
* `unescape_textOf`, `unescape_eq_plainOf`: unescaping drops the backslash of each item.
* `dangles_iff`: a text ends in an odd run of backslashes exactly if it has a bare one.
* `items_append`, `items_append_of_dangles`: a text that does not dangle is read apart from what is
  put behind it; one that does protects it.
-/

namespace UrlTemplate.Escape

/-- A part of a text that is never cut. -/
inductive Item where
  | bare (c : Char)
  /-- A backslash and the character it protects. -/
  | pair (c : Char)
  deriving DecidableEq, Repr

/-- The text of an item. -/
def Item.text : Item → List Char
  | bare c => [c]
  | pair c => ['\\', c]

/-- The items of a text. -/
def items : List Char → List Item
  | [] => []
  | '\\' :: c :: rest => .pair c :: items rest
  | c :: rest => .bare c :: items rest

/-- The text of a list of items. -/
def textOf (l : List Item) : List Char := l.flatMap Item.text

/-- The text ends in an odd run of backslashes, the last of which protects nothing. -/
def Dangles (text : List Char) : Prop :=
  (text.reverse.takeWhile (· == '\\')).length % 2 = 1

instance : DecidablePred Dangles := fun _ => inferInstanceAs (Decidable (_ = _))

/-! ## Reading and writing items -/

@[simp] theorem textOf_nil : textOf [] = [] := rfl

@[simp] theorem textOf_cons (i : Item) (l : List Item) : textOf (i :: l) = i.text ++ textOf l := rfl

@[simp] theorem textOf_append (a b : List Item) : textOf (a ++ b) = textOf a ++ textOf b := by
  simp [textOf]

@[simp] theorem textOf_items (w : List Char) : textOf (items w) = w := by
  fun_induction items w with
  | case1 => rfl
  | case2 c rest ih => simp [Item.text, ih]
  | case3 c rest _ ih => simp [Item.text, ih]

theorem Item.text_ne_nil (i : Item) : i.text ≠ [] := by cases i <;> simp [Item.text]

theorem textOf_eq_nil {l : List Item} : textOf l = [] ↔ l = [] := by
  cases l with
  | nil => simp
  | cons i l => simp [i.text_ne_nil]

theorem items_eq_nil {w : List Char} : items w = [] ↔ w = [] := by
  rw [← textOf_eq_nil, textOf_items]

theorem items_bare {c : Char} (hc : c ≠ '\\') (w : List Char) :
    items (c :: w) = .bare c :: items w := by
  rw [items]
  intro d rest h
  exact absurd h hc

/-- A bare backslash stands only at the end. -/
def Proper : List Item → Prop
  | [] => True
  | i :: l => (i = .bare '\\' → l = []) ∧ Proper l

/-- Induction on proper lists: a bare backslash is met only as the whole rest. -/
@[elab_as_elim]
theorem proper_induction {motive : (l : List Item) → Proper l → Prop}
    (nil : motive [] trivial) (stray : motive [.bare '\\'] ⟨fun _ => rfl, trivial⟩)
    (pair : ∀ c l (h : Proper l), motive l h → motive (.pair c :: l) ⟨nofun, h⟩)
    (bare : ∀ c l (hc : c ≠ '\\') (h : Proper l), motive l h →
      motive (.bare c :: l) ⟨fun he => absurd (Item.bare.inj he) hc, h⟩)
    (l : List Item) (h : Proper l) : motive l h := by
  induction l with
  | nil => exact nil
  | cons i l ih =>
    cases i with
    | pair c => exact pair c l h.2 (ih h.2)
    | bare c =>
      by_cases hc : c = '\\'
      · subst hc
        obtain rfl := h.1 rfl
        exact stray
      · exact bare c l hc h.2 (ih h.2)

theorem proper_of_not_mem {l : List Item} (h : .bare '\\' ∉ l) : Proper l := by
  induction l with
  | nil => trivial
  | cons i l ih =>
    rw [List.mem_cons, not_or] at h
    exact ⟨fun hi => absurd hi.symm h.1, ih h.2⟩

theorem proper_append {a b : List Item} :
    Proper (a ++ b) ↔ Proper a ∧ Proper b ∧ (b ≠ [] → .bare '\\' ∉ a) := by
  induction a with
  | nil => simp [Proper]
  | cons i a ih =>
    simp only [List.cons_append, Proper, ih, List.append_eq_nil_iff, List.mem_cons, not_or]
    constructor
    · rintro ⟨hi, ha, hb, hab⟩
      exact ⟨⟨fun h => (hi h).1, ha⟩, hb, fun hne => ⟨fun h => hne (hi h.symm).2, hab hne⟩⟩
    · rintro ⟨⟨hi, ha⟩, hb, hab⟩
      refine ⟨fun h => ⟨hi h, ?_⟩, ha, hb, fun hne => (hab hne).2⟩
      cases b with
      | nil => rfl
      | cons j b => exact absurd h.symm (hab (by simp)).1

theorem proper_of_isInfix {a b : List Item} (h : a <:+: b) (hb : Proper b) : Proper a := by
  obtain ⟨s, t, rfl⟩ := h
  exact (proper_append.mp (proper_append.mp hb).1).2.1

/-- Leaving items out leaves a bare backslash at the end, if it stays. -/
theorem proper_of_sublist {a b : List Item} (h : a.Sublist b) (hb : Proper b) : Proper a := by
  induction h with
  | slnil => trivial
  | cons i _ ih => exact ih hb.2
  | cons_cons i h ih =>
    refine ⟨fun hi => ?_, ih hb.2⟩
    rw [hb.1 hi] at h
    exact List.sublist_nil.mp h

theorem proper_items (w : List Char) : Proper (items w) := by
  fun_induction items w with
  | case1 => trivial
  | case2 c rest ih => exact ⟨by simp, ih⟩
  | case3 c rest hc ih =>
    refine ⟨fun h => ?_, ih⟩
    cases rest with
    | nil => rfl
    | cons d rest =>
      obtain rfl : c = '\\' := by simpa using h
      exact (hc d rest rfl rfl).elim

theorem items_textOf {l : List Item} (h : Proper l) : items (textOf l) = l := by
  induction l, h using proper_induction with
  | nil => rfl
  | stray => rfl
  | pair c l _ ih => simp [Item.text, items, ih]
  | bare c l hc _ ih =>
    rw [textOf_cons, Item.text, List.singleton_append, items_bare hc, ih]

/-- Every text is that of a proper list of items. -/
theorem exists_proper (w : List Char) : ∃ l, Proper l ∧ textOf l = w :=
  ⟨items w, proper_items w, textOf_items w⟩

/-! ## Dropping the backslashes -/

/-- The text of an item without its backslash. One that protects nothing goes as well. -/
def Item.plain : Item → List Char
  | bare c => if c = '\\' then [] else [c]
  | pair c => [c]

/-- The text of a list of items without their backslashes. -/
def plainOf (l : List Item) : List Char := l.flatMap Item.plain

@[simp] theorem plainOf_nil : plainOf [] = [] := rfl

@[simp] theorem plainOf_cons (i : Item) (l : List Item) :
    plainOf (i :: l) = i.plain ++ plainOf l := rfl

theorem Item.plain_bare {c : Char} (hc : c ≠ '\\') : (bare c).plain = [c] := if_neg hc

theorem unescape_bare {c : Char} (hc : c ≠ '\\') (w : List Char) :
    unescape (c :: w) = c :: unescape w := by
  rw [unescape] <;> intros <;> exact absurd ‹_› hc

theorem unescape_textOf {l : List Item} (h : Proper l) : unescape (textOf l) = plainOf l := by
  induction l, h using proper_induction with
  | nil => rfl
  | stray => rfl
  | pair c l _ ih => simp [Item.text, Item.plain, unescape, ih]
  | bare c l hc _ ih => simp [Item.text, Item.plain, unescape_bare hc, hc, ih]

theorem unescape_eq_plainOf (w : List Char) : unescape w = plainOf (items w) := by
  rw [← unescape_textOf (proper_items w), textOf_items]

/-! ## Dangling texts -/

theorem stray_mem_items_concat (w : List Char) (c : Char) :
    .bare '\\' ∈ items (w ++ [c]) ↔ c = '\\' ∧ .bare '\\' ∉ items w := by
  fun_induction items w with
  | case1 =>
    by_cases hc : c = '\\'
    · simp [hc, items]
    · simp [items_bare hc, items, hc, Ne.symm hc]
  | case2 d rest ih => simp [items, ih]
  | case3 d rest hd ih =>
    by_cases h : d = '\\'
    · -- the only character of `w` is a backslash, which protects `c`
      subst h
      cases rest with
      | nil => simp [items]
      | cons e rest => exact (hd e rest rfl rfl).elim
    · simp [items_bare h, ih, Ne.symm h]

theorem dangles_concat (w : List Char) (c : Char) :
    Dangles (w ++ [c]) ↔ c = '\\' ∧ ¬ Dangles w := by
  unfold Dangles
  rw [List.reverse_append, List.reverse_singleton, List.singleton_append]
  by_cases hc : c = '\\'
  · simp only [hc, List.takeWhile_cons, beq_self_eq_true, if_true, List.length_cons, true_and]
    omega
  · simp [hc]

theorem not_dangles_nil : ¬ Dangles [] := by decide

/-- A text dangles exactly if it has a bare backslash, which is then its end. -/
theorem dangles_iff (w : List Char) : Dangles w ↔ .bare '\\' ∈ items w := by
  rw [← List.reverse_reverse w]
  induction w.reverse with
  | nil => simp [items, not_dangles_nil]
  | cons c v ih => rw [List.reverse_cons, dangles_concat, stray_mem_items_concat, ih]

theorem items_append {a : List Char} (ha : ¬ Dangles a) (b : List Char) :
    items (a ++ b) = items a ++ items b := by
  have hproper : Proper (items a ++ items b) := by
    rw [proper_append]
    exact ⟨proper_items a, proper_items b, fun _ h => ha ((dangles_iff a).mpr h)⟩
  have htext : a ++ b = textOf (items a ++ items b) := by simp
  rw [htext, items_textOf hproper]

theorem unescape_append {a : List Char} (ha : ¬ Dangles a) (b : List Char) :
    unescape (a ++ b) = unescape a ++ unescape b := by
  simp only [unescape_eq_plainOf, items_append ha, plainOf, List.flatMap_append]

/-- A text that dangles protects the next character with its bare backslash. -/
theorem items_append_of_dangles {w : List Char} (h : Dangles w) :
    ∃ a, .bare '\\' ∉ a ∧ items w = a ++ [.bare '\\'] ∧
      ∀ c rest, items (w ++ c :: rest) = a ++ .pair c :: items rest := by
  obtain ⟨a, b, hw⟩ := List.append_of_mem ((dangles_iff w).mp h)
  have hp := proper_append.mp (hw ▸ proper_items w)
  obtain rfl : b = [] := hp.2.1.1 rfl
  have ha : .bare '\\' ∉ a := hp.2.2 (List.cons_ne_nil _ _)
  refine ⟨a, ha, hw, fun c rest => ?_⟩
  have hproper : Proper (a ++ .pair c :: items rest) :=
    proper_append.mpr ⟨hp.1, ⟨nofun, proper_items rest⟩, fun _ => ha⟩
  have htext : w ++ c :: rest = textOf (a ++ .pair c :: items rest) := by
    rw [← textOf_items w, hw]
    simp [Item.text]
  rw [htext, items_textOf hproper]

end UrlTemplate.Escape
