import UrlTemplate.Proofs.Text.Items

/-!
# Cutting lists of items

The cuts of a list of items at the bare places of one character: what stands before
and after the first of them (`beforeBare`, `afterBare`), and the parts between them
that are not empty (`pieces`). Protected characters never cut.

* `beforeBare_append`, `afterBare_append`: a part without such a place is passed over.
* `beforeBare_append_afterBare`: the parts around the first such place make up the list.
* `mem_pieces`: a piece is a part of the list, not empty and without such a place.
* `pieces_intercalate`: joining such parts and cutting again gives the parts.
* `map_textOf_pieces`: the texts of the pieces, gathered from left to right.
-/

namespace UrlTemplate.Escape

/-- The items before the first bare `d`, or all of them. -/
def beforeBare (d : Char) (l : List Item) : List Item := l.takeWhile (· != .bare d)

/-- The items after the first bare `d`, or none. -/
def afterBare (d : Char) (l : List Item) : List Item := (l.dropWhile (· != .bare d)).tail

/-- The non-empty parts between the bare `d`s. -/
def pieces (d : Char) (l : List Item) : List (List Item) :=
  (l.splitOn (.bare d)).filter (!·.isEmpty)

/-! ## The first cut -/

@[simp] theorem beforeBare_nil (d : Char) : beforeBare d [] = [] := rfl

@[simp] theorem afterBare_nil (d : Char) : afterBare d [] = [] := rfl

theorem beforeBare_cons (d : Char) (i : Item) (l : List Item) :
    beforeBare d (i :: l) = if i = .bare d then [] else i :: beforeBare d l := by
  by_cases h : i = .bare d <;> simp [beforeBare, h]

theorem afterBare_cons (d : Char) (i : Item) (l : List Item) :
    afterBare d (i :: l) = if i = .bare d then l else afterBare d l := by
  by_cases h : i = .bare d <;> simp [afterBare, h]

theorem not_mem_beforeBare (d : Char) (l : List Item) : .bare d ∉ beforeBare d l := by
  induction l with
  | nil => simp
  | cons i l ih =>
    rw [beforeBare_cons]
    split
    · simp
    · rename_i hi
      rw [List.mem_cons, not_or]
      exact ⟨Ne.symm hi, ih⟩

theorem beforeBare_isPrefix (d : Char) (l : List Item) : beforeBare d l <+: l :=
  List.takeWhile_prefix _

theorem afterBare_isSuffix (d : Char) (l : List Item) : afterBare d l <:+ l :=
  (List.tail_suffix _).trans (List.dropWhile_suffix _)

theorem beforeBare_append {d : Char} {a : List Item} (h : .bare d ∉ a) (b : List Item) :
    beforeBare d (a ++ b) = a ++ beforeBare d b := by
  refine List.takeWhile_append_of_pos fun i hi => ?_
  rw [bne_iff_ne]
  rintro rfl
  exact h hi

theorem afterBare_append {d : Char} {a : List Item} (h : .bare d ∉ a) (b : List Item) :
    afterBare d (a ++ b) = afterBare d b := by
  unfold afterBare
  rw [List.dropWhile_append_of_pos]
  intro i hi
  rw [bne_iff_ne]
  rintro rfl
  exact h hi

theorem beforeBare_append_afterBare {d : Char} {l : List Item} (h : .bare d ∈ l) :
    l = beforeBare d l ++ .bare d :: afterBare d l := by
  induction l with
  | nil => cases h
  | cons i l ih =>
    rw [beforeBare_cons, afterBare_cons]
    by_cases hi : i = .bare d
    · simp [hi]
    · have hl : .bare d ∈ l := (List.mem_cons.mp h).resolve_left (Ne.symm hi)
      rw [if_neg hi, if_neg hi, List.cons_append, ← ih hl]

/-- The first cut keeps the items, but for the cutting one if nothing follows it. -/
theorem cut_sublist (d : Char) (l : List Item) :
    (beforeBare d l ++ if afterBare d l = [] then [] else .bare d :: afterBare d l).Sublist l := by
  induction l with
  | nil => simp
  | cons i l ih =>
    rw [beforeBare_cons, afterBare_cons]
    by_cases hi : i = .bare d
    · rw [if_pos hi, if_pos hi]
      split
      · simp
      · simp [hi]
    · rw [if_neg hi, if_neg hi]
      exact ih.cons_cons i

/-! ## Pieces -/

theorem mem_splitOn {x : Item} {l p : List Item} (h : p ∈ l.splitOn x) : x ∉ p ∧ p <:+: l := by
  induction l generalizing p with
  | nil =>
    obtain rfl : p = [] := by simpa using h
    simp
  | cons i l ih =>
    rw [List.splitOn_cons_eq_if_modifyHead] at h
    split at h
    · rcases List.mem_cons.mp h with rfl | h
      · simp
      · exact ⟨(ih h).1, (ih h).2.trans (List.suffix_cons _ _).isInfix⟩
    · rename_i hi
      cases hs : l.splitOn x with
      | nil => exact absurd hs (List.splitOn_ne_nil _ _)
      | cons q qs =>
        rw [hs, List.modifyHead_cons] at h
        rcases List.mem_cons.mp h with rfl | h
        · -- the first part grows by `i` and stays at the front of the list
          have hq : [x].intercalate (q :: qs) = l := hs ▸ List.intercalate_splitOn x
          have hpre : q <+: l := by
            rw [← hq]
            cases qs with
            | nil => simp
            | cons r qs => simp [List.intercalate_cons_cons]
          have hx : x ∉ q := (ih (hs ▸ List.mem_cons_self)).1
          refine ⟨?_, (List.cons_prefix_cons.mpr ⟨rfl, hpre⟩).isInfix⟩
          rw [List.mem_cons, not_or]
          exact ⟨fun he => hi (by simp [he]), hx⟩
        · have := ih (hs ▸ List.mem_cons_of_mem _ h)
          exact ⟨this.1, this.2.trans (List.suffix_cons _ _).isInfix⟩

theorem mem_pieces {d : Char} {l p : List Item} (h : p ∈ pieces d l) :
    p ≠ [] ∧ .bare d ∉ p ∧ p <:+: l := by
  obtain ⟨hs, hne⟩ := List.mem_filter.mp h
  exact ⟨by simpa using hne, mem_splitOn hs⟩

@[simp] theorem pieces_nil (d : Char) : pieces d [] = [] := rfl

theorem pieces_cons_bare (d : Char) (l : List Item) : pieces d (.bare d :: l) = pieces d l := by
  simp [pieces, List.splitOn_cons_eq_if_modifyHead]

theorem pieces_append_bare (d : Char) (a b : List Item) :
    pieces d (a ++ .bare d :: b) = pieces d a ++ pieces d b := by
  rw [pieces, List.splitOn_append_cons_self, List.filter_append]
  rfl

theorem intercalate_singleton_cons (x : Item) (a : List Item) (l : List (List Item)) :
    [x].intercalate (a :: l) = a ++ l.flatMap (x :: ·) := by
  induction l generalizing a with
  | nil => simp
  | cons b l ih => simp [List.intercalate_cons_cons, ih]

theorem pieces_intercalate {d : Char} {ps : List (List Item)}
    (h : ∀ p ∈ ps, p ≠ [] ∧ .bare d ∉ p) : pieces d ([.bare d].intercalate ps) = ps := by
  cases ps with
  | nil => rfl
  | cons p ps =>
    rw [pieces, List.splitOn_intercalate _ (fun q hq => (h q hq).2) (List.cons_ne_nil _ _),
      List.filter_eq_self]
    intro q hq
    simpa using (h q hq).1

theorem flatMap_filter_sublist (x : Item) (qs : List (List Item)) :
    ((qs.filter (!·.isEmpty)).flatMap (x :: ·)).Sublist (qs.flatMap (x :: ·)) := by
  induction qs with
  | nil => simp
  | cons q qs ih =>
    rw [List.filter_cons]
    split
    · exact (List.Sublist.refl (x :: q)).append ih
    · exact ih.trans (List.sublist_append_right _ _)

/-- Joining the pieces of a list again only takes cutting items out of it, also if the one
at its start stays. -/
theorem intercalate_pieces_sublist (d : Char) (l : List Item) :
    ((if l.head? = some (Item.bare d) then [Item.bare d] else []) ++
      [Item.bare d].intercalate (pieces d l)).Sublist l := by
  have hjoin : [Item.bare d].intercalate (l.splitOn (.bare d)) = l := List.intercalate_splitOn _
  cases hs : l.splitOn (.bare d) with
  | nil => exact absurd hs (List.splitOn_ne_nil _ _)
  | cons q qs =>
    have hrest := flatMap_filter_sublist (.bare d) qs
    have hd : .bare d ∉ q := (mem_splitOn (hs ▸ List.mem_cons_self)).1
    rw [hs, intercalate_singleton_cons] at hjoin
    rw [pieces, hs, ← hjoin]
    cases q with
    | nil =>
      cases hr : qs.filter (!·.isEmpty) with
      | nil => cases qs <;> simp [hr]
      | cons r rs =>
        rw [hr] at hrest
        cases qs with
        | nil => cases hr
        | cons q qs => simpa [hr, intercalate_singleton_cons] using hrest
    | cons i q =>
      have hi : i ≠ .bare d := fun he => hd (by simp [he])
      simpa [hi, intercalate_singleton_cons] using hrest

/-- The text as a list of one, or of none if it is empty. -/
def nonEmpty (w : List Char) : List (List Char) := if w = [] then [] else [w]

/-- The texts of the pieces, when the text `w` stands before the first of them. -/
def piecesFrom (d : Char) : List Char → List Item → List (List Char)
  | w, [] => nonEmpty w
  | w, i :: l =>
    if i = .bare d then nonEmpty w ++ piecesFrom d [] l else piecesFrom d (w ++ i.text) l

@[simp] theorem nonEmpty_nil : nonEmpty [] = [] := rfl

theorem piecesFrom_ne_nil {d : Char} {w : List Char} (hw : w ≠ []) (l : List Item) :
    piecesFrom d w l ≠ [] := by
  induction l generalizing w with
  | nil => simp [piecesFrom, nonEmpty, hw]
  | cons i l ih =>
    rw [piecesFrom]
    split
    · simp [nonEmpty, hw]
    · exact ih (by simp [hw])

theorem piecesFrom_cons_ne_nil {d : Char} {i : Item} (hi : i ≠ .bare d) (l : List Item) :
    piecesFrom d [] (i :: l) ≠ [] := by
  rw [piecesFrom, if_neg hi]
  exact piecesFrom_ne_nil (by simp [i.text_ne_nil]) l

theorem piecesFrom_textOf (d : Char) (a l : List Item) :
    piecesFrom d (textOf a) l =
      (((l.splitOn (.bare d)).modifyHead (a ++ ·)).filter (!·.isEmpty)).map textOf := by
  induction l generalizing a with
  | nil => by_cases ha : a = [] <;> simp [piecesFrom, nonEmpty, textOf_eq_nil, ha]
  | cons i l ih =>
    rw [piecesFrom, List.splitOn_cons_eq_if_modifyHead]
    by_cases hi : i = .bare d
    · have hl := ih []
      rw [textOf_nil] at hl
      have hid : (l.splitOn (.bare d)).modifyHead ([] ++ ·) = l.splitOn (.bare d) := by
        cases l.splitOn (.bare d) <;> simp
      rw [if_pos hi, hl, hid, if_pos (by simpa using hi)]
      by_cases ha : a = [] <;> simp [nonEmpty, textOf_eq_nil, ha]
    · have ha : textOf a ++ i.text = textOf (a ++ [i]) := by simp
      rw [if_neg hi, ha, ih, if_neg (by simpa using hi), List.modifyHead_modifyHead]
      congr 3
      funext p
      simp

theorem map_textOf_pieces (d : Char) (l : List Item) :
    (pieces d l).map textOf = piecesFrom d [] l := by
  have h := piecesFrom_textOf d [] l
  rw [textOf_nil] at h
  rw [h, pieces]
  cases l.splitOn (.bare d) <;> simp

/-- A list without pieces starts with a cutting item, if it is not empty. -/
theorem head?_of_pieces_eq_nil {d : Char} {l : List Item} (h : pieces d l = []) (hl : l ≠ []) :
    l.head? = some (.bare d) := by
  obtain ⟨i, r, rfl⟩ := List.exists_cons_of_ne_nil hl
  by_cases hi : i = .bare d
  · rw [hi, List.head?_cons]
  · have hp := map_textOf_pieces d (i :: r)
    rw [h] at hp
    exact absurd hp.symm (piecesFrom_cons_ne_nil hi r)

end UrlTemplate.Escape
