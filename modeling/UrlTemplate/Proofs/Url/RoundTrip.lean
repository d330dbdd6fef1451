import UrlTemplate.Proofs.Url.Written

/-!
# Reading and writing URLs

Reading gives canonical tokens, whatever the text, and canonical tokens are read back from
what they are written as. Only a backslash that protects nothing can come in between: at
the end of a text it would protect the delimiter behind it.

* `canonical_ofText`: what a text says is a canonical form.
* `not_dangles_of_mem_read`: if the text does not dangle, none of its tokens does.
* `Form.Canonical.read_write`: canonical forms are read back.
* `read_write_canonical`: reading is onto the canonical tokens, and writing is its inverse.
-/

namespace UrlTemplate.Url

open Escape

/-! ## What a text says -/

/-- The texts of pieces are not empty, are not cut, and are parts of what was cut. -/
theorem mem_map_pieces {d : Char} {l : List Item} (hl : Proper l) {t : List Char}
    (h : t ∈ (pieces d l).map textOf) : t ≠ [] ∧ .bare d ∉ items t ∧ items t <:+: l := by
  obtain ⟨p, hp, rfl⟩ := List.mem_map.mp h
  obtain ⟨hne, hd, hi⟩ := mem_pieces hp
  rw [items_textOf (proper_of_isInfix hi hl)]
  exact ⟨mt textOf_eq_nil.mp hne, hd, hi⟩

theorem beforeBare_cutOrigin_suffix (l : List Item) :
    beforeBare '#' (cutOrigin l).2 <:+ beforeBare '#' l := by
  obtain ⟨a, ha, hh⟩ := cutOrigin_eq l
  refine ⟨a, ?_⟩
  rw [← beforeBare_append hh, ← ha]

theorem pathPart_isInfix (l : List Item) : pathPart (cutOrigin l).2 <:+: beforeBare '#' l :=
  (beforeBare_isPrefix '?' _).isInfix.trans (beforeBare_cutOrigin_suffix l).isInfix

theorem queryPart_isInfix (l : List Item) : queryPart (cutOrigin l).2 <:+: beforeBare '#' l :=
  (afterBare_isSuffix '?' _).isInfix.trans (beforeBare_cutOrigin_suffix l).isInfix

/-- The scheme and the authority are parts of the text that hold no stops. -/
theorem mem_cutOrigin {l : List Item} (hl : Proper l) {o : Origin} (ho : o ∈ (cutOrigin l).1) :
    (∀ i ∈ items o.scheme, isStop i = false) ∧ items o.scheme <:+: l ∧
      (∀ i ∈ items o.authority, isStop i = false) ∧ items o.authority <:+: l := by
  unfold cutOrigin at ho
  cases h : cutScheme l with
  | none => simp [h] at ho
  | some cut =>
    obtain ⟨scheme, rest⟩ := cut
    rw [h] at ho
    obtain rfl := Option.mem_some_iff.mp ho
    obtain ⟨rfl, hs⟩ := cutScheme_eq_some_iff.mp h
    have hscheme : scheme <:+: scheme ++ .bare ':' :: .bare '/' :: .bare '/' :: rest :=
      (List.prefix_append _ _).isInfix
    have hrest : rest <:+ scheme ++ .bare ':' :: .bare '/' :: .bare '/' :: rest :=
      ⟨scheme ++ [.bare ':', .bare '/', .bare '/'], by simp⟩
    have hauthority := (List.takeWhile_prefix (!isStop ·)).isInfix.trans hrest.isInfix
    refine ⟨?_, ?_, ?_, ?_⟩
    · rwa [items_textOf (proper_of_isInfix hscheme hl)]
    · rwa [items_textOf (proper_of_isInfix hscheme hl)]
    · rw [items_textOf (proper_of_isInfix hauthority hl)]
      simpa using List.all_eq_true.mp (List.all_takeWhile (l := rest) (p := (!isStop ·)))
    · rwa [items_textOf (proper_of_isInfix hauthority hl)]

theorem clear_of_not_isStop {text : List Char} (h : ∀ i ∈ items text, isStop i = false) :
    Clear ['/', '?', '#'] text := by
  intro d hd hm
  have hstop := h _ hm
  simp only [List.mem_cons, List.not_mem_nil, or_false] at hd
  obtain rfl | rfl | rfl := hd <;> exact absurd hstop (by decide)

variable (text : List Char)

theorem ofText_eq :
    Form.ofText text =
      (Form.ofParts (cutOrigin (items text)).1 (pathPart (cutOrigin (items text)).2)
        (queryPart (cutOrigin (items text)).2) (afterBare '#' (items text))).sorted := by
  rw [Form.ofText, Form.ofItems, cutOrigin_beforeBare]
  rfl

theorem mem_origin_ofText {o : Origin} (h : o ∈ (Form.ofText text).origin) :
    o ∈ (cutOrigin (items text)).1 := by
  rwa [ofText_eq] at h

theorem mem_segments_ofText {t : List Char} (h : t ∈ (Form.ofText text).segments) :
    t ≠ [] ∧ Clear ['/', '?', '#'] t ∧ items t <:+: items text := by
  rw [ofText_eq] at h
  have hin := pathPart_isInfix (items text)
  have hall := hin.trans (beforeBare_isPrefix '#' _).isInfix
  obtain ⟨hne, hslash, ht⟩ := mem_map_pieces (proper_of_isInfix hall (proper_items text)) h
  refine ⟨hne, ?_, ht.trans hall⟩
  intro d hd hm
  simp only [List.mem_cons, List.not_mem_nil, or_false] at hd
  obtain rfl | rfl | rfl := hd
  · exact hslash hm
  · exact not_mem_beforeBare '?' _ (ht.subset hm)
  · exact not_mem_beforeBare '#' _ (hin.subset (ht.subset hm))

theorem mem_params_ofText {p : Param} (h : p ∈ (Form.ofText text).params) :
    p.raw ≠ [] ∧ p = .ofRaw p.raw ∧ Clear ['&', '#'] p.raw ∧ items p.raw <:+: items text := by
  rw [ofText_eq] at h
  have h := List.mem_mergeSort.mp h
  obtain ⟨q, hq, rfl⟩ := List.mem_map.mp h
  have hin := queryPart_isInfix (items text)
  have hall := hin.trans (beforeBare_isPrefix '#' _).isInfix
  obtain ⟨hne, hamp, ht⟩ := mem_map_pieces (proper_of_isInfix hall (proper_items text))
    (List.mem_map_of_mem hq)
  rw [Param.raw_ofRaw]
  refine ⟨hne, rfl, ?_, ht.trans hall⟩
  intro d hd hm
  simp only [List.mem_cons, List.not_mem_nil, or_false] at hd
  obtain rfl | rfl := hd
  · exact hamp hm
  · exact not_mem_beforeBare '#' _ (hin.subset (ht.subset hm))

theorem mem_fragment_ofText {t : List Char} (h : t ∈ (Form.ofText text).fragment) :
    t ≠ [] ∧ items t <:+: items text := by
  rw [ofText_eq] at h
  have hsuf := (afterBare_isSuffix '#' (items text)).isInfix
  simp only [Form.sorted, Form.ofParts] at h
  split at h
  · cases h
  · rename_i hne
    obtain rfl := Option.mem_some_iff.mp h
    rw [items_textOf (proper_of_isInfix hsuf (proper_items text))]
    exact ⟨mt textOf_eq_nil.mp hne, hsuf⟩

/-- Behind an authority, a path that is not rooted is empty, and not all there is. -/
theorem rooted_ofText (h : (Form.ofText text).origin.isSome) :
    (Form.ofText text).rooted ∨ (Form.ofText text).segments = [] ∧
      ((Form.ofText text).params ≠ [] ∨ (Form.ofText text).fragment.isSome) := by
  rw [ofText_eq] at h ⊢
  have hmerge : ∀ ps : List Param, ps.mergeSort Param.le = [] ↔ ps = [] := fun ps => by
    rw [← List.length_eq_zero_iff, List.length_mergeSort, List.length_eq_zero_iff]
  have hp := pathPart_cutOrigin h
  generalize pathPart (cutOrigin (items text)).2 = path at *
  rcases hp with rfl | hp
  · by_cases hf : afterBare '#' (items text) = []
    · by_cases hq : pieces '&' (queryPart (cutOrigin (items text)).2) = []
      · exact .inl (by simpa [Form.sorted, Form.ofParts, hf, hq] using h)
      · exact .inr (by simp [Form.sorted, Form.ofParts, hmerge, hq])
    · exact .inr (by simp [Form.sorted, Form.ofParts, hf])
  · have hne : path ≠ [] := by
      rintro rfl
      cases hp
    exact .inl (by simp [Form.sorted, Form.ofParts, hp, hne])

/-- What a text says is a canonical form. -/
theorem canonical_ofText : (Form.ofText text).Canonical := by
  refine ⟨⟨?_, ?_, ?_, ?_, ?_⟩, ?_, ?_⟩
  · intro o ho
    obtain ⟨hs, -, ha, -⟩ := mem_cutOrigin (proper_items text) (mem_origin_ofText text ho)
    exact ⟨clear_of_not_isStop hs, clear_of_not_isStop ha⟩
  · exact fun h => (rooted_ofText text h).imp_right And.left
  · intro t ht
    obtain ⟨hne, hc, -⟩ := mem_segments_ofText text ht
    exact ⟨hne, hc⟩
  · intro p hp
    obtain ⟨hne, he, hc, -⟩ := mem_params_ofText text hp
    exact ⟨hne, he, hc⟩
  · exact fun t ht => (mem_fragment_ofText text ht).1
  · exact fun h => (rooted_ofText text h).imp_right And.right
  · rw [ofText_eq]
    exact Param.isLinear_le.pairwise_mergeSort _

/-! ## Texts that do not dangle -/

/-- None of the texts of the form dangles. -/
structure Form.Firm (f : Form) : Prop where
  origin : ∀ o ∈ f.origin, ¬ Dangles o.scheme ∧ ¬ Dangles o.authority
  segments : ∀ t ∈ f.segments, ¬ Dangles t
  params : ∀ p ∈ f.params, ¬ Dangles p.raw
  fragment : ∀ t ∈ f.fragment, ¬ Dangles t

theorem Form.Firm.not_mem {f : Form} (hf : f.Firm) : .bare '\\' ∉ itemsOf f.tokens := by
  have ho : .bare '\\' ∉ originItems f.origin :=
    (not_mem_originItems (by decide) (by decide)).mpr fun o h => by
      simpa [dangles_iff] using hf.origin o h
  have hp : .bare '\\' ∉ pathItems f.rooted f.segments :=
    (not_mem_pathItems (by decide)).mpr fun t h => by
      simpa [dangles_iff] using hf.segments t h
  have hq : .bare '\\' ∉ queryItems f.params :=
    (not_mem_queryItems (by decide) (by decide)).mpr fun p h => by
      simpa [dangles_iff] using hf.params p h
  have ht : .bare '\\' ∉ fragmentItems f.fragment := by
    cases h : f.fragment with
    | none => simp [fragmentItems]
    | some t => simpa [fragmentItems, dangles_iff] using hf.fragment t (by simp [h])
  rw [f.itemsOf_tokens]
  simp [ho, hp, hq, ht]

theorem Form.Firm.proper {f : Form} (hf : f.Firm) : Proper (itemsOf f.tokens) :=
  proper_of_not_mem hf.not_mem

theorem not_dangles_of_isInfix {text t : List Char} (h : ¬ Dangles text)
    (ht : items t <:+: items text) : ¬ Dangles t := by
  rw [dangles_iff] at h ⊢
  exact fun hm => h (ht.subset hm)

/-- If a text does not dangle, then nothing dangles in what it says. -/
theorem firm_ofText {text : List Char} (h : ¬ Dangles text) : (Form.ofText text).Firm := by
  refine ⟨?_, ?_, ?_, ?_⟩
  · intro o ho
    obtain ⟨-, hs, -, ha⟩ := mem_cutOrigin (proper_items text) (mem_origin_ofText text ho)
    exact ⟨not_dangles_of_isInfix h hs, not_dangles_of_isInfix h ha⟩
  · intro t ht
    exact not_dangles_of_isInfix h (mem_segments_ofText text ht).2.2
  · intro p hp
    exact not_dangles_of_isInfix h (mem_params_ofText text hp).2.2.2
  · intro t ht
    exact not_dangles_of_isInfix h (mem_fragment_ofText text ht).2

/-! ## Round trips -/

/-- A canonical form is settled. -/
theorem Form.Canonical.settled_eq {f : Form} (hf : f.Canonical) : f.settled = f := by
  have hroot : (f.rooted ∨ (f.origin.isSome ∧ f.segments = [] ∧ f.params = [] ∧
      f.fragment = none)) ↔ f.rooted := by
    refine ⟨?_, .inl⟩
    rintro (h | ⟨ho, -, hp, ht⟩)
    · exact h
    · simpa [hp, ht] using hf.root ho
  simp [settled, Form.sorted_eq hf.sorted, hroot]

theorem Form.Canonical.read_write {f : Form} (hf : f.Canonical)
    (hp : Proper (itemsOf f.tokens)) : read (write f.tokens) = f.tokens := by
  rw [read_write_tokens hf.toReadable hp, hf.settled_eq]

/-- Reading gives canonical tokens. Canonical tokens of which none dangles are read back
from what they are written as, and so are those of a text that does not dangle. -/
theorem read_write_canonical :
    (∀ text, Canonical (read text)) ∧
    (∀ ts, Canonical ts → (∀ t ∈ ts, ¬ Dangles t.text) → read (write ts) = ts) ∧
    (∀ text, ¬ Dangles text → read (write (read text)) = read text) := by
  refine ⟨?_, ?_, ?_⟩
  · intro text
    exact ⟨Form.ofText text, canonical_ofText text, read_eq_ofText text⟩
  · rintro ts ⟨f, hf, rfl⟩ hd
    exact hf.read_write (proper_itemsOf hd)
  · intro text h
    rw [read_eq_ofText text]
    exact (canonical_ofText text).read_write (firm_ofText h).proper

/-- A URL with every part, and with delimiters that are escaped or belong to the fragment. -/
theorem read_write_canonical_rooted :
    let ts : List Token := [.scheme ['s'], .schemeSeparator, .authority ['h'],
      .path .separator, .path (.segment "a\\/b".toList), .querySeparator,
      .param (.ofRaw ['x']), .paramSeparator, .param (.ofRaw "y=1".toList),
      .fragmentSeparator, .fragment "f#".toList, .finish]
    Canonical ts ∧ (∀ t ∈ ts, ¬ Dangles t.text) ∧ read (write ts) = ts := by
  intro ts
  let f : Form :=
    { origin := some { scheme := ['s'], authority := ['h'] }
      rooted := true
      segments := ["a\\/b".toList]
      params := [.ofRaw ['x'], .ofRaw "y=1".toList]
      fragment := some "f#".toList }
  have hc : Canonical ts := ⟨f, by decide, rfl⟩
  have hd : ∀ t ∈ ts, ¬ Dangles t.text := by decide
  exact ⟨hc, hd, read_write_canonical.2.1 ts hc hd⟩

end UrlTemplate.Url
