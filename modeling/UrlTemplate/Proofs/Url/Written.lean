import UrlTemplate.Proofs.Url.Reading

/-!
# Reading what has been written

The items of a written form are those of its tokens, one after the other, as long as no
text but the last one dangles. Cutting them again gives the form back, with its query
entries sorted and with the root path that an authority alone gets.

* `itemsOf`: the items of a list of tokens.
* `Form.settled`: what becomes of a form that is written and read again.
* `read_write_tokens`: reading a written form settles it.
-/

namespace UrlTemplate.Url

open Escape

/-! ## The items of tokens -/

/-- The items of the texts of tokens, one after the other. -/
def itemsOf (ts : List Token) : List Item := ts.flatMap fun t => items t.text

@[simp] theorem itemsOf_append (a b : List Token) : itemsOf (a ++ b) = itemsOf a ++ itemsOf b := by
  simp [itemsOf]

theorem textOf_itemsOf (ts : List Token) : textOf (itemsOf ts) = write ts := by
  induction ts with
  | nil => rfl
  | cons t ts ih => simpa [itemsOf, write] using ih

theorem proper_itemsOf {ts : List Token} (h : ∀ t ∈ ts, ¬ Dangles t.text) :
    Proper (itemsOf ts) := by
  refine proper_of_not_mem fun hm => ?_
  obtain ⟨t, ht, hi⟩ := List.mem_flatMap.mp hm
  exact h t ht ((dangles_iff t.text).mpr hi)

/-- The items of an origin. -/
def originItems : Option Origin → List Item
  | none => []
  | some o => items o.scheme ++ .bare ':' :: .bare '/' :: .bare '/' :: items o.authority

/-- The items of a path. -/
def pathItems (rooted : Bool) (segments : List (List Char)) : List Item :=
  (if rooted then [.bare '/'] else []) ++ [.bare '/'].intercalate (segments.map items)

/-- The items of a query. -/
def queryItems (params : List Param) : List Item :=
  if params = [] then []
  else .bare '?' :: [.bare '&'].intercalate (params.map fun p => items p.raw)

/-- The items of a fragment. -/
def fragmentItems : Option (List Char) → List Item
  | none => []
  | some text => .bare '#' :: items text

theorem itemsOf_originTokens (o : Option Origin) : itemsOf (originTokens o) = originItems o := by
  cases o with
  | none => rfl
  | some o => simp [itemsOf, originTokens, originItems, Token.text, items]

theorem itemsOf_joinSegments (ts : List (List Char)) :
    itemsOf ((joinSegments ts).map .path) = [.bare '/'].intercalate (ts.map items) := by
  cases ts with
  | nil => rfl
  | cons t ts =>
    rw [List.map_cons, intercalate_singleton_cons]
    simp [joinSegments, followers, itemsOf, Token.text, items, List.flatMap_assoc, List.flatMap_map,
      List.map_flatMap]

theorem itemsOf_pathTokens (rooted : Bool) (segments : List (List Char)) :
    itemsOf ((pathTokens rooted segments).map .path) = pathItems rooted segments := by
  rw [pathTokens, List.map_append, itemsOf_append, itemsOf_joinSegments, pathItems]
  cases rooted <;> rfl

theorem itemsOf_writeParams (ps : List Param) :
    itemsOf (Apply.writeParams ps) = queryItems ps := by
  cases ps with
  | nil => rfl
  | cons p ps =>
    rw [queryItems, if_neg (List.cons_ne_nil _ _), List.map_cons, intercalate_singleton_cons]
    simp [Apply.writeParams, itemsOf, Token.text, items, List.flatMap_assoc, List.flatMap_map]

theorem itemsOf_writeFragment (fragment : Option (List Char)) :
    itemsOf (Apply.writeFragment fragment) = fragmentItems fragment := by
  cases fragment with
  | none => rfl
  | some text => simp [itemsOf, Apply.writeFragment, fragmentItems, Token.text, items]

theorem Form.itemsOf_tokens (f : Form) :
    itemsOf f.tokens = originItems f.origin ++ pathItems f.rooted f.segments ++
      queryItems f.params ++ fragmentItems f.fragment := by
  simp only [tokens, itemsOf_append, itemsOf_originTokens, itemsOf_pathTokens,
    itemsOf_writeParams, itemsOf_writeFragment]
  exact List.append_nil _

/-! ## Cutting them again -/

/-- What becomes of a form that is written and read again: its entries are sorted, and an
authority that stands alone gets the root path. -/
def Form.settled (f : Form) : Form :=
  { f.sorted with
    rooted := f.rooted ∨
      (f.origin.isSome ∧ f.segments = [] ∧ f.params = [] ∧ f.fragment = none) }

theorem settled_authority (o : Origin) :
    (⟨some o, false, [], [], none⟩ : Form).settled = ⟨some o, true, [], [], none⟩ := by
  simp [Form.settled, Form.sorted]

theorem not_mem_intercalate {x y : Item} (hxy : x ≠ y) {ps : List (List Item)} :
    x ∉ [y].intercalate ps ↔ ∀ p ∈ ps, x ∉ p := by
  cases ps with
  | nil => simp [List.intercalate]
  | cons p ps =>
    rw [intercalate_singleton_cons]
    simp [hxy]

theorem not_mem_originItems {d : Char} (hd : d ≠ ':') (hd' : d ≠ '/') {origin : Option Origin} :
    .bare d ∉ originItems origin ↔
      ∀ o ∈ origin, .bare d ∉ items o.scheme ∧ .bare d ∉ items o.authority := by
  cases origin <;> simp [originItems, hd, hd']

theorem not_mem_pathItems {d : Char} (hd : d ≠ '/') {rooted : Bool}
    {segments : List (List Char)} :
    .bare d ∉ pathItems rooted segments ↔ ∀ t ∈ segments, .bare d ∉ items t := by
  have hs : Item.bare d ≠ .bare '/' := fun he => hd (Item.bare.inj he)
  cases rooted <;> simp [pathItems, not_mem_intercalate hs, hs]

theorem not_mem_queryItems {d : Char} (hd : d ≠ '?') (hd' : d ≠ '&') {params : List Param} :
    .bare d ∉ queryItems params ↔ ∀ p ∈ params, .bare d ∉ items p.raw := by
  have hs : Item.bare d ≠ .bare '&' := fun he => hd' (Item.bare.inj he)
  rw [queryItems]
  split
  · simp [*]
  · simp [not_mem_intercalate hs, hd]

/-- No text can go on where these items start. -/
def StopsAt (l : List Item) : Prop := ∀ i ∈ l.head?, isStop i

theorem stopsAt_queryItems (params : List Param) : StopsAt (queryItems params) := by
  rw [queryItems]
  split <;> simp [StopsAt, isStop, isDelimiter]

theorem stopsAt_pathItems {rooted : Bool} {segments : List (List Char)}
    (h : rooted ∨ segments = []) (params : List Param) :
    StopsAt (pathItems rooted segments ++ queryItems params) := by
  cases rooted with
  | true => simp [pathItems, StopsAt, isStop, isDelimiter]
  | false =>
    obtain rfl : segments = [] := by simpa using h
    simpa [pathItems, List.intercalate] using stopsAt_queryItems params

theorem takeWhile_append_of_stopsAt {a b : List Item} (ha : ∀ i ∈ a, isStop i = false)
    (hb : StopsAt b) : (a ++ b).takeWhile (!isStop ·) = a := by
  rw [List.takeWhile_append_of_pos (by simpa using ha)]
  cases b with
  | nil => simp
  | cons i b => simp [hb i rfl]

theorem dropWhile_append_of_stopsAt {a b : List Item} (ha : ∀ i ∈ a, isStop i = false)
    (hb : StopsAt b) : (a ++ b).dropWhile (!isStop ·) = b := by
  rw [List.dropWhile_append_of_pos (by simpa using ha)]
  cases b with
  | nil => simp
  | cons i b => simp [hb i rfl]

/-- No scheme ends where a text without stops is followed by less than two slashes. -/
theorem cutScheme_append_of_stopsAt {a b : List Item} (ha : ∀ i ∈ a, isStop i = false)
    (hb : StopsAt b) (hs : a ≠ [] → ¬ [.bare '/', .bare '/'] <+: b) :
    cutScheme (a ++ b) = none := by
  induction a with
  | nil =>
    cases b with
    | nil => rfl
    | cons i b =>
      have hi : isStop i := hb i rfl
      rw [List.nil_append, cutScheme, if_neg, if_pos hi]
      rintro ⟨rfl, -⟩
      exact absurd hi (by decide)
  | cons i a ih =>
    have hp : ¬ [.bare '/', .bare '/'] <+: a ++ b := by
      intro hp
      cases a with
      | nil => exact hs (by simp) hp
      | cons j a =>
        obtain ⟨r, hr⟩ := slashes_prefix_iff.mp hp
        obtain rfl : j = .bare '/' := (List.cons.inj hr).1
        exact absurd (ha (.bare '/') (by simp)) (by decide)
    have hn := ih (fun j hj => ha j (List.mem_cons_of_mem _ hj)) fun hne => hs (by simp)
    rw [List.cons_append, cutScheme, if_neg (fun h => hp h.2), hn]
    simp

theorem not_isStop_of_clear {text : List Char} (h : Clear ['/', '?', '#'] text) :
    ∀ i ∈ items text, isStop i = false := by
  intro i hi
  cases i with
  | pair c => rfl
  | bare c =>
    by_cases hc : c ∈ ['/', '?', '#']
    · exact absurd hi (h c hc)
    · simpa [isStop, isDelimiter, and_assoc] using hc

/-- The head of a segment or of an authority does not stop. -/
theorem isStop_head?_items {text : List Char} (h : Clear ['/', '?', '#'] text) {i : Item}
    (hi : i ∈ (items text).head?) : isStop i = false :=
  not_isStop_of_clear h i (List.mem_of_mem_head? hi)

theorem cutScheme_segments {segments : List (List Char)}
    (h : ∀ t ∈ segments, t ≠ [] ∧ Clear ['/', '?', '#'] t) (params : List Param) :
    cutScheme (pathItems false segments ++ queryItems params) = none := by
  cases segments with
  | nil =>
    exact cutScheme_append_of_stopsAt (a := []) (by simp) (stopsAt_queryItems params) (by simp)
  | cons t ts =>
    have ht := not_isStop_of_clear (h t List.mem_cons_self).2
    rw [pathItems, List.map_cons, intercalate_singleton_cons]
    simp only [Bool.false_eq_true, if_false, List.nil_append, List.append_assoc]
    cases ts with
    | nil =>
      refine cutScheme_append_of_stopsAt ht (stopsAt_queryItems params) fun _ hp => ?_
      obtain ⟨r, hr⟩ := slashes_prefix_iff.mp hp
      rw [List.map_nil, List.flatMap_nil, List.nil_append, queryItems] at hr
      split at hr <;> simp at hr
    | cons u us =>
      refine cutScheme_append_of_stopsAt ht (by simp [StopsAt, isStop, isDelimiter])
        fun _ hp => ?_
      -- the second segment is not empty and does not start with a slash
      obtain ⟨hne, hu⟩ := h u (by simp)
      obtain ⟨i, l, hi⟩ := List.exists_cons_of_ne_nil (mt items_eq_nil.mp hne)
      have hs := isStop_head?_items hu (i := i) (by simp [hi])
      obtain ⟨r, hr⟩ := slashes_prefix_iff.mp hp
      obtain rfl : i = .bare '/' := by
        simp only [List.map_cons, List.flatMap_cons, hi, List.cons_append] at hr
        exact (List.cons.inj (List.cons.inj hr).2).1
      exact absurd hs (by decide)

/-- Cutting off an origin whose texts do not stop, in front of something where it ends. -/
theorem cutOrigin_append {origin : Option Origin} {rest : List Item}
    (ho : ∀ o ∈ origin, Clear ['/', '?', '#'] o.scheme ∧ Clear ['/', '?', '#'] o.authority)
    (hnone : origin = none → cutScheme rest = none) (hstop : origin.isSome → StopsAt rest) :
    cutOrigin (originItems origin ++ rest) = (origin, rest) := by
  unfold cutOrigin
  cases origin with
  | none => simp [originItems, hnone rfl]
  | some o =>
    obtain ⟨hs, ha⟩ := ho o rfl
    have hc : cutScheme (originItems (some o) ++ rest) =
        some (items o.scheme, items o.authority ++ rest) :=
      cutScheme_eq_some_iff.mpr ⟨by simp [originItems], not_isStop_of_clear hs⟩
    rw [hc]
    simp only [takeWhile_append_of_stopsAt (not_isStop_of_clear ha) (hstop rfl),
      dropWhile_append_of_stopsAt (not_isStop_of_clear ha) (hstop rfl), textOf_items]

/-- Cutting off the origin of a written form. -/
theorem cutOrigin_items {f : Form} (hf : f.Readable) :
    cutOrigin (originItems f.origin ++ (pathItems f.rooted f.segments ++ queryItems f.params)) =
      (f.origin, pathItems f.rooted f.segments ++ queryItems f.params) := by
  refine cutOrigin_append hf.origin (fun _ => ?_) fun ho => stopsAt_pathItems (hf.path ho) f.params
  cases hr : f.rooted with
  | true =>
    exact cutScheme_append_of_stopsAt (a := []) (by simp)
      (stopsAt_pathItems (.inl rfl) f.params) (by simp)
  | false => exact cutScheme_segments hf.segments f.params

theorem map_textOf_items (ts : List (List Char)) : (ts.map items).map textOf = ts := by
  simp [Function.comp_def]

theorem pieces_pathItems {segments : List (List Char)}
    (h : ∀ t ∈ segments, t ≠ [] ∧ Clear ['/', '?', '#'] t) (rooted : Bool) :
    pieces '/' (pathItems rooted segments) = segments.map items := by
  have hp : ∀ p ∈ segments.map items, p ≠ [] ∧ .bare '/' ∉ p := by
    intro p hp
    obtain ⟨t, ht, rfl⟩ := List.mem_map.mp hp
    exact ⟨mt items_eq_nil.mp (h t ht).1, (h t ht).2 '/' (by simp)⟩
  cases rooted with
  | true => exact (pieces_cons_bare _ _).trans (pieces_intercalate hp)
  | false => exact pieces_intercalate hp

theorem pieces_queryItems {params : List Param}
    (h : ∀ p ∈ params, p.raw ≠ [] ∧ p = .ofRaw p.raw ∧ Clear ['&', '#'] p.raw) :
    (pieces '&' (afterBare '?' (queryItems params))).map (fun p => Param.ofRaw (textOf p)) =
      params := by
  have hp : ∀ p ∈ params.map (fun p => items p.raw), p ≠ [] ∧ .bare '&' ∉ p := by
    intro p hp
    obtain ⟨q, hq, rfl⟩ := List.mem_map.mp hp
    exact ⟨mt items_eq_nil.mp (h q hq).1, (h q hq).2.2 '&' (by simp)⟩
  have hq : afterBare '?' (queryItems params) =
      [.bare '&'].intercalate (params.map fun p => items p.raw) := by
    rw [queryItems]
    split
    · simp [*, List.intercalate]
    · simp [afterBare_cons]
  rw [hq, pieces_intercalate hp, List.map_map]
  refine (List.map_congr_left fun p hp => ?_).trans (List.map_id params)
  simpa using (h p hp).2.1.symm

theorem beforeBare_mark_items {f : Form} (hf : f.Readable) :
    beforeBare '?' (pathItems f.rooted f.segments ++ queryItems f.params) =
        pathItems f.rooted f.segments ∧
      afterBare '?' (pathItems f.rooted f.segments ++ queryItems f.params) =
        afterBare '?' (queryItems f.params) := by
  have hp : .bare '?' ∉ pathItems f.rooted f.segments :=
    (not_mem_pathItems (by decide)).mpr fun t ht => (hf.segments t ht).2 '?' (by simp)
  refine ⟨?_, afterBare_append hp _⟩
  rw [beforeBare_append hp, queryItems]
  split <;> simp [beforeBare_cons]

theorem beforeBare_hash_items {f : Form} (hf : f.Readable) :
    beforeBare '#' (itemsOf f.tokens) =
        originItems f.origin ++ (pathItems f.rooted f.segments ++ queryItems f.params) ∧
      afterBare '#' (itemsOf f.tokens) = items (f.fragment.getD []) := by
  have ho : .bare '#' ∉ originItems f.origin :=
    (not_mem_originItems (by decide) (by decide)).mpr fun o hm =>
      ⟨(hf.origin o hm).1 '#' (by simp), (hf.origin o hm).2 '#' (by simp)⟩
  have hp : .bare '#' ∉ pathItems f.rooted f.segments :=
    (not_mem_pathItems (by decide)).mpr fun t ht => (hf.segments t ht).2 '#' (by simp)
  have hq : .bare '#' ∉ queryItems f.params :=
    (not_mem_queryItems (by decide) (by decide)).mpr fun p hp => (hf.params p hp).2.2 '#' (by simp)
  have hall : .bare '#' ∉
      originItems f.origin ++ (pathItems f.rooted f.segments ++ queryItems f.params) := by
    simp [ho, hp, hq]
  rw [f.itemsOf_tokens, List.append_assoc (originItems f.origin), beforeBare_append hall,
    afterBare_append hall]
  cases f.fragment with
  | none => simp [fragmentItems, items]
  | some text => simp [fragmentItems, beforeBare_cons, afterBare_cons]

theorem rooted_pathItems {f : Form} (hf : f.Readable) :
    (if f.segments = [] then pathItems f.rooted f.segments ≠ [] ∨
        (f.origin.isSome ∧ f.params = [] ∧ f.fragment = none)
      else (pathItems f.rooted f.segments).head? = some (.bare '/')) ↔
    f.rooted ∨ (f.origin.isSome ∧ f.segments = [] ∧ f.params = [] ∧ f.fragment = none) := by
  cases hs : f.segments with
  | nil => cases f.rooted <;> simp [pathItems, List.intercalate]
  | cons t ts =>
    cases f.rooted with
    | true => simp [pathItems]
    | false =>
      obtain ⟨hne, ht⟩ := hf.segments t (by simp [hs])
      obtain ⟨i, l, hi⟩ := List.exists_cons_of_ne_nil (mt items_eq_nil.mp hne)
      have hstop := isStop_head?_items ht (i := i) (by simp [hi])
      have hslash : i ≠ .bare '/' := by
        rintro rfl
        exact absurd hstop (by decide)
      rw [pathItems, List.map_cons, intercalate_singleton_cons, hi]
      simp [hslash]

/-- Cutting the items of a written form settles it. -/
theorem ofItems_itemsOf {f : Form} (hf : f.Readable) :
    Form.ofItems (itemsOf f.tokens) = f.settled := by
  have hfragment : (if f.fragment = none then none
      else some (textOf (items (f.fragment.getD [])))) = f.fragment := by
    cases f.fragment <;> simp
  have hempty : items (f.fragment.getD []) = [] ↔ f.fragment = none := by
    cases h : f.fragment with
    | none => simp [items]
    | some text => simp [items_eq_nil, hf.fragment text (by simp [h])]
  simp only [Form.ofItems, (beforeBare_hash_items hf).1, (beforeBare_hash_items hf).2,
    cutOrigin_items hf, (beforeBare_mark_items hf).1, (beforeBare_mark_items hf).2,
    Form.ofParts, pieces_pathItems hf.segments, pieces_queryItems hf.params, map_textOf_items,
    hempty, hfragment, Form.settled, Form.sorted]
  have hrooted := rooted_pathItems hf
  congr 1
  by_cases hs : f.segments = []
  · rw [if_pos hs] at hrooted ⊢
    exact decide_eq_decide.mpr hrooted
  · rw [if_neg hs] at hrooted ⊢
    exact decide_eq_decide.mpr hrooted

/-- Reading a written form settles it, if its items are put together as they are. -/
theorem read_write_tokens {f : Form} (hf : f.Readable) (hp : Proper (itemsOf f.tokens)) :
    read (write f.tokens) = f.settled.tokens := by
  rw [← textOf_itemsOf, read_textOf hp, ofItems_itemsOf hf]

end UrlTemplate.Url
