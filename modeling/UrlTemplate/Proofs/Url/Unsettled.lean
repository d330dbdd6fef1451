import UrlTemplate.Proofs.Url.RoundTrip

/-!
# What reading leaves out

Before its query entries are sorted and an authority alone gets the root path, the form
of a text differs from the text only by delimiters that have been left out. So a text
that dangles has its bare backslash at the end of one part of the form, and nothing of
the form comes behind it.

* `settled_unsettled`: settling gives the form of the text.
* `itemsOf_unsettled_sublist`: the items of the form are some of those of the text.
-/

namespace UrlTemplate.Url

open Escape

/-- The form of a text with its query entries in the order of the query, and without the
root path that stands for none. -/
def Form.unsettled (text : List Char) : Form :=
  let cut := cutOrigin (items text)
  { origin := cut.1
    rooted := (pathPart cut.2).head? = some (.bare '/')
    segments := (pieces '/' (pathPart cut.2)).map textOf
    params := (pieces '&' (queryPart cut.2)).map fun p => .ofRaw (textOf p)
    fragment := if afterBare '#' (items text) = [] then none
      else some (textOf (afterBare '#' (items text))) }

variable (text : List Char)

theorem settled_unsettled : (Form.unsettled text).settled = Form.ofText text := by
  rw [ofText_eq]
  simp only [Form.unsettled, Form.settled, Form.sorted, Form.ofParts, List.map_eq_nil_iff]
  congr 1
  generalize pathPart (cutOrigin (items text)).2 = path
  by_cases hs : pieces '/' path = []
  · by_cases hp : path = []
    · simp [hp]
    · simp [hs, hp, head?_of_pieces_eq_nil hs hp]
  · simp [hs]

theorem originItems_cutOrigin {l : List Item} (hl : Proper l) :
    originItems (cutOrigin l).1 ++ (cutOrigin l).2 = l := by
  unfold cutOrigin
  cases h : cutScheme l with
  | none => rfl
  | some cut =>
    obtain ⟨scheme, rest⟩ := cut
    obtain ⟨rfl, -⟩ := cutScheme_eq_some_iff.mp h
    have hs := proper_append.mp hl
    have hr := proper_of_isInfix (List.takeWhile_prefix (!isStop ·)).isInfix hs.2.1.2.2.2
    simp [originItems, items_textOf hs.1, items_textOf hr]

theorem map_items_textOf_pieces {l : List Item} (hl : Proper l) (d : Char) :
    (pieces d l).map (fun p => items (textOf p)) = pieces d l := by
  refine (List.map_congr_left fun p hp => ?_).trans (List.map_id _)
  exact items_textOf (proper_of_isInfix (mem_pieces hp).2.2 hl)

theorem pathItems_sublist {l : List Item} (hl : Proper l) :
    (pathItems (l.head? = some (.bare '/')) ((pieces '/' l).map textOf)).Sublist l := by
  have h := intercalate_pieces_sublist '/' l
  simpa [pathItems, Function.comp_def, map_items_textOf_pieces hl] using h

theorem queryItems_sublist {l : List Item} (hl : Proper l) :
    (queryItems ((pieces '&' l).map fun p => .ofRaw (textOf p))).Sublist
      (if l = [] then [] else .bare '?' :: l) := by
  have h := (List.sublist_append_right _ _).trans (intercalate_pieces_sublist '&' l)
  rw [queryItems]
  by_cases hp : pieces '&' l = []
  · simp [hp]
  · have hne : l ≠ [] := by
      rintro rfl
      exact hp rfl
    simpa [hp, hne, Function.comp_def, map_items_textOf_pieces hl] using h

/-- The items of the form are left when delimiters are taken out of the text. -/
theorem itemsOf_unsettled_sublist :
    (itemsOf (Form.unsettled text).tokens).Sublist (items text) := by
  have hl := proper_items text
  have hhash := cut_sublist '#' (cutOrigin (items text)).2
  rw [afterBare_cutOrigin] at hhash
  have hmark := cut_sublist '?' (beforeBare '#' (cutOrigin (items text)).2)
  have hpath := pathItems_sublist (l := pathPart (cutOrigin (items text)).2)
    (proper_of_isInfix ((pathPart_isInfix _).trans (beforeBare_isPrefix '#' _).isInfix) hl)
  have hquery := queryItems_sublist (l := queryPart (cutOrigin (items text)).2)
    (proper_of_isInfix ((queryPart_isInfix _).trans (beforeBare_isPrefix '#' _).isInfix) hl)
  have hfragment : fragmentItems (Form.unsettled text).fragment =
      if afterBare '#' (items text) = [] then [] else .bare '#' :: afterBare '#' (items text) := by
    have hsuf := proper_of_isInfix (afterBare_isSuffix '#' (items text)).isInfix hl
    simp only [Form.unsettled]
    split <;> simp [fragmentItems, items_textOf hsuf]
  have hrest := (((hpath.append hquery).trans hmark).append (.refl _)).trans hhash
  have hall := (List.Sublist.refl (originItems (cutOrigin (items text)).1)).append hrest
  rw [originItems_cutOrigin hl] at hall
  rw [Form.itemsOf_tokens, hfragment, List.append_assoc, List.append_assoc]
  rwa [List.append_assoc] at hall

theorem proper_unsettled : Proper (itemsOf (Form.unsettled text).tokens) :=
  proper_of_sublist (itemsOf_unsettled_sublist text) (proper_items text)

/-! ## The part that dangles -/

theorem pathItems_eq_nil {rooted : Bool} {segments : List (List Char)}
    (h : ∀ t ∈ segments, t ≠ []) (hp : pathItems rooted segments = []) :
    rooted = false ∧ segments = [] := by
  cases rooted with
  | true => simp [pathItems] at hp
  | false =>
    cases segments with
    | nil => exact ⟨rfl, rfl⟩
    | cons t ts =>
      rw [pathItems, List.map_cons, intercalate_singleton_cons] at hp
      exact absurd hp (by simp [items_eq_nil, h t])

theorem queryItems_eq_nil {params : List Param} : queryItems params = [] ↔ params = [] := by
  rw [queryItems]
  split <;> simp [*]

theorem fragmentItems_eq_nil {fragment : Option (List Char)} :
    fragmentItems fragment = [] ↔ fragment = none := by
  cases fragment <;> simp [fragmentItems]

/-- Of texts with cuts between them, only the last one dangles. -/
theorem dangling_last {d : Char} {as bs : List (List Item)} {p : List Item}
    (h : Proper ([Item.bare d].intercalate (as ++ p :: bs))) (hp : .bare '\\' ∈ p) :
    bs = [] ∧ ∀ a ∈ as, .bare '\\' ∉ a := by
  cases as with
  | nil =>
    rw [List.nil_append, intercalate_singleton_cons] at h
    cases bs with
    | nil => simp
    | cons b bs => exact absurd hp ((proper_append.mp h).2.2 (by simp))
  | cons a as =>
    rw [List.cons_append, intercalate_singleton_cons, List.flatMap_append, List.flatMap_cons] at h
    obtain ⟨-, h, ha⟩ := proper_append.mp h
    obtain ⟨-, h, has⟩ := proper_append.mp h
    refine ⟨?_, fun b hb => ?_⟩
    · cases bs with
      | nil => rfl
      | cons b bs => exact absurd (List.mem_cons_of_mem _ hp) ((proper_append.mp h).2.2 (by simp))
    · rcases List.mem_cons.mp hb with rfl | hb
      · exact ha (by simp)
      · exact fun hm => has (by simp) (List.mem_flatMap.mpr ⟨b, hb, List.mem_cons_of_mem _ hm⟩)

theorem proper_parts :
    Proper (originItems (Form.unsettled text).origin ++
      (pathItems (Form.unsettled text).rooted (Form.unsettled text).segments ++
        (queryItems (Form.unsettled text).params ++
          fragmentItems (Form.unsettled text).fragment))) := by
  have h := proper_unsettled text
  rwa [Form.itemsOf_tokens, List.append_assoc, List.append_assoc] at h

variable {text}

/-- A scheme never dangles, since `://` follows it. -/
theorem not_dangles_scheme {o : Origin} (ho : o ∈ (Form.ofText text).origin) :
    ¬ Dangles o.scheme := by
  have horigin := (proper_append.mp (proper_parts text)).1
  rw [← settled_unsettled] at ho
  rw [show (Form.unsettled text).origin = some o from ho] at horigin
  rw [dangles_iff]
  exact (proper_append.mp horigin).2.2 (by simp)

/-- Where the authority dangles, it is all there is, and gets the root path. -/
theorem ofText_of_dangling_authority {o : Origin} (ho : o ∈ (Form.ofText text).origin)
    (hd : Dangles o.authority) :
    Form.ofText text =
      { origin := some o, rooted := true, segments := [], params := [], fragment := none } := by
  have hsegments : ∀ t ∈ (Form.unsettled text).segments, t ≠ [] := by
    intro t ht
    refine (mem_segments_ofText text ?_).1
    rwa [← settled_unsettled]
  rw [← settled_unsettled] at ho ⊢
  have ho : (Form.unsettled text).origin = some o := ho
  have hmem : .bare '\\' ∈ originItems (Form.unsettled text).origin := by
    rw [ho, originItems]
    exact List.mem_append_right _ (by simpa using (dangles_iff _).mp hd)
  have hnil := Decidable.not_not.mp fun hne => (proper_append.mp (proper_parts text)).2.2 hne hmem
  simp only [List.append_eq_nil_iff, queryItems_eq_nil, fragmentItems_eq_nil] at hnil
  obtain ⟨hp, hq, hf⟩ := hnil
  obtain ⟨hr, hs⟩ := pathItems_eq_nil hsegments hp
  simp [Form.settled, Form.sorted, ho, hr, hs, hq, hf]

/-- Where an entry dangles, there is no fragment, and nothing else dangles. -/
theorem firm_of_dangling_param {ps rest : List Param} {d : Param}
    (h : (Form.ofText text).params = ps ++ d :: rest) (hd : Dangles d.raw) :
    ({ Form.ofText text with params := ps ++ rest } : Form).Firm ∧
      (Form.ofText text).fragment = none := by
  rw [← settled_unsettled] at h ⊢
  have hperm : (ps ++ d :: rest).Perm (Form.unsettled text).params :=
    h ▸ List.mergeSort_perm _ Param.le
  have hmem : d ∈ (Form.unsettled text).params := hperm.subset (by simp)
  obtain ⟨-, hp, ho⟩ := proper_append.mp (proper_parts text)
  obtain ⟨-, hp, hpath⟩ := proper_append.mp hp
  obtain ⟨hq, -, hquery⟩ := proper_append.mp hp
  have hstray : .bare '\\' ∈ queryItems (Form.unsettled text).params := by
    refine Decidable.not_not.mp fun hn => ?_
    rw [not_mem_queryItems (by decide) (by decide)] at hn
    exact hn d hmem ((dangles_iff _).mp hd)
  have hne : queryItems (Form.unsettled text).params ≠ [] := List.ne_nil_of_mem hstray
  -- in the order of the query, `d` is the last entry
  obtain ⟨as, bs, hsplit⟩ := List.append_of_mem hmem
  rw [queryItems, if_neg (List.ne_nil_of_mem hmem), hsplit, List.map_append,
    List.map_cons] at hq
  obtain ⟨hbs, has⟩ := dangling_last hq.2 ((dangles_iff _).mp hd)
  obtain rfl := List.map_eq_nil_iff.mp hbs
  have hothers : (ps ++ rest).Perm as := by
    rw [hsplit] at hperm
    simpa using (List.perm_middle.symm.trans (hperm.trans List.perm_middle)).cons_inv
  have hfragment := Decidable.not_not.mp (mt hquery (not_not_intro hstray))
  refine ⟨⟨?_, ?_, ?_, ?_⟩, fragmentItems_eq_nil.mp hfragment⟩
  · intro o hm
    have hn := (not_mem_originItems (by decide) (by decide)).mp (ho (by simp [hne])) o hm
    simpa [dangles_iff] using hn
  · intro t hm
    have hn := (not_mem_pathItems (by decide)).mp (hpath (by simp [hne])) t hm
    simpa [dangles_iff] using hn
  · intro p hm
    rw [dangles_iff]
    exact has _ (List.mem_map_of_mem (hothers.subset hm))
  · intro t hm
    rw [show (Form.unsettled text).settled.fragment = none from
      fragmentItems_eq_nil.mp hfragment] at hm
    cases hm

/-- So the items of the form are put together as they are, if that entry is the last one. -/
theorem proper_of_dangling_last {ps : List Param} {d : Param}
    (h : (Form.ofText text).params = ps ++ [d]) (hd : Dangles d.raw) :
    Proper (itemsOf (Form.ofText text).tokens) := by
  obtain ⟨hfirm, hfragment⟩ := firm_of_dangling_param h hd
  have hquery : queryItems (ps ++ [d]) =
      queryItems ps ++ .bare (if ps = [] then '?' else '&') :: items d.raw := by
    rw [← itemsOf_writeParams, ← itemsOf_writeParams]
    cases ps <;> simp [Apply.writeParams, itemsOf, Token.text, items]
  have hitems : itemsOf (Form.ofText text).tokens =
      itemsOf ({ Form.ofText text with params := ps } : Form).tokens ++
        .bare (if ps = [] then '?' else '&') :: items d.raw := by
    simp [Form.itemsOf_tokens, h, hquery, hfragment, fragmentItems]
  rw [List.append_nil] at hfirm
  rw [hitems]
  refine proper_append.mpr ⟨hfirm.proper, ⟨?_, proper_items d.raw⟩, fun _ => hfirm.not_mem⟩
  split <;> simp

/-- Where neither the authority nor an entry dangles, the items of the form are put together
as they are. -/
theorem proper_ofText (ho : ∀ o ∈ (Form.ofText text).origin, ¬ Dangles o.authority)
    (hp : ∀ p ∈ (Form.ofText text).params, ¬ Dangles p.raw) :
    Proper (itemsOf (Form.ofText text).tokens) := by
  have hscheme : ∀ o ∈ (Form.ofText text).origin, ¬ Dangles o.scheme :=
    fun _ => not_dangles_scheme
  rw [← settled_unsettled] at *
  obtain ⟨horigin, hrest, -⟩ := proper_append.mp (proper_parts text)
  obtain ⟨hpath, hrest, hpath'⟩ := proper_append.mp hrest
  obtain ⟨-, hfragment, -⟩ := proper_append.mp hrest
  have ho' : .bare '\\' ∉ originItems (Form.unsettled text).origin := by
    rw [not_mem_originItems (by decide) (by decide)]
    intro o hm
    simpa [dangles_iff] using And.intro (hscheme o hm) (ho o hm)
  have hq' : .bare '\\' ∉ queryItems (Form.unsettled text).settled.params := by
    rw [not_mem_queryItems (by decide) (by decide)]
    exact fun p hm h => hp p hm ((dangles_iff _).mpr h)
  have htail := proper_append.mpr ⟨proper_of_not_mem hq', hfragment, fun _ => hq'⟩
  rw [Form.itemsOf_tokens, List.append_assoc, List.append_assoc]
  refine proper_append.mpr ⟨horigin, ?_, fun _ => ho'⟩
  by_cases hs : (Form.unsettled text).segments = []
  · have hn : .bare '\\' ∉
        pathItems (Form.unsettled text).settled.rooted (Form.unsettled text).segments :=
      (not_mem_pathItems (by decide)).mpr (by simp [hs])
    exact proper_append.mpr ⟨proper_of_not_mem hn, htail, fun _ => hn⟩
  · have hr : (Form.unsettled text).settled.rooted = (Form.unsettled text).rooted := by
      simp [Form.settled, hs]
    rw [hr]
    refine proper_append.mpr ⟨hpath, htail, fun hne => hpath' fun hnil => hne ?_⟩
    simp only [List.append_eq_nil_iff, queryItems_eq_nil] at hnil ⊢
    exact ⟨by simp [Form.settled, Form.sorted, hnil.1], hnil.2⟩

end UrlTemplate.Url
