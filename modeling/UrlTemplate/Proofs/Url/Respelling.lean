import Mathlib.Logic.Relation
import UrlTemplate.Proofs.Url.Unsettled

/-!
# Spellings of a URL

What follows the origin of a URL is spelled in many ways: with more slashes between the
segments and behind them, with the query entries in another order and empty ones between
them, with a `?` or a `#` that nothing follows. Each of these edits leaves the pieces of
the parts alone, up to the order of the query entries, and reading sees nothing else.

* `Body`: the parts of a URL behind its origin, as they are spelled.
* `Respelling`: one edit of a body.
* `Body.SameParts`: what the edits leave alone.
* `Body.SameParts.form_eq`: bodies that are alike in it have the same form.
* `read_withBody`: reading a URL with another body gives the form of that body.
-/

namespace UrlTemplate.Url

open Escape

/-! ## The parts as they are spelled -/

/-- What stands behind the first bare `d`, if there is one. -/
def behindBare (d : Char) (l : List Item) : Option (List Item) :=
  if .bare d ∈ l then some (afterBare d l) else none

/-- A part with the bare `d` it stands behind. -/
def marked (d : Char) : Option (List Item) → List Item
  | none => []
  | some l => .bare d :: l

/-- What follows the origin of a URL, as it is spelled. A query or a fragment that is empty
is not the same as none: its mark stands in the URL. -/
structure Body where
  path : List Item
  query : Option (List Item)
  fragment : Option (List Item)
  deriving DecidableEq, Repr

/-- The items of a body, one part after the other. -/
def Body.items (b : Body) : List Item := b.path ++ marked '?' b.query ++ marked '#' b.fragment

/-- The body with these items: the fragment stands behind the first bare `#`, the query
behind the first bare `?` before it. -/
def Body.ofItems (l : List Item) : Body where
  path := pathPart l
  query := behindBare '?' (beforeBare '#' l)
  fragment := behindBare '#' l

theorem beforeBare_marked (d : Char) (l : List Item) :
    beforeBare d l ++ marked d (behindBare d l) = l := by
  induction l with
  | nil => rfl
  | cons i l ih =>
    rw [beforeBare_cons]
    by_cases hi : i = .bare d
    · simp [hi, behindBare, marked, afterBare_cons]
    · have hb : behindBare d (i :: l) = behindBare d l := by
        simp [behindBare, afterBare_cons, hi, Ne.symm hi]
      rw [if_neg hi, hb, List.cons_append, ih]

theorem getD_behindBare (d : Char) (l : List Item) : (behindBare d l).getD [] = afterBare d l := by
  rw [behindBare]
  split
  · rfl
  · rename_i hd
    simpa using (afterBare_append hd []).symm

theorem cut_marked {d : Char} {a : List Item} (ha : .bare d ∉ a) (part : Option (List Item)) :
    beforeBare d (a ++ marked d part) = a ∧ behindBare d (a ++ marked d part) = part := by
  rw [behindBare, beforeBare_append ha, afterBare_append ha]
  cases part <;> simp [marked, beforeBare_cons, afterBare_cons, ha]

theorem not_mem_marked {x : Item} {d : Char} (hx : x ≠ .bare d) {part : Option (List Item)} :
    x ∉ marked d part ↔ x ∉ part.getD [] := by
  cases part <;> simp [marked, hx]

theorem Body.not_mem_items {x : Item} (hq : x ≠ .bare '?') (hf : x ≠ .bare '#') (b : Body) :
    x ∉ b.items ↔ x ∉ b.path ∧ x ∉ b.query.getD [] ∧ x ∉ b.fragment.getD [] := by
  rw [items, List.mem_append, List.mem_append, not_or, not_or, not_mem_marked hq,
    not_mem_marked hf, and_assoc]

theorem Body.items_ofItems (l : List Item) : (Body.ofItems l).items = l := by
  have hquery := beforeBare_marked '?' (beforeBare '#' l)
  rw [items, ofItems, pathPart, hquery, beforeBare_marked]

/-! ## Edits -/

/-- The entries of a query, the empty ones among them. -/
def entries (query : List Item) : List (List Item) := query.splitOn (.bare '&')

/-- One edit of a body. -/
inductive Respelling : Body → Body → Prop
  /-- A slash of the path is written twice. -/
  | slash {b : Body} (before after : List Item) (h : b.path = before ++ .bare '/' :: after) :
    Respelling b { b with path := before ++ .bare '/' :: .bare '/' :: after }
  /-- A slash is put behind the path. -/
  | trailing (b : Body) : Respelling b { b with path := b.path ++ [.bare '/'] }
  /-- The entries of the query change places. -/
  | order {b : Body} {q : List Item} (r : List Item) (h : b.query = some q)
    (hr : (entries r).Perm (entries q)) : Respelling b { b with query := some r }
  /-- An empty entry comes in somewhere. -/
  | blank {b : Body} {q : List Item} (r : List Item) (before after : List (List Item))
    (h : b.query = some q) (hq : entries q = before ++ after)
    (hr : entries r = before ++ [] :: after) : Respelling b { b with query := some r }
  /-- A path without a query gets a `?`. -/
  | mark {b : Body} (h : b.query = none) : Respelling b { b with query := some [] }
  /-- A URL without a fragment gets a `#`. -/
  | hash {b : Body} (h : b.fragment = none) : Respelling b { b with fragment := some [] }

/-- The path starts alike and has the same segments, the query has the same entries up to
their order, and the fragment is the same. -/
structure Body.SameParts (b c : Body) : Prop where
  head : c.path.head? = b.path.head?
  segments : pieces '/' c.path = pieces '/' b.path
  params : (pieces '&' (c.query.getD [])).Perm (pieces '&' (b.query.getD []))
  fragment : c.fragment.getD [] = b.fragment.getD []

variable {b c : Body}

theorem Body.SameParts.refl (b : Body) : b.SameParts b := ⟨rfl, rfl, .refl _, rfl⟩

theorem Body.SameParts.trans {d : Body} (h : b.SameParts c) (h' : c.SameParts d) :
    b.SameParts d where
  head := h'.head.trans h.head
  segments := h'.segments.trans h.segments
  params := h'.params.trans h.params
  fragment := h'.fragment.trans h.fragment

theorem pieces_eq_filter_entries (query : List Item) :
    pieces '&' query = (entries query).filter (!·.isEmpty) := rfl

/-- What an edit changes is not seen in the pieces. -/
theorem Respelling.sameParts (h : Respelling b c) (hb : b.path.head? = some (.bare '/')) :
    b.SameParts c := by
  cases h with
  | slash before after hp =>
    refine { Body.SameParts.refl b with head := ?_, segments := ?_ }
    · cases before <;> simp [hp]
    · simp only [hp, pieces_append_bare, pieces_cons_bare]
  | trailing =>
    refine { Body.SameParts.refl b with head := ?_, segments := ?_ }
    · rw [List.head?_append, hb, Option.some_or]
    · simp only [pieces_append_bare, pieces_nil, List.append_nil]
  | order r hq hr =>
    refine { Body.SameParts.refl b with params := ?_ }
    simpa only [hq, Option.getD_some, pieces_eq_filter_entries] using hr.filter _
  | blank r before after h hq hr =>
    refine { Body.SameParts.refl b with params := ?_ }
    simp only [h, Option.getD_some, pieces_eq_filter_entries, hq, hr, List.filter_append]
    exact .refl _
  | mark hq => exact { Body.SameParts.refl b with params := by simp [hq] }
  | hash hf => exact { Body.SameParts.refl b with fragment := by simp [hf] }

/-- However often a body is edited, its pieces stay. -/
theorem sameParts_of_respellings (h : Relation.ReflTransGen Respelling b c)
    (hb : b.path.head? = some (.bare '/')) : b.SameParts c := by
  induction h with
  | refl => exact .refl b
  | tail _ hstep ih => exact ih.trans (hstep.sameParts (ih.head.trans hb))

/-! ## Bodies that are cut into their parts -/

/-- The path is rooted, the marks that cut the body are the ones between its parts, and there
is no backslash that would protect what is put behind it. -/
structure Body.Sound (b : Body) : Prop where
  rooted : b.path.head? = some (.bare '/')
  path : ∀ d ∈ ['?', '#'], .bare d ∉ b.path
  query : .bare '#' ∉ b.query.getD []
  firm : .bare '\\' ∉ b.items

theorem Body.ofItems_items (h : b.Sound) : Body.ofItems b.items = b := by
  have hpath := h.path '?' (by simp)
  have hbody : .bare '#' ∉ b.path ++ marked '?' b.query := by
    rw [List.mem_append, not_or, not_mem_marked (by decide)]
    exact ⟨h.path '#' (by simp), h.query⟩
  rw [ofItems, pathPart, items, (cut_marked hbody _).1, (cut_marked hbody _).2,
    (cut_marked hpath _).1, (cut_marked hpath _).2]

/-- The pieces hold all items but the cutting ones. -/
theorem not_mem_pieces {x : Item} {d : Char} (hx : x ≠ .bare d) {l : List Item} :
    (∀ p ∈ pieces d l, x ∉ p) ↔ x ∉ l := by
  have hl : x ∉ l ↔ ∀ p ∈ l.splitOn (.bare d), x ∉ p := by
    rw [← not_mem_intercalate hx, List.intercalate_splitOn]
  rw [hl]
  refine ⟨fun h p hp hm => ?_, fun h p hp => h p (List.mem_filter.mp hp).1⟩
  have hne : p ≠ [] := List.ne_nil_of_mem hm
  exact h p (List.mem_filter.mpr ⟨hp, by simpa using hne⟩) hm

theorem Body.SameParts.not_mem_path {x : Item} (h : b.SameParts c) (hx : x ≠ .bare '/') :
    x ∉ c.path ↔ x ∉ b.path := by
  rw [← not_mem_pieces hx, h.segments, not_mem_pieces hx]

theorem Body.SameParts.not_mem_query {x : Item} (h : b.SameParts c) (hx : x ≠ .bare '&') :
    x ∉ c.query.getD [] ↔ x ∉ b.query.getD [] := by
  rw [← not_mem_pieces hx, ← not_mem_pieces hx]
  exact forall_congr' fun p => by rw [h.params.mem_iff]

theorem Body.Sound.of_sameParts (hb : b.Sound) (h : b.SameParts c) : c.Sound where
  rooted := h.head.trans hb.rooted
  path d hd := by
    rw [h.not_mem_path (by rintro ⟨⟩; simp at hd)]
    exact hb.path d hd
  query := (h.not_mem_query (by decide)).mpr hb.query
  firm := by
    have hfirm := hb.firm
    rw [not_mem_items (by decide) (by decide)] at hfirm ⊢
    rwa [h.not_mem_path (by decide), h.not_mem_query (by decide), h.fragment]

/-! ## Reading spellings -/

/-- The form of a body behind an origin. -/
def Body.form (origin : Option Origin) (b : Body) : Form :=
  (Form.ofParts origin b.path (b.query.getD []) (b.fragment.getD [])).sorted

/-- A path that starts with a slash is rooted, with segments or without. -/
theorem rooted_ofParts {path : List Item} (h : path.head? = some (.bare '/'))
    (origin : Option Origin) (query fragment : List Item) :
    (Form.ofParts origin path query fragment).rooted = true := by
  have hne : path ≠ [] := List.ne_nil_of_mem (List.mem_of_mem_head? h)
  simp [Form.ofParts, h, hne]

/-- Reading sees the pieces of a body only, and the query entries in no order. -/
theorem Body.SameParts.form_eq (h : b.SameParts c) (hb : b.path.head? = some (.bare '/'))
    (origin : Option Origin) : c.form origin = b.form origin := by
  have hrooted := (rooted_ofParts (h.head.trans hb) origin (c.query.getD []) (c.fragment.getD []))
    |>.trans (rooted_ofParts hb origin (b.query.getD []) (b.fragment.getD [])).symm
  have hparams := Param.isLinear_le.mergeSort_congr (h.params.map fun p => Param.ofRaw (textOf p))
  simp only [Body.form, Form.sorted, Form.mk.injEq]
  refine ⟨rfl, hrooted, ?_, hparams, ?_⟩
  · simp only [Form.ofParts, h.segments]
  · simp only [Form.ofParts, h.fragment]

/-- The origin of a URL. -/
def originOf (url : List Char) : Option Origin := (cutOrigin (items url)).1

/-- What follows the origin of a URL. -/
def bodyOf (url : List Char) : Body := .ofItems (cutOrigin (items url)).2

/-- The URL with another body behind its origin. -/
def withBody (url : List Char) (b : Body) : List Char :=
  textOf (originItems (originOf url) ++ b.items)

theorem read_eq_form (url : List Char) :
    read url = ((bodyOf url).form (originOf url)).tokens := by
  rw [read_eq_ofText, ofText_eq, Body.form, bodyOf, Body.ofItems, getD_behindBare,
    getD_behindBare, afterBare_cutOrigin]
  rfl

theorem withBody_bodyOf (url : List Char) : withBody url (bodyOf url) = url := by
  rw [withBody, bodyOf, Body.items_ofItems, originOf, originItems_cutOrigin (proper_items url),
    textOf_items]

theorem bodyOf_sound {url : List Char} (hurl : ¬ Dangles url)
    (hpath : (bodyOf url).path.head? = some (.bare '/')) : (bodyOf url).Sound where
  rooted := hpath
  path d hd := by
    simp only [List.mem_cons, List.not_mem_nil, or_false] at hd
    obtain rfl | rfl := hd
    · exact not_mem_beforeBare '?' _
    · exact fun hm => not_mem_beforeBare '#' _ ((beforeBare_isPrefix '?' _).subset hm)
  query := by
    rw [bodyOf, Body.ofItems, getD_behindBare]
    exact fun hm => not_mem_beforeBare '#' _ ((afterBare_isSuffix '?' _).subset hm)
  firm := by
    obtain ⟨a, ha, -⟩ := cutOrigin_eq (items url)
    rw [bodyOf, Body.items_ofItems]
    intro hm
    rw [dangles_iff, ha] at hurl
    exact hurl (List.mem_append_right _ hm)

/-- Another body is cut off where the body of the URL was. -/
theorem cutOrigin_withBody {url : List Char} (hurl : ¬ Dangles url) (hb : b.Sound) :
    cutOrigin (items (withBody url b)) = (originOf url, b.items) := by
  have hclear : ∀ o ∈ originOf url, Clear ['/', '?', '#'] o.scheme ∧
      Clear ['/', '?', '#'] o.authority := by
    intro o ho
    obtain ⟨hs, -, ha, -⟩ := mem_cutOrigin (proper_items url) ho
    exact ⟨clear_of_not_isStop hs, clear_of_not_isStop ha⟩
  have horigin : .bare '\\' ∉ originItems (originOf url) := by
    rw [dangles_iff, ← originItems_cutOrigin (proper_items url)] at hurl
    exact fun hm => hurl (List.mem_append_left _ hm)
  have hproper : Proper (originItems (originOf url) ++ b.items) :=
    proper_of_not_mem fun hm => (List.mem_append.mp hm).elim horigin hb.firm
  have hstop : StopsAt b.items := by
    intro i hi
    rw [Body.items, List.append_assoc, List.head?_append, hb.rooted] at hi
    cases hi
    rfl
  rw [withBody, items_textOf hproper]
  exact cutOrigin_append hclear
    (fun _ => cutScheme_append_of_stopsAt (a := []) (by simp) hstop (by simp)) fun _ => hstop

/-- Reading a URL with another body gives the form of that body. -/
theorem read_withBody {url : List Char} (hurl : ¬ Dangles url) (hb : b.Sound) :
    read (withBody url b) = (b.form (originOf url)).tokens := by
  have hcut := cutOrigin_withBody hurl hb
  rw [read_eq_form, originOf, bodyOf, hcut, Body.ofItems_items hb]

end UrlTemplate.Url
