import UrlTemplate.Proofs.Url.Unsettled

/-!
# Entries that run together

Sorting can put an entry that dangles before another one. Written, its bare backslash
protects the `&` between them, and both are read again as one entry. Nothing else changes,
but the new entry may have to be sorted anew.

* `Form.fused`: the form with two neighbouring entries run together.
* `write_fused`: both forms are written alike.
* `read_write_fused`: reading gives the form with the one entry, sorted.
* `write_sorted_inj`: sorting a form shows in its text.
-/

namespace UrlTemplate.Url

open Escape

/-- The entry that is read where `q` stands behind `p` and the `&` between them is
protected. -/
def Param.fuse (p q : Param) : Param := .ofRaw (p.raw ++ '&' :: q.raw)

theorem Param.le_fuse {p : Param} (h : p = .ofRaw p.raw) (q : Param) : p.le (p.fuse q) := by
  have hle := Param.le_ofRaw_append p.raw ('&' :: q.raw)
  rwa [← h] at hle

/-- The entry made of a dangling one is not cut, and dangles only if the second one does. -/
theorem Param.fuse_clear {p q : Param} (hd : Dangles p.raw) (hp : Clear ['&', '#'] p.raw)
    (hq : Clear ['&', '#'] q.raw) (hq' : ¬ Dangles q.raw) :
    Clear ['&', '#'] (p.fuse q).raw ∧ ¬ Dangles (p.fuse q).raw := by
  obtain ⟨a, ha, hitems, happend⟩ := items_append_of_dangles hd
  rw [Param.fuse, Param.raw_ofRaw, dangles_iff, Clear, happend]
  refine ⟨fun d hm h => ?_, fun h => ?_⟩
  · rcases List.mem_append.mp h with h | h
    · exact hp d hm (hitems ▸ List.mem_append_left _ h)
    · exact hq d hm (by simpa using h)
  · rcases List.mem_append.mp h with h | h
    · exact ha h
    · exact hq' ((dangles_iff _).mpr (by simpa using h))

/-- The new entry stays behind those before it, so only the next one can be out of order. -/
theorem Param.pairwise_fuse_iff {ps rest : List Param} {p q : Param} (hp : p = .ofRaw p.raw)
    (h : (ps ++ p :: q :: rest).Pairwise fun p q => p.le q) :
    (ps ++ p.fuse q :: rest).Pairwise (fun p q => p.le q) ↔
      ∀ r ∈ rest.head?, (p.fuse q).le r := by
  obtain ⟨hps, hrest, hcross⟩ := List.pairwise_append.mp h
  obtain ⟨-, hrest⟩ := List.pairwise_cons.mp hrest
  obtain ⟨-, hrest⟩ := List.pairwise_cons.mp hrest
  constructor
  · intro h r hr
    have hfuse := (List.pairwise_cons.mp (List.pairwise_append.mp h).2.1).1
    exact hfuse r (List.mem_of_mem_head? hr)
  · intro hle
    refine List.pairwise_append.mpr ⟨hps, List.pairwise_cons.mpr ⟨?_, hrest⟩, ?_⟩
    · intro r hr
      cases rest with
      | nil => cases hr
      | cons s rest =>
        rcases List.mem_cons.mp hr with rfl | hr
        · exact hle r rfl
        · exact Param.le_trans (hle s rfl) ((List.pairwise_cons.mp hrest).1 r hr)
    · intro a ha r hr
      rcases List.mem_cons.mp hr with rfl | hr
      · exact Param.le_trans (hcross a ha p (by simp)) (Param.le_fuse hp q)
      · exact hcross a ha r (by simp [hr])

theorem write_writeParams_fuse (ps : List Param) (p q : Param) (rest : List Param) :
    write (Apply.writeParams (ps ++ p :: q :: rest)) =
      write (Apply.writeParams (ps ++ p.fuse q :: rest)) := by
  cases ps <;> simp [Apply.writeParams, write, Token.text, Param.fuse]

/-- The form with the entries `ps`, `p` and `q` run together, and `rest`. -/
def Form.fused (f : Form) (ps : List Param) (p q : Param) (rest : List Param) : Form :=
  { f with params := ps ++ p.fuse q :: rest }

variable {f : Form} {ps rest : List Param} {p q : Param}

theorem write_fused (h : f.params = ps ++ p :: q :: rest) :
    write (f.fused ps p q rest).tokens = write f.tokens := by
  simp [Form.tokens, Form.fused, h, write_writeParams_fuse]

theorem readable_fused (hf : f.Canonical) (h : f.params = ps ++ p :: q :: rest)
    (hd : Dangles p.raw) (hq : ¬ Dangles q.raw) : (f.fused ps p q rest).Readable := by
  refine { hf.toReadable with params := fun r hr => ?_ }
  have hmem : ∀ r ∈ ps ++ p :: q :: rest,
      r.raw ≠ [] ∧ r = .ofRaw r.raw ∧ Clear ['&', '#'] r.raw := h ▸ hf.params
  simp only [Form.fused, List.mem_append, List.mem_cons] at hr
  rcases hr with hr | rfl | hr
  · exact hmem r (by simp [hr])
  · refine ⟨by simp [Param.fuse], by simp [Param.fuse], ?_⟩
    exact (Param.fuse_clear hd (hmem p (by simp)).2.2 (hmem q (by simp)).2.2 hq).1
  · exact hmem r (by simp [hr])

theorem firm_fused (hf : f.Canonical) (h : f.params = ps ++ p :: q :: rest)
    (hd : Dangles p.raw) (hfirm : ({ f with params := ps ++ q :: rest } : Form).Firm) :
    (f.fused ps p q rest).Firm := by
  refine { hfirm with params := fun r hr => ?_ }
  have hothers : ∀ r ∈ ps ++ q :: rest, ¬ Dangles r.raw := hfirm.params
  simp only [Form.fused, List.mem_append, List.mem_cons] at hr
  rcases hr with hr | rfl | hr
  · exact hothers r (by simp [hr])
  · have hclear : ∀ r ∈ ps ++ p :: q :: rest, Clear ['&', '#'] r.raw :=
      h ▸ fun r hr => (hf.params r hr).2.2
    exact (Param.fuse_clear hd (hclear p (by simp)) (hclear q (by simp))
      (hothers q (by simp))).2
  · exact hothers r (by simp [hr])

theorem settled_eq_sorted {f : Form} (h : f.params ≠ []) : f.settled = f.sorted := by
  simp [Form.settled, Form.sorted, h]

/-- Where an entry dangles before another one, the two are read as one. -/
theorem read_write_fused (hf : f.Canonical) (h : f.params = ps ++ p :: q :: rest)
    (hd : Dangles p.raw) (hfirm : ({ f with params := ps ++ q :: rest } : Form).Firm) :
    read (write f.tokens) = (f.fused ps p q rest).sorted.tokens := by
  have hq : ¬ Dangles q.raw := hfirm.params q (by simp)
  rw [← write_fused h, read_write_tokens (readable_fused hf h hd hq)
    (firm_fused hf h hd hfirm).proper, settled_eq_sorted (by simp [Form.fused])]

theorem items_write {ts : List Token} (h : Proper (itemsOf ts)) :
    items (write ts) = itemsOf ts := by
  rw [← textOf_itemsOf, items_textOf h]

theorem Form.Firm.sorted {f : Form} (hf : f.Firm) : f.sorted.Firm :=
  { hf with params := fun p hp => hf.params p (List.mem_mergeSort.mp hp) }

/-- The text of a form shows the order of its entries. -/
theorem write_sorted_inj {f : Form} (hf : f.Readable) (hfirm : f.Firm)
    (h : write f.sorted.tokens = write f.tokens) : f.params.Pairwise fun p q => p.le q := by
  have hitems : itemsOf f.sorted.tokens = itemsOf f.tokens := by
    rw [← items_write hfirm.sorted.proper, ← items_write hfirm.proper, h]
  rw [Form.itemsOf_tokens, Form.itemsOf_tokens] at hitems
  have hquery : queryItems f.sorted.params = queryItems f.params :=
    List.append_cancel_left (List.append_cancel_right hitems)
  have hsorted := pieces_queryItems fun p (hp : p ∈ f.sorted.params) =>
    hf.params p (List.mem_mergeSort.mp hp)
  have hparams : f.sorted.params = f.params := by
    rw [← hsorted, hquery, pieces_queryItems hf.params]
  rw [← hparams]
  exact Param.isLinear_le.pairwise_mergeSort f.params

end UrlTemplate.Url
