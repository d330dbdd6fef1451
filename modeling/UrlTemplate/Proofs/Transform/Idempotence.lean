import UrlTemplate.Proofs.Transform.Normal
import UrlTemplate.Proofs.Url.Fusion

/-!
# Normalizing twice

A URL that has been normalized is normal, unless its last character is a backslash that
protects nothing. The part that it ends may get a delimiter behind it, which it protects
when it is read again: the root path behind an authority, or the `&` before an entry that
is sorted behind it.

* `Drifts`: normalizing again changes the URL of these tokens.
* `normalize_normalize_iff`: normalizing is idempotent exactly on the URLs that do not.
-/

namespace UrlTemplate

open Url Escape

/-- The authority dangles, or an entry does and, when it is run together with the entry
behind it, belongs behind the next one. -/
def Drifts (ts : List Url.Token) : Prop :=
  (∃ a, .authority a ∈ ts ∧ Dangles a) ∨
    ∃ ps p q r rest, ts.filterMap Token.param? = ps ++ p :: q :: r :: rest ∧
      Dangles p.raw ∧ ¬ (p.fuse q).le r

theorem mem_tokens_authority {f : Form} {a : List Char} :
    .authority a ∈ f.tokens ↔ ∃ o ∈ f.origin, o.authority = a := by
  have h : ∀ t : Url.Token, t.isAuthority → (t ∈ f.tokens ↔ t ∈ originTokens f.origin) := by
    intro t ht
    rw [← f.filter_isAuthority_tokens, List.mem_filter]
    simp [ht]
  rw [h _ rfl]
  cases f.origin <;> simp [originTokens, eq_comm]

/-- An authority that dangles takes the root path in, and gets it anew. -/
theorem normalize_normalize_of_authority {url : List Char} {o : Origin}
    (ho : o ∈ (Form.ofText url).origin) (hd : Dangles o.authority) :
    (normalize (normalize url).value).value ≠ (normalize url).value := by
  have hs := not_dangles_scheme ho
  have hclear := (canonical_ofText url).origin o ho
  obtain ⟨a, ha, hitems, happend⟩ := items_append_of_dangles hd
  -- what is written reads as an authority with the slash in it
  let g : Form :=
    { origin := some { o with authority := o.authority ++ ['/'] }
      rooted := false, segments := [], params := [], fragment := none }
  have hwrite : write (Form.ofText url).tokens = write g.tokens := by
    rw [ofText_of_dangling_authority ho hd]
    simp [g, Form.tokens, originTokens, pathTokens, write, Token.text, Apply.writeFragment]
  have hreadable : g.Readable := by
    refine ⟨?_, by simp [g], by simp [g], by simp [g], by simp [g]⟩
    rintro _ ⟨⟩
    refine ⟨hclear.1, fun d hm h => ?_⟩
    rw [happend, List.mem_append] at h
    rcases h with h | h
    · exact hclear.2 d hm (hitems ▸ List.mem_append_left _ h)
    · simp [items] at h
  have hfirm : g.Firm := by
    refine ⟨?_, by simp [g], by simp [g], by simp [g]⟩
    rintro _ ⟨⟩
    refine ⟨hs, ?_⟩
    rw [dangles_iff, happend]
    simp [ha, items]
  rw [value_normalize, value_normalize, read_eq_ofText url, hwrite,
    read_write_tokens hreadable hfirm.proper]
  simp [g, Form.settled, Form.sorted, Form.tokens, originTokens, pathTokens, write, Token.text,
    Apply.writeFragment]

/-- Where an entry dangles, normalizing again changes nothing if the entry that is run
together with the one behind it is in its place. -/
theorem normalize_normalize_of_param {url : List Char} {ps rest : List Param} {p q : Param}
    (h : (Form.ofText url).params = ps ++ p :: q :: rest) (hd : Dangles p.raw) :
    (normalize (normalize url).value).value = (normalize url).value ↔
      ∀ r ∈ rest.head?, (p.fuse q).le r := by
  have hf := canonical_ofText url
  have hfirm := (firm_of_dangling_param h hd).1
  have hq : ¬ Dangles q.raw := hfirm.params q (by simp)
  have hp := (hf.params p (by simp [h])).2.1
  rw [value_normalize, value_normalize, read_eq_ofText url, read_write_fused hf h hd hfirm,
    ← Param.pairwise_fuse_iff hp (h ▸ hf.sorted), ← write_fused h]
  constructor
  · exact write_sorted_inj (readable_fused hf h hd hq) (firm_fused hf h hd hfirm)
  · intro hsorted
    rw [Form.sorted_eq (f := (Form.ofText url).fused ps p q rest) hsorted]

/-- Normalizing is idempotent on a URL exactly if its tokens do not drift. -/
theorem normalize_normalize_iff (url : List Char) :
    (normalize (normalize url).value).value = (normalize url).value ↔ ¬ Drifts (read url) := by
  rw [read_eq_ofText]
  constructor
  · rintro h (⟨a, ha, hd⟩ | ⟨ps, p, q, r, rest, hps, hd, hle⟩)
    · obtain ⟨o, ho, rfl⟩ := mem_tokens_authority.mp ha
      exact normalize_normalize_of_authority ho hd h
    · rw [Form.filterMap_param?_tokens] at hps
      exact hle ((normalize_normalize_of_param hps hd).mp h r (by simp))
  · intro hn
    have hproper : Proper (itemsOf (Form.ofText url).tokens) →
        (normalize (normalize url).value).value = (normalize url).value := by
      intro hp
      rw [value_normalize, value_normalize, read_eq_ofText url,
        (canonical_ofText url).read_write hp]
    have ho : ∀ o ∈ (Form.ofText url).origin, ¬ Dangles o.authority := fun o ho hd =>
      hn (.inl ⟨o.authority, mem_tokens_authority.mpr ⟨o, ho, rfl⟩, hd⟩)
    by_cases hd : ∃ p ∈ (Form.ofText url).params, Dangles p.raw
    · obtain ⟨p, hp, hd⟩ := hd
      obtain ⟨ps, rest, hps⟩ := List.append_of_mem hp
      cases rest with
      | nil => exact hproper (proper_of_dangling_last hps hd)
      | cons q rest =>
        refine (normalize_normalize_of_param hps hd).mpr fun r hr => ?_
        obtain ⟨rest, rfl⟩ : ∃ rest', rest = r :: rest' := by
          cases rest with
          | nil => cases hr
          | cons s rest => exact ⟨rest, by rw [Option.mem_some_iff.mp hr]⟩
        refine Decidable.not_not.mp fun hle => hn (.inr ⟨ps, p, q, r, rest, ?_, hd, hle⟩)
        rw [Form.filterMap_param?_tokens, hps]
    · exact hproper (proper_ofText ho fun p hp h => hd ⟨p, hp, h⟩)

/-- The backslash at the end of the authority takes the root path in. -/
theorem normalize_authority_backslash :
    (normalize (normalize "s://a\\".toList).value).value ≠ (normalize "s://a\\".toList).value := by
  decide +kernel

end UrlTemplate
