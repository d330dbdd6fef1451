import UrlTemplate.Apply.Fragment
import UrlTemplate.Apply.Query
import UrlTemplate.Proofs.Text.Cuts

/-!
# Canonical forms of URLs

A `Form` is what a URL says: its scheme and authority, whether its path starts at the
root, the segments of the path, the query entries and the fragment. `Form.tokens` lays
it out as a list of tokens. Not every form is that of a URL:

* `Form.Readable`: the texts hold no bare delimiter that would cut them, and behind an
  authority the path starts with a separator.
* `Form.Canonical`: moreover the query entries are sorted, and an authority is followed
  by something, be it only the root path.
* `Canonical`: the tokens of a canonical form.
-/

namespace UrlTemplate.Url

open Escape

/-- The scheme and the authority of a URL. -/
structure Origin where
  scheme : List Char
  authority : List Char
  deriving DecidableEq, Repr

/-- What a URL says. -/
structure Form where
  origin : Option Origin
  /-- The path starts with a separator. -/
  rooted : Bool
  segments : List (List Char)
  params : List Param
  fragment : Option (List Char)
  deriving DecidableEq, Repr

/-! ## Tokens of a form -/

def originTokens : Option Origin → List Token
  | none => []
  | some o => [.scheme o.scheme, .schemeSeparator, .authority o.authority]

/-- Segments with a separator before each of them. -/
def followers (segments : List (List Char)) : List PathToken :=
  segments.flatMap fun t => [.separator, .segment t]

/-- Segments with single separators between them. -/
def joinSegments : List (List Char) → List PathToken
  | [] => []
  | t :: ts => .segment t :: followers ts

/-- A path; the root path has no segments. -/
def pathTokens (rooted : Bool) (segments : List (List Char)) : List PathToken :=
  (if rooted then [.separator] else []) ++ joinSegments segments

/-- The tokens of a form. -/
def Form.tokens (f : Form) : List Token :=
  originTokens f.origin ++ (pathTokens f.rooted f.segments).map .path ++
    Apply.writeParams f.params ++ Apply.writeFragment f.fragment ++ [.finish]

@[simp] theorem joinSegments_nil : joinSegments [] = [] := rfl

theorem joinSegments_cons_cons (t u : List Char) (ts : List (List Char)) :
    joinSegments (t :: u :: ts) = .segment t :: .separator :: joinSegments (u :: ts) := rfl

@[simp] theorem followers_nil : followers [] = [] := rfl

theorem followers_cons (t : List Char) (ts : List (List Char)) :
    followers (t :: ts) = .separator :: joinSegments (t :: ts) := rfl

theorem joinSegments_append {ts : List (List Char)} (h : ts ≠ []) (us : List (List Char)) :
    joinSegments (ts ++ us) = joinSegments ts ++ followers us := by
  obtain ⟨t, ts, rfl⟩ := List.exists_cons_of_ne_nil h
  simp [joinSegments, followers]

theorem pathTokens_append {ts : List (List Char)} (h : ts ≠ []) (rooted : Bool)
    (us : List (List Char)) :
    pathTokens rooted (ts ++ us) = pathTokens rooted ts ++ followers us := by
  rw [pathTokens, joinSegments_append h, ← List.append_assoc, pathTokens]

@[simp] theorem writeParams_nil : Apply.writeParams [] = [] := rfl

/-! ## The parts of the tokens -/

theorem originTokens_inj {o o' : Option Origin} (h : originTokens o = originTokens o') :
    o = o' := by
  cases o with
  | none =>
    cases o' with
    | none => rfl
    | some o' => cases h
  | some o =>
    cases o' with
    | none => cases h
    | some o' =>
      obtain ⟨scheme, authority⟩ := o
      obtain ⟨scheme', authority'⟩ := o'
      simpa [originTokens] using h

theorem mem_originTokens {o : Option Origin} {t : Token} (h : t ∈ originTokens o) :
    t.isAuthority ∧ t.path? = none ∧ t.param? = none ∧ t.fragment? = none := by
  cases o with
  | none => cases h
  | some o =>
    simp only [originTokens, List.mem_cons, List.not_mem_nil, or_false] at h
    obtain rfl | rfl | rfl := h <;> exact ⟨rfl, rfl, rfl, rfl⟩

theorem mem_map_path {ps : List PathToken} {t : Token} (h : t ∈ ps.map .path) :
    t.isAuthority = false ∧ t.param? = none ∧ t.fragment? = none := by
  obtain ⟨p, -, rfl⟩ := List.mem_map.mp h
  exact ⟨rfl, rfl, rfl⟩

theorem mem_writeParams {ps : List Param} {t : Token} (h : t ∈ Apply.writeParams ps) :
    t.isAuthority = false ∧ t.path? = none ∧ t.fragment? = none := by
  cases ps with
  | nil => cases h
  | cons p ps =>
    simp only [Apply.writeParams, List.mem_cons, List.mem_flatMap, List.not_mem_nil, or_false] at h
    obtain rfl | rfl | ⟨q, -, rfl | rfl⟩ := h <;> exact ⟨rfl, rfl, rfl⟩

theorem mem_writeFragment {fragment : Option (List Char)} {t : Token}
    (h : t ∈ Apply.writeFragment fragment) :
    t.isAuthority = false ∧ t.path? = none ∧ t.param? = none := by
  cases fragment with
  | none => cases h
  | some text =>
    simp only [Apply.writeFragment, List.mem_cons, List.not_mem_nil, or_false] at h
    obtain rfl | rfl := h <;> exact ⟨rfl, rfl, rfl⟩

/-- The text of a segment. -/
def PathToken.segment? : PathToken → Option (List Char)
  | segment text => some text
  | separator => none

/-- The path in a list of tokens. -/
def pathOf (ts : List Token) : List PathToken := ts.filterMap Token.path?

/-- The segments in a list of tokens. -/
def segmentsOf (ts : List Token) : List (List Char) := (pathOf ts).filterMap PathToken.segment?

/-- The first fragment in a list of tokens. -/
def fragmentOf (ts : List Token) : Option (List Char) := ts.findSome? Token.fragment?

theorem filterMap_segment?_pathTokens (rooted : Bool) (ts : List (List Char)) :
    (pathTokens rooted ts).filterMap PathToken.segment? = ts := by
  have hfollowers : ∀ ts, (followers ts).filterMap PathToken.segment? = ts := by
    intro ts
    induction ts with
    | nil => rfl
    | cons t ts ih => simpa [followers, PathToken.segment?, List.filterMap_cons] using ih
  cases ts with
  | nil => cases rooted <;> rfl
  | cons t ts => cases rooted <;> exact hfollowers (t :: ts)

/-- A path starts with a separator if it is rooted. -/
theorem head?_pathTokens (rooted : Bool) (ts : List (List Char)) :
    (pathTokens rooted ts).head? = some .separator ↔ rooted = true := by
  cases rooted <;> cases ts <;> simp [pathTokens, joinSegments]

theorem pathTokens_inj {r r' : Bool} {ts us : List (List Char)}
    (h : pathTokens r ts = pathTokens r' us) : r = r' ∧ ts = us := by
  constructor
  · rw [Bool.eq_iff_iff, ← head?_pathTokens r ts, h, head?_pathTokens]
  · rw [← filterMap_segment?_pathTokens r ts, h, filterMap_segment?_pathTokens]

theorem filterMap_param?_writeParams (ps : List Param) :
    (Apply.writeParams ps).filterMap Token.param? = ps := by
  have hrest : ∀ ps : List Param,
      (ps.flatMap fun p => [Token.paramSeparator, .param p]).filterMap Token.param? = ps := by
    intro ps
    induction ps with
    | nil => rfl
    | cons p ps ih => simpa [List.filterMap_cons, Token.param?] using ih
  cases ps with
  | nil => rfl
  | cons p ps => simpa [Apply.writeParams, List.filterMap_cons, Token.param?] using hrest ps

namespace Form

variable (f : Form)

theorem filterMap_param?_tokens : f.tokens.filterMap Token.param? = f.params := by
  have ho : (originTokens f.origin).filterMap Token.param? = [] :=
    List.filterMap_eq_nil_iff.mpr fun t ht => (mem_originTokens ht).2.2.1
  have hp : ((pathTokens f.rooted f.segments).map .path).filterMap Token.param? = [] :=
    List.filterMap_eq_nil_iff.mpr fun t ht => (mem_map_path ht).2.1
  have hf : (Apply.writeFragment f.fragment).filterMap Token.param? = [] :=
    List.filterMap_eq_nil_iff.mpr fun t ht => (mem_writeFragment ht).2.2
  simp only [tokens, List.filterMap_append, ho, hp, hf, filterMap_param?_writeParams,
    List.nil_append, List.append_nil]
  exact List.append_nil _

theorem filterMap_path?_tokens :
    f.tokens.filterMap Token.path? = pathTokens f.rooted f.segments := by
  have ho : (originTokens f.origin).filterMap Token.path? = [] :=
    List.filterMap_eq_nil_iff.mpr fun t ht => (mem_originTokens ht).2.1
  have hp : ((pathTokens f.rooted f.segments).map .path).filterMap Token.path? =
      pathTokens f.rooted f.segments := by
    rw [List.filterMap_map]
    exact List.filterMap_some
  have hq : (Apply.writeParams f.params).filterMap Token.path? = [] :=
    List.filterMap_eq_nil_iff.mpr fun t ht => (mem_writeParams ht).2.1
  have hf : (Apply.writeFragment f.fragment).filterMap Token.path? = [] :=
    List.filterMap_eq_nil_iff.mpr fun t ht => (mem_writeFragment ht).2.1
  simp only [tokens, List.filterMap_append, ho, hp, hq, hf, List.nil_append, List.append_nil]
  exact List.append_nil _

theorem filter_isAuthority_tokens : f.tokens.filter Token.isAuthority = originTokens f.origin := by
  have ho : (originTokens f.origin).filter Token.isAuthority = originTokens f.origin :=
    List.filter_eq_self.mpr fun t ht => (mem_originTokens ht).1
  have hp : ((pathTokens f.rooted f.segments).map .path).filter Token.isAuthority = [] :=
    List.filter_eq_nil_iff.mpr fun t ht => by simp [(mem_map_path ht).1]
  have hq : (Apply.writeParams f.params).filter Token.isAuthority = [] :=
    List.filter_eq_nil_iff.mpr fun t ht => by simp [(mem_writeParams ht).1]
  have hf : (Apply.writeFragment f.fragment).filter Token.isAuthority = [] :=
    List.filter_eq_nil_iff.mpr fun t ht => by simp [(mem_writeFragment ht).1]
  simp only [tokens, List.filter_append, ho, hp, hq, hf, List.append_nil]
  exact List.append_nil _

theorem segmentsOf_tokens : segmentsOf f.tokens = f.segments := by
  rw [segmentsOf, pathOf, f.filterMap_path?_tokens, filterMap_segment?_pathTokens]

theorem findSome?_fragment?_tokens : f.tokens.findSome? Token.fragment? = f.fragment := by
  have ho : (originTokens f.origin).findSome? Token.fragment? = none :=
    List.findSome?_eq_none_iff.mpr fun t ht => (mem_originTokens ht).2.2.2
  have hp : ((pathTokens f.rooted f.segments).map .path).findSome? Token.fragment? = none :=
    List.findSome?_eq_none_iff.mpr fun t ht => (mem_map_path ht).2.2
  have hq : (Apply.writeParams f.params).findSome? Token.fragment? = none :=
    List.findSome?_eq_none_iff.mpr fun t ht => (mem_writeParams ht).2.2
  simp only [tokens, List.findSome?_append, ho, hp, hq, Option.none_or]
  cases f.fragment <;> rfl

/-- The tokens of a form say what its parts are. -/
theorem tokens_inj {f g : Form} (h : f.tokens = g.tokens) : f = g := by
  have horigin : originTokens f.origin = originTokens g.origin := by
    rw [← f.filter_isAuthority_tokens, h, g.filter_isAuthority_tokens]
  have hpath : pathTokens f.rooted f.segments = pathTokens g.rooted g.segments := by
    rw [← f.filterMap_path?_tokens, h, g.filterMap_path?_tokens]
  obtain ⟨hrooted, hsegments⟩ := pathTokens_inj hpath
  have hparams : f.params = g.params := by
    rw [← f.filterMap_param?_tokens, h, g.filterMap_param?_tokens]
  have hfragment : f.fragment = g.fragment := by
    rw [← f.findSome?_fragment?_tokens, h, g.findSome?_fragment?_tokens]
  have ho : f.origin = g.origin := originTokens_inj horigin
  obtain ⟨origin, rooted, segments, params, fragment⟩ := f
  simp_all

end Form

/-! ## Canonical forms -/

/-- The characters in `stops` do not stand bare in the text. -/
def Clear (stops : List Char) (text : List Char) : Prop := ∀ d ∈ stops, .bare d ∉ items text

instance (stops text : List Char) : Decidable (Clear stops text) :=
  List.decidableBAll (fun d => Item.bare d ∉ items text) stops

/-- The texts of a form are such that reading them again cuts none of them. -/
structure Form.Readable (f : Form) : Prop where
  origin : ∀ o ∈ f.origin, Clear ['/', '?', '#'] o.scheme ∧ Clear ['/', '?', '#'] o.authority
  path : f.origin.isSome → f.rooted ∨ f.segments = []
  segments : ∀ t ∈ f.segments, t ≠ [] ∧ Clear ['/', '?', '#'] t
  params : ∀ p ∈ f.params, p.raw ≠ [] ∧ p = .ofRaw p.raw ∧ Clear ['&', '#'] p.raw
  fragment : ∀ t ∈ f.fragment, t ≠ []

instance (f : Form) : Decidable f.Readable :=
  decidable_of_iff
    ((∀ o ∈ f.origin, Clear ['/', '?', '#'] o.scheme ∧ Clear ['/', '?', '#'] o.authority) ∧
      (f.origin.isSome → f.rooted ∨ f.segments = []) ∧
      (∀ t ∈ f.segments, t ≠ [] ∧ Clear ['/', '?', '#'] t) ∧
      (∀ p ∈ f.params, p.raw ≠ [] ∧ p = .ofRaw p.raw ∧ Clear ['&', '#'] p.raw) ∧
      ∀ t ∈ f.fragment, t ≠ [])
    ⟨fun ⟨ho, hp, hs, hq, hf⟩ => ⟨ho, hp, hs, hq, hf⟩,
      fun ⟨ho, hp, hs, hq, hf⟩ => ⟨ho, hp, hs, hq, hf⟩⟩

/-- A form that reading gives. -/
structure Form.Canonical (f : Form) : Prop extends f.Readable where
  root : f.origin.isSome → f.rooted ∨ f.params ≠ [] ∨ f.fragment.isSome
  sorted : f.params.Pairwise fun p q => p.le q

instance (f : Form) : Decidable f.Canonical :=
  decidable_of_iff
    (f.Readable ∧ (f.origin.isSome → f.rooted ∨ f.params ≠ [] ∨ f.fragment.isSome) ∧
      f.params.Pairwise fun p q => p.le q)
    ⟨fun ⟨h, hr, hs⟩ => ⟨h, hr, hs⟩, fun ⟨h, hr, hs⟩ => ⟨h, hr, hs⟩⟩

/-- The tokens are those of a canonical form. -/
def Canonical (ts : List Token) : Prop := ∃ f : Form, f.Canonical ∧ ts = f.tokens

end UrlTemplate.Url
