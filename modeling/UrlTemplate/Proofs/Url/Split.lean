import UrlTemplate.Proofs.Url.Form
import UrlTemplate.Url.Read

/-!
# Splitting a URL

What a text says as a URL, by global cuts instead of a scan: the fragment is cut off
at the first bare `#`, then the scheme and the authority, then the query at the first
bare `?`; what is left is the path. The entries of the query and the segments of the
path are the non-empty pieces between bare `&` and bare `/`.

* `Form.ofParts`: the form of a path, a query and a fragment that have been cut out.
* `Form.ofText`: the form of a text.
-/

namespace UrlTemplate.Url

open Escape

/-- The item is a bare character that ends a path segment or an authority. -/
def isStop : Item → Bool
  | .bare c => isDelimiter c
  | .pair _ => false

/-- The items before and after the first `://` with a bare `:`, unless a bare `/`, `?`
or `#` stands before it. -/
def cutScheme : List Item → Option (List Item × List Item)
  | [] => none
  | i :: l =>
    if i = .bare ':' ∧ [.bare '/', .bare '/'] <+: l then some ([], l.drop 2)
    else if isStop i then none
    else (cutScheme l).map fun (scheme, rest) => (i :: scheme, rest)

/-- The scheme and the authority, if there is a scheme, and what follows them. The
authority reaches to the first bare `/`, `?` or `#`. -/
def cutOrigin (l : List Item) : Option Origin × List Item :=
  match cutScheme l with
  | none => (none, l)
  | some (scheme, rest) =>
    (some ⟨textOf scheme, textOf (rest.takeWhile (!isStop ·))⟩, rest.dropWhile (!isStop ·))

/-- The form of the parts of a URL, with the query entries in the order of the query.
A path without segments is the root if there is any `/`, or if nothing but an
authority is there. -/
def Form.ofParts (origin : Option Origin) (path query fragment : List Item) : Form :=
  let segments := (pieces '/' path).map textOf
  let params := (pieces '&' query).map fun p => Param.ofRaw (textOf p)
  { origin, segments, params
    fragment := if fragment = [] then none else some (textOf fragment)
    rooted :=
      if segments = [] then path ≠ [] ∨ (origin.isSome ∧ params = [] ∧ fragment = [])
      else path.head? = some (.bare '/') }

/-- The same form with its query entries sorted. -/
def Form.sorted (f : Form) : Form := { f with params := f.params.mergeSort Param.le }

/-- The form of a list of items. -/
def Form.ofItems (l : List Item) : Form :=
  let body := cutOrigin (beforeBare '#' l)
  (ofParts body.1 (beforeBare '?' body.2) (afterBare '?' body.2) (afterBare '#' l)).sorted

/-- The form of a text. -/
def Form.ofText (text : List Char) : Form := ofItems (items text)

/-! ## The scheme -/

theorem slashes_prefix_iff {l : List Item} :
    [.bare '/', .bare '/'] <+: l ↔ ∃ r, l = .bare '/' :: .bare '/' :: r := by
  constructor
  · rintro ⟨r, rfl⟩
    exact ⟨r, rfl⟩
  · rintro ⟨r, rfl⟩
    exact ⟨r, rfl⟩

theorem cutScheme_of_cons {i : Item} {l : List Item} (h : cutScheme (i :: l) = none)
    (hi : isStop i = false) :
    ¬ (i = .bare ':' ∧ [.bare '/', .bare '/'] <+: l) ∧ cutScheme l = none := by
  rw [cutScheme] at h
  split at h
  · cases h
  · rename_i hs
    rw [if_neg (by simp [hi]), Option.map_eq_none_iff] at h
    exact ⟨hs, h⟩

/-- The scheme is the text before a bare `:` that `//` follows, with no bare `/`, `?` or
`#` in it; there is at most one such place. -/
theorem cutScheme_eq_some_iff {l a r : List Item} :
    cutScheme l = some (a, r) ↔
      l = a ++ .bare ':' :: .bare '/' :: .bare '/' :: r ∧ ∀ i ∈ a, isStop i = false := by
  induction l generalizing a with
  | nil => simp [cutScheme]
  | cons i l ih =>
    rw [cutScheme]
    split
    · rename_i h
      obtain ⟨rfl, hl⟩ := h
      obtain ⟨r', rfl⟩ := slashes_prefix_iff.mp hl
      constructor
      · rintro ⟨⟩
        simp
      · rintro ⟨he, ha⟩
        match a with
        | [] => simpa using he
        | [j] => simp at he
        | j :: k :: a =>
          obtain rfl : Item.bare '/' = k := by simp_all
          exact absurd (ha (.bare '/') (by simp)) (by decide)
    · rename_i h
      constructor
      · intro he
        split at he
        · cases he
        · rename_i hi
          obtain ⟨⟨a', r'⟩, hc, heq⟩ := Option.map_eq_some_iff.mp he
          cases heq
          obtain ⟨rfl, ha⟩ := ih.mp hc
          exact ⟨rfl, by simpa [hi] using ha⟩
      · rintro ⟨he, ha⟩
        cases a with
        | nil =>
          obtain ⟨rfl, rfl⟩ := List.cons.inj he
          exact absurd ⟨rfl, slashes_prefix_iff.mpr ⟨r, rfl⟩⟩ h
        | cons j a =>
          obtain ⟨rfl, rfl⟩ := List.cons.inj he
          rw [if_neg (by simp [ha i (by simp)]),
            ih.mpr ⟨rfl, fun k hk => ha k (List.mem_cons_of_mem _ hk)⟩]
          rfl

end UrlTemplate.Url
