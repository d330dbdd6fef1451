import UrlTemplate.Proofs.Url.ParamOrder
import UrlTemplate.Proofs.Url.Scanning

/-!
# Reading a URL is splitting it

The scan meets the parts of a URL from left to right, the split cuts the fragment off
first. Both find the same parts, since no scheme and no authority reaches over a bare
`#`; and the root path that the scan adds at the end stands where the path is empty.

* `cutOrigin_beforeBare`: cutting off the fragment does not change the origin.
* `Form.tokens_ofParts`: the tokens of a form in the order in which they are scanned.
* `read_eq_split`: the tokens that are read from a text are those of its form.
-/

namespace UrlTemplate.Url

open Escape

/-! ## The origin does not depend on the fragment -/

theorem slashes_prefix_beforeBare (l : List Item) :
    [.bare '/', .bare '/'] <+: beforeBare '#' l ↔ [.bare '/', .bare '/'] <+: l := by
  constructor
  · exact fun h => h.trans (beforeBare_isPrefix '#' l)
  · rw [slashes_prefix_iff]
    rintro ⟨r, rfl⟩
    exact ⟨beforeBare '#' r, by simp [beforeBare_cons]⟩

theorem cutScheme_beforeBare (l : List Item) :
    cutScheme (beforeBare '#' l) =
      (cutScheme l).map fun (scheme, rest) => (scheme, beforeBare '#' rest) := by
  induction l with
  | nil => rfl
  | cons i l ih =>
    by_cases hi : i = .bare '#'
    · subst hi
      simp [beforeBare_cons, cutScheme, isStop, isDelimiter]
    · rw [beforeBare_cons, if_neg hi, cutScheme, cutScheme, ih]
      simp only [slashes_prefix_beforeBare]
      split
      · rename_i h
        obtain ⟨r, rfl⟩ := slashes_prefix_iff.mp h.2
        simp [beforeBare_cons]
      · split
        · rfl
        · cases cutScheme l <;> rfl

theorem takeWhile_beforeBare (l : List Item) :
    (beforeBare '#' l).takeWhile (!isStop ·) = l.takeWhile (!isStop ·) := by
  induction l with
  | nil => rfl
  | cons i l ih =>
    by_cases hi : i = .bare '#'
    · simp [beforeBare_cons, hi, isStop, isDelimiter]
    · rw [beforeBare_cons, if_neg hi, List.takeWhile_cons, List.takeWhile_cons, ih]

theorem dropWhile_beforeBare (l : List Item) :
    (beforeBare '#' l).dropWhile (!isStop ·) = beforeBare '#' (l.dropWhile (!isStop ·)) := by
  induction l with
  | nil => rfl
  | cons i l ih =>
    by_cases hi : i = .bare '#'
    · simp [beforeBare_cons, hi, isStop, isDelimiter]
    · rw [beforeBare_cons, if_neg hi, List.dropWhile_cons, List.dropWhile_cons]
      split
      · exact ih
      · rw [beforeBare_cons, if_neg hi]

/-- What is cut off behind the fragment mark changes nothing before it. -/
theorem cutOrigin_beforeBare (l : List Item) :
    cutOrigin (beforeBare '#' l) = ((cutOrigin l).1, beforeBare '#' (cutOrigin l).2) := by
  rw [cutOrigin, cutOrigin, cutScheme_beforeBare]
  cases cutScheme l with
  | none => rfl
  | some cut => simp [takeWhile_beforeBare, dropWhile_beforeBare]

theorem hash_not_mem_of_not_isStop {a : List Item} (h : ∀ i ∈ a, isStop i = false) :
    .bare '#' ∉ a :=
  fun hm => absurd (h _ hm) (by decide)

/-- The items of the origin, as they stand in a text, and what follows them. -/
theorem cutOrigin_eq (l : List Item) :
    ∃ a : List Item, l = a ++ (cutOrigin l).2 ∧ .bare '#' ∉ a := by
  unfold cutOrigin
  cases h : cutScheme l with
  | none => exact ⟨[], by simp⟩
  | some cut =>
    obtain ⟨scheme, rest⟩ := cut
    obtain ⟨rfl, hs⟩ := cutScheme_eq_some_iff.mp h
    refine ⟨scheme ++ .bare ':' :: .bare '/' :: .bare '/' :: rest.takeWhile (!isStop ·), ?_, ?_⟩
    · simp
    · have hr : .bare '#' ∉ rest.takeWhile (!isStop ·) := fun hm => by
        have := List.all_takeWhile (l := rest) (p := (!isStop ·))
        have := List.all_eq_true.mp this _ hm
        exact absurd this (by decide)
      simpa [hash_not_mem_of_not_isStop hs] using hr

theorem afterBare_cutOrigin (l : List Item) :
    afterBare '#' (cutOrigin l).2 = afterBare '#' l := by
  obtain ⟨a, ha, hh⟩ := cutOrigin_eq l
  rw [← afterBare_append hh, ← ha]

theorem proper_cutOrigin {l : List Item} (hl : Proper l) : Proper (cutOrigin l).2 := by
  obtain ⟨a, ha, -⟩ := cutOrigin_eq l
  exact proper_of_isInfix ⟨a, [], by rw [List.append_nil, ← ha]⟩ hl

/-- What follows an authority does not go on with it. -/
theorem pathPart_cutOrigin {l : List Item} (h : (cutOrigin l).1.isSome) :
    pathPart (cutOrigin l).2 = [] ∨ (pathPart (cutOrigin l).2).head? = some (.bare '/') := by
  unfold cutOrigin at *
  cases hc : cutScheme l with
  | none => simp [hc] at h
  | some cut =>
    obtain ⟨scheme, rest⟩ := cut
    simp only
    cases hd : rest.dropWhile (!isStop ·) with
    | nil => exact .inl rfl
    | cons i r =>
      have hi := List.head?_dropWhile_not (!isStop ·) rest
      rw [hd] at hi
      cases i with
      | pair c => cases hi
      | bare c =>
        have hc : isDelimiter c = true := by simpa [isStop] using hi
        obtain rfl | rfl | rfl : c = '/' ∨ c = '?' ∨ c = '#' := by
          simpa [isDelimiter, or_assoc] using hc
        · exact .inr (by simp [pathPart, beforeBare_cons])
        · exact .inl (by simp [pathPart, beforeBare_cons])
        · exact .inl (by simp [pathPart, beforeBare_cons])

/-! ## The tokens of the parts -/

theorem closing_eq_writeFragment {root : Bool} {fragment : List Item}
    (h : fragment = [] → root = false) :
    closing root fragment =
      Apply.writeFragment (if fragment = [] then none else some (textOf fragment)) ++
        [.finish] := by
  by_cases hf : fragment = [] <;> simp [closing, hf, h, Apply.writeFragment]

theorem pathFrom_eq (path : List Item) :
    pathFrom false [] path =
      pathTokens (if piecesFrom '/' [] path = [] then path ≠ [] else
        path.head? = some (.bare '/')) (piecesFrom '/' [] path) := by
  simp [pathFrom]

theorem hasSeparator_pathFrom {path : List Item} (h : path.head? = some (.bare '/')) :
    hasSeparator (pathFrom false [] path) := by
  have hne : path ≠ [] := by
    rintro rfl
    cases h
  simp [pathFrom_eq, h, hne, pathTokens, hasSeparator]

/-- The tokens of a form in the order in which they are scanned: the root path of an
authority that stands alone comes last. -/
theorem Form.tokens_ofParts {origin : Option Origin} {path : List Item}
    (h : origin.isSome → path = [] ∨ path.head? = some (.bare '/')) (query fragment : List Item) :
    (ofParts origin path query fragment).tokens =
      originTokens origin ++ (pathFrom false [] path).map .path ++
        Apply.writeParams ((piecesFrom '&' [] query).map .ofRaw) ++
        closing (origin.isSome && !hasSeparator (pathFrom false [] path) &&
          (piecesFrom '&' [] query).isEmpty) fragment := by
  have hparams : (pieces '&' query).map (fun p => Param.ofRaw (textOf p)) =
      (piecesFrom '&' [] query).map .ofRaw := by
    rw [← map_textOf_pieces, List.map_map]
    rfl
  simp only [ofParts, tokens, map_textOf_pieces, hparams, List.map_eq_nil_iff]
  by_cases hroot : path = [] ∧ origin.isSome ∧ piecesFrom '&' [] query = [] ∧ fragment = []
  · obtain ⟨rfl, ho, hq, rfl⟩ := hroot
    simp [ho, hq, closing, pathFrom_eq, piecesFrom, pathTokens, hasSeparator,
      Apply.writeFragment]
  · have hclosing : fragment = [] → (origin.isSome && !hasSeparator (pathFrom false [] path) &&
        (piecesFrom '&' [] query).isEmpty) = false := by
      intro hf
      by_cases ho : origin.isSome
      · rcases h ho with hp | hp
        · simp [show piecesFrom '&' [] query ≠ [] from fun hq => hroot ⟨hp, ho, hq, hf⟩]
        · simp [hasSeparator_pathFrom hp]
      · simp [ho]
    have hrooted : path ≠ [] ∨ (origin.isSome ∧ piecesFrom '&' [] query = [] ∧ fragment = []) ↔
        path ≠ [] := by
      by_cases hp : path = []
      · simpa [hp] using hroot
      · simp [hp]
    rw [closing_eq_writeFragment hclosing, pathFrom_eq]
    simp only [hrooted, List.append_assoc]

/-! ## Reading -/

/-- The origin is scanned first; a path, a query and a fragment follow. -/
theorem scan_eq_origin (text : List Char) :
    scan text = originTokens (cutOrigin (items text)).1 ++
      readFrom { zone := .path, hasAuthority := (cutOrigin (items text)).1.isSome } []
        (textOf (cutOrigin (items text)).2) := by
  have hl := proper_items text
  have hscan : scan text = readFrom {} [] (textOf (items text)) := by
    rw [textOf_items, scan_eq_readFrom]
  rw [hscan, cutOrigin]
  cases h : cutScheme (items text) with
  | none => exact readFrom_start_path hl h rfl []
  | some cut =>
    obtain ⟨scheme, rest⟩ := cut
    have hr : Proper rest := by
      have he := (cutScheme_eq_some_iff.mp h).1
      exact proper_of_isInfix ⟨scheme ++ [.bare ':', .bare '/', .bare '/'], [], by simp [he]⟩ hl
    rw [readFrom_start_scheme hl h rfl, readFrom_authority hr rfl]
    rfl

theorem scan_eq_tokens (text : List Char) :
    scan text =
      (let body := cutOrigin (beforeBare '#' (items text))
      Form.ofParts body.1 (beforeBare '?' body.2) (afterBare '?' body.2)
        (afterBare '#' (items text))).tokens := by
  rw [scan_eq_origin, cutOrigin_beforeBare]
  have hp := proper_cutOrigin (proper_items text)
  rw [readFrom_path hp rfl rfl, afterBare_cutOrigin]
  have hparts := Form.tokens_ofParts (pathPart_cutOrigin (l := items text))
    (queryPart (cutOrigin (items text)).2) (afterBare '#' (items text))
  simpa [pathPart, queryPart] using hparts.symm

/-- Reading the text of a proper list of items. -/
theorem read_textOf {l : List Item} (hl : Proper l) :
    read (textOf l) = (Form.ofItems l).tokens := by
  rw [read, scan_eq_tokens, sortParams_tokens, items_textOf hl]
  rfl

/-- Reading a text gives the tokens of its form. -/
theorem read_eq_ofText (text : List Char) : read text = (Form.ofText text).tokens := by
  have h := read_textOf (proper_items text)
  rwa [textOf_items] at h

/-- A URL says what is found by global cuts: its fragment stands behind the first bare
`#`, its query behind the first bare `?` after the origin, and its segments and its sorted
entries are the non-empty pieces of the rest. It has a scheme if, before the fragment, a
bare `:` has `//` behind it and no bare `/`, `?` or `#` before it. -/
theorem read_eq_split (text : List Char) :
    read text = (Form.ofText text).tokens ∧
      ∀ scheme rest, cutScheme (beforeBare '#' (items text)) = some (scheme, rest) ↔
        beforeBare '#' (items text) =
            scheme ++ .bare ':' :: .bare '/' :: .bare '/' :: rest ∧
          ∀ i ∈ scheme, isStop i = false :=
  ⟨read_eq_ofText text, fun _ _ => cutScheme_eq_some_iff⟩

end UrlTemplate.Url
