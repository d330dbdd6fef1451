import UrlTemplate.Proofs.Scan
import UrlTemplate.Proofs.Url.Split

/-!
# Scanning a URL splits it

The scan of a URL goes from zone to zone and never back. Behind a place where a zone starts,
what the scan writes depends on the rest of the text alone, and on the few things that the
state remembers: whether there has been an authority, a path, a segment, an entry. So each
zone has an equation for the tokens that are read from there on, and they follow from each
other from the fragment backwards.

* `readFrom`: the tokens read from the rest of a text.
* `readFrom_fragment`, `readFrom_query`, `readFrom_path`, `readFrom_authority`: what they are
  in a zone.
* `readFrom_start_scheme`, `readFrom_start_path`: a text starts with a scheme or in its path.
-/

namespace UrlTemplate.Url

open Escape
open Scan (View Reply)

/-! ## Single steps -/

/-- The tokens read from the rest of a text. -/
def resume (p : Scan.Pending ReadState) (rest : List Char) : List Token :=
  (Scan.go (m := Id) (fun v => pure (readStep v)) 0 p rest).run

/-- The tokens read from the rest of a text, when the literal text `w` is waiting. -/
def readFrom (s : ReadState) (w rest : List Char) : List Token :=
  resume { state := s, literal := w } rest

/-- What a step sees there. -/
def viewAt (s : ReadState) (w rest : List Char) : View ReadState :=
  { index := 0, ahead := rest, literal := w, state := s }

theorem scan_eq_readFrom (text : List Char) : scan text = readFrom {} [] text := rfl

theorem go_eq_resume (i : Nat) (p : Scan.Pending ReadState) (rest : List Char) :
    Scan.go (m := Id) (fun v => pure (readStep v)) i p rest = resume p rest :=
  Scan.go_index (fun _ _ => rfl) rest i 0 p

theorem resume_skip {p : Scan.Pending ReadState} (h : 0 < p.skip) (c : Char) (rest : List Char) :
    resume p (c :: rest) = resume { p with skip := p.skip - 1 } rest := by
  rw [resume, Scan.go_skip h]
  exact go_eq_resume 1 _ rest

theorem resume_escape {p : Scan.Pending ReadState} (hs : p.skip = 0) (he : p.escape = true)
    (c : Char) (rest : List Char) :
    resume p (c :: rest) =
      resume { p with escape := false, literal := p.literal ++ [c] } rest := by
  rw [resume, Scan.go_escape hs he]
  exact go_eq_resume 1 _ rest

theorem readFrom_nil (s : ReadState) (w : List Char) :
    readFrom s w [] = (readStep (viewAt s w [])).emit := rfl

theorem readFrom_cons (s : ReadState) (w : List Char) (c : Char) (rest : List Char) :
    readFrom s w (c :: rest) =
      (readStep (viewAt s w (c :: rest))).emit ++
        resume (Scan.Pending.after { state := s, literal := w }
          (readStep (viewAt s w (c :: rest))) c) rest := by
  rw [← go_eq_resume 1, readFrom, resume, Scan.go, if_neg (by simp), if_neg (by simp)]
  rfl

theorem readFrom_keep {s : ReadState} {w rest : List Char} {c : Char}
    (h : readStep (viewAt s w (c :: rest)) = keepLiteral s) :
    readFrom s w (c :: rest) = readFrom s (w ++ [c]) rest := by
  rw [readFrom_cons, h]
  rfl

theorem readFrom_emit {s : ReadState} {w rest : List Char} {c : Char}
    {written : List Token × ReadState}
    (h : readStep (viewAt s w (c :: rest)) = emitTokens written) :
    readFrom s w (c :: rest) = written.1 ++ readFrom written.2 [] rest := by
  rw [readFrom_cons, h]
  rfl

/-- A protected character is kept together with its backslash, whatever it is. -/
theorem readFrom_pair (s : ReadState) (w : List Char) (c : Char) (rest : List Char) :
    readFrom s w ('\\' :: c :: rest) = readFrom s (w ++ ['\\', c]) rest := by
  rw [readFrom_cons]
  change resume { state := s, literal := w ++ ['\\'], escape := true } (c :: rest) = _
  rw [resume_escape rfl rfl]
  simp [readFrom]

/-- So is a backslash at the end. -/
theorem readFrom_stray (s : ReadState) (w : List Char) :
    readFrom s w ['\\'] = readFrom s (w ++ ['\\']) [] := by
  rw [readFrom_cons]
  rfl

/-! ## The fragment and the query -/

/-- The end of a URL: the fragment, or the root path when `root` holds and there is none. -/
def closing (root : Bool) (fragment : List Item) : List Token :=
  if fragment = [] then (if root then [.path .separator] else []) ++ [.finish]
  else [.fragmentSeparator, .fragment (textOf fragment), .finish]

/-- Query entries, behind others when `more` holds. -/
def paramTokens (more : Bool) (ps : List Param) : List Token :=
  if more then ps.flatMap fun p => [.paramSeparator, .param p] else Apply.writeParams ps

theorem paramTokens_append (more : Bool) (ps qs : List Param) :
    paramTokens more (ps ++ qs) = paramTokens more ps ++ paramTokens (more || !ps.isEmpty) qs := by
  cases more with
  | true => simp [paramTokens]
  | false => cases ps <;> simp [paramTokens, Apply.writeParams]

theorem finish_eq_closing {s : ReadState} (h : s.zone ≠ .fragment) :
    s.finish = closing (s.hasAuthority && !s.pathStarted && !s.queryOpen) [] := by
  have hz : (s.zone != .fragment) = true := by simpa using h
  simp only [ReadState.finish, hz, Bool.and_true, closing, if_true]
  split <;> rfl

theorem closeParam_eq (s : ReadState) (w : List Char) :
    s.closeParam w = (paramTokens s.queryOpen ((nonEmpty w).map .ofRaw),
      { s with queryOpen := s.queryOpen || !(nonEmpty w).isEmpty }) := by
  obtain ⟨zone, hasAuthority, pathStarted, segmentSeen, queryOpen⟩ := s
  by_cases hw : w = []
  · cases queryOpen <;> simp [ReadState.closeParam, nonEmpty, hw, paramTokens]
  · cases queryOpen <;>
      simp [ReadState.closeParam, nonEmpty, hw, paramTokens, Apply.writeParams]

theorem readFrom_fragment {s : ReadState} (h : s.zone = .fragment) (w rest : List Char) :
    readFrom s w rest = [.fragment (w ++ rest), .finish] := by
  have hnil : ∀ w, readFrom s w [] = [.fragment w, .finish] := fun w => by
    simp [readFrom_nil, readStep, viewAt, View.symbol, h, fragmentStep, emitTokens,
      ReadState.finish]
  rw [← textOf_items rest]
  induction items rest, proper_items rest using proper_induction generalizing w with
  | nil => simpa using hnil w
  | stray => exact (readFrom_stray s w).trans (hnil _)
  | pair c l _ ih => simpa [Item.text, readFrom_pair] using ih (w ++ ['\\', c])
  | bare c l hc _ ih =>
    rw [textOf_cons, Item.text, List.singleton_append, readFrom_keep, ih]
    · simp
    · simp [readStep, viewAt, View.symbol, hc, h, fragmentStep]

theorem readFrom_end {s : ReadState} (h : s.zone = .path ∨ s.zone = .query) :
    readFrom s [] [] = s.finish := by
  rcases h with h | h
  · simp [readFrom_nil, readStep, viewAt, View.symbol, h, pathStep, emitTokens,
      ReadState.endSegment, ReadState.closeSegment, ReadState.delimiter]
  · simp [readFrom_nil, readStep, viewAt, View.symbol, h, queryStep, emitTokens,
      ReadState.closeParam]

/-- A `#` starts the fragment, if anything follows it. -/
theorem openFragment_readFrom {s : ReadState} (h : s.zone = .path ∨ s.zone = .query)
    (l : List Item) :
    (s.openFragment (textOf l).head?).1 ++
        readFrom (s.openFragment (textOf l).head?).2 [] (textOf l) =
      closing (s.hasAuthority && !s.pathStarted && !s.queryOpen) l := by
  by_cases hl : l = []
  · have hz : s.zone ≠ .fragment := by rcases h with h | h <;> simp [h]
    simp [hl, ReadState.openFragment, readFrom_end h, finish_eq_closing hz]
  · obtain ⟨c, rest, hc⟩ := List.exists_cons_of_ne_nil (mt textOf_eq_nil.mp hl)
    simp [hc, ReadState.openFragment, readFrom_fragment, closing, hl]

theorem readFrom_query_end {s : ReadState} (h : s.zone = .query) (w : List Char) :
    readFrom s w [] = paramTokens s.queryOpen ((nonEmpty w).map .ofRaw) ++
      closing (s.hasAuthority && !s.pathStarted && !s.queryOpen && (nonEmpty w).isEmpty) [] := by
  simp [readFrom_nil, readStep, viewAt, View.symbol, h, queryStep, emitTokens, closeParam_eq,
    finish_eq_closing, Bool.and_assoc]

/-- The query reaches to the first bare `#`; the fragment follows. -/
theorem readFrom_query {l : List Item} (hl : Proper l) {s : ReadState} (h : s.zone = .query)
    (w : List Char) :
    readFrom s w (textOf l) =
      paramTokens s.queryOpen ((piecesFrom '&' w (beforeBare '#' l)).map .ofRaw) ++
        closing (s.hasAuthority && !s.pathStarted && !s.queryOpen &&
          (piecesFrom '&' w (beforeBare '#' l)).isEmpty) (afterBare '#' l) := by
  induction l, hl using proper_induction generalizing s w with
  | nil => simpa [piecesFrom] using readFrom_query_end h w
  | stray =>
    have hs := (readFrom_stray s w).trans (readFrom_query_end h _)
    simpa [Item.text, beforeBare_cons, afterBare_cons, piecesFrom] using hs
  | pair c l _ ih =>
    have hc := ih h (w ++ ['\\', c])
    simpa [Item.text, readFrom_pair, beforeBare_cons, afterBare_cons, piecesFrom] using hc
  | bare c l hc _ ih =>
    rw [textOf_cons, Item.text, List.singleton_append, beforeBare_cons, afterBare_cons]
    by_cases hhash : c = '#'
    · subst hhash
      have hstep : readStep (viewAt s w ('#' :: textOf l)) =
          emitTokens ((s.closeParam w).1 ++ ((s.closeParam w).2.openFragment (textOf l).head?).1,
            ((s.closeParam w).2.openFragment (textOf l).head?).2) := by
        simp [readStep, viewAt, View.symbol, View.peek, h, queryStep, List.head?_eq_getElem?]
      have hz : (s.closeParam w).2.zone = .query := by rw [closeParam_eq, ← h]
      rw [readFrom_emit hstep, List.append_assoc, openFragment_readFrom (.inr hz), closeParam_eq]
      simp [piecesFrom, Bool.and_assoc]
    · by_cases hamp : c = '&'
      · subst hamp
        have hstep : readStep (viewAt s w ('&' :: textOf l)) = emitTokens (s.closeParam w) := by
          simp [readStep, viewAt, View.symbol, h, queryStep]
        have hz : (s.closeParam w).2.zone = .query := by rw [closeParam_eq, ← h]
        rw [readFrom_emit hstep, ih hz, closeParam_eq, if_neg (by decide), if_neg (by decide),
          piecesFrom, if_pos rfl, List.map_append, paramTokens_append, List.append_assoc]
        by_cases hw : w = [] <;> simp [nonEmpty, hw]
      · rw [readFrom_keep, ih h]
        · simp [hhash, hamp, piecesFrom, Item.text]
        · simp [readStep, viewAt, View.symbol, hc, h, queryStep]

/-! ## The path -/

/-- The items of the path, when those of a URL go on with its path. -/
def pathPart (l : List Item) : List Item := beforeBare '?' (beforeBare '#' l)

/-- The items of the query, when those of a URL go on with its path. -/
def queryPart (l : List Item) : List Item := afterBare '?' (beforeBare '#' l)

def hasSeparator (ts : List PathToken) : Bool := ts.any (· == .separator)

@[simp] theorem hasSeparator_append (a b : List PathToken) :
    hasSeparator (a ++ b) = (hasSeparator a || hasSeparator b) := List.any_append

@[simp] theorem hasSeparator_segments (ts : List (List Char)) :
    hasSeparator (ts.map .segment) = false := by
  induction ts with
  | nil => rfl
  | cons t ts ih => exact ih

/-- What a bare `/` before the rest `p` of a path is: nothing if another one follows, or
if it ends a path with segments. -/
def slashTokens (seen : Bool) (p : List Item) : List PathToken :=
  if p.head? = some (.bare '/') ∨ (p = [] ∧ seen) then [] else [.separator]

/-- The path tokens still to be read, when the literal text `w` is waiting and `seen`
says whether there have been segments. -/
def pathFrom (seen : Bool) (w : List Char) (p : List Item) : List PathToken :=
  pathTokens
    (if piecesFrom '/' w p = [] then p ≠ [] ∧ seen = false
      else w = [] ∧ p.head? = some (.bare '/'))
    (piecesFrom '/' w p)

theorem pathFrom_nil (seen : Bool) (w : List Char) :
    pathFrom seen w [] = (nonEmpty w).map .segment := by
  by_cases hw : w = [] <;> simp [pathFrom, piecesFrom, nonEmpty, hw, pathTokens, joinSegments]

theorem pathFrom_keep {i : Item} (hi : i ≠ .bare '/') (seen : Bool) (w : List Char)
    (p : List Item) : pathFrom seen w (i :: p) = pathFrom seen (w ++ i.text) p := by
  have hne : piecesFrom '/' (w ++ i.text) p ≠ [] :=
    piecesFrom_ne_nil (by simp [i.text_ne_nil]) p
  simp [pathFrom, piecesFrom, hi, hne, i.text_ne_nil]

theorem pathFrom_slash (seen : Bool) (w : List Char) (p : List Item) :
    pathFrom seen w (.bare '/' :: p) =
      (nonEmpty w).map .segment ++ slashTokens (seen || !(nonEmpty w).isEmpty) p ++
        pathFrom (seen || !(nonEmpty w).isEmpty) [] p := by
  have hcons : piecesFrom '/' w (.bare '/' :: p) = nonEmpty w ++ piecesFrom '/' [] p := by
    simp [piecesFrom]
  unfold pathFrom slashTokens
  rw [hcons]
  by_cases hw : w = []
  · cases p with
    | nil => cases seen <;> simp [hw, nonEmpty, piecesFrom, pathTokens]
    | cons i q =>
      by_cases hi : i = .bare '/'
      · simp [hw, nonEmpty, hi]
      · simp [hw, nonEmpty, hi, piecesFrom_cons_ne_nil hi q, pathTokens]
  · cases p with
    | nil => simp [hw, nonEmpty, piecesFrom, pathTokens, joinSegments]
    | cons i q =>
      cases hp : piecesFrom '/' [] (i :: q) with
      | nil =>
        have hi : i = .bare '/' := Decidable.not_not.mp fun hi => piecesFrom_cons_ne_nil hi q hp
        simp [hw, nonEmpty, hi, pathTokens, joinSegments]
      | cons t ts =>
        by_cases hi : i = .bare '/' <;>
          simp [hw, nonEmpty, hi, pathTokens, joinSegments_cons_cons]

theorem closeSegment_eq (s : ReadState) (w : List Char) :
    s.closeSegment w = (((nonEmpty w).map .segment).map .path,
      { s with segmentSeen := s.segmentSeen || !(nonEmpty w).isEmpty }) := by
  by_cases hw : w = [] <;> simp [ReadState.closeSegment, nonEmpty, hw]

theorem pathPart_nil_iff (l : List Item) :
    pathPart l = [] ↔ (textOf l).head? = none ∨ (textOf l).head? = some '?' ∨
      (textOf l).head? = some '#' := by
  cases l with
  | nil => simp [pathPart]
  | cons i l =>
    cases i with
    | pair c => simp [pathPart, beforeBare_cons, Item.text]
    | bare c =>
      by_cases hh : c = '#'
      · simp [pathPart, beforeBare_cons, Item.text, hh]
      · by_cases hq : c = '?' <;> simp [pathPart, beforeBare_cons, Item.text, hh, hq]

theorem head?_pathPart (l : List Item) :
    (pathPart l).head? = some (.bare '/') ↔ (textOf l).head? = some '/' := by
  cases l with
  | nil => simp [pathPart]
  | cons i l =>
    cases i with
    | pair c => simp [pathPart, beforeBare_cons, Item.text]
    | bare c =>
      by_cases hh : c = '#'
      · simp [pathPart, beforeBare_cons, Item.text, hh]
      · by_cases hq : c = '?' <;> simp [pathPart, beforeBare_cons, Item.text, hh, hq]

theorem slash_eq (s : ReadState) (l : List Item) :
    s.slash (textOf l).head? =
      ((slashTokens s.segmentSeen (pathPart l)).map .path,
        { s with
          zone := .path
          pathStarted :=
            s.pathStarted || hasSeparator (slashTokens s.segmentSeen (pathPart l)) }) := by
  simp only [ReadState.slash, slashTokens, head?_pathPart, pathPart_nil_iff]
  split <;> simp [hasSeparator]

theorem readStep_path_delimiter {s : ReadState} (hz : s.zone = .path) {c : Char}
    (hd : isDelimiter c) (w : List Char) (l : List Item) :
    readStep (viewAt s w (c :: textOf l)) =
      emitTokens (s.endSegment w (some c) (textOf l).head?) := by
  have hc : c ≠ '\\' := by
    rintro rfl
    exact absurd hd (by decide)
  simp [readStep, viewAt, View.symbol, View.peek, hc, hz, pathStep, hd, List.head?_eq_getElem?]

theorem readFrom_path_end {s : ReadState} (hz : s.zone = .path) (hq : s.queryOpen = false)
    (w : List Char) :
    readFrom s w [] = (pathFrom s.segmentSeen w []).map .path ++
      closing (s.hasAuthority && !s.pathStarted) [] := by
  simp [readFrom_nil, readStep, viewAt, View.symbol, hz, pathStep, emitTokens, hq,
    ReadState.endSegment, closeSegment_eq, ReadState.delimiter, pathFrom_nil, finish_eq_closing]

/-- In the path, the query and the fragment follow once it is over. -/
theorem readFrom_path {l : List Item} (hl : Proper l) {s : ReadState} (hz : s.zone = .path)
    (hq : s.queryOpen = false) (w : List Char) :
    readFrom s w (textOf l) =
      (pathFrom s.segmentSeen w (pathPart l)).map .path ++
        Apply.writeParams ((piecesFrom '&' [] (queryPart l)).map .ofRaw) ++
        closing (s.hasAuthority && !s.pathStarted &&
          !hasSeparator (pathFrom s.segmentSeen w (pathPart l)) &&
          (piecesFrom '&' [] (queryPart l)).isEmpty) (afterBare '#' l) := by
  induction l, hl using proper_induction generalizing s w with
  | nil =>
    simpa [pathPart, queryPart, piecesFrom, pathFrom_nil] using readFrom_path_end hz hq w
  | stray =>
    have hs := (readFrom_stray s w).trans (readFrom_path_end hz hq _)
    simpa [Item.text, pathPart, queryPart, beforeBare_cons, afterBare_cons, pathFrom_keep,
      piecesFrom, pathFrom_nil] using hs
  | pair c l _ ih =>
    have hc := ih hz hq (w ++ ['\\', c])
    simpa [Item.text, readFrom_pair, pathPart, queryPart, beforeBare_cons, afterBare_cons,
      pathFrom_keep] using hc
  | bare c l hc hl ih =>
    rw [textOf_cons, Item.text, List.singleton_append]
    by_cases hslash : c = '/'
    · subst hslash
      have hpart : pathPart (.bare '/' :: l) = .bare '/' :: pathPart l := by
        simp [pathPart, beforeBare_cons]
      have hquery : queryPart (.bare '/' :: l) = queryPart l := by
        simp [queryPart, beforeBare_cons, afterBare_cons]
      rw [readFrom_emit (readStep_path_delimiter hz rfl w l), hpart, hquery, pathFrom_slash]
      simp only [ReadState.endSegment, closeSegment_eq, ReadState.delimiter, slash_eq]
      rw [ih rfl]
      · simp [afterBare_cons, Bool.and_assoc]
      · exact hq
    · by_cases hhash : c = '#'
      · subst hhash
        rw [readFrom_emit (readStep_path_delimiter hz rfl w l)]
        simp only [ReadState.endSegment, closeSegment_eq, ReadState.delimiter]
        rw [List.append_assoc, openFragment_readFrom]
        · simp [pathPart, queryPart, beforeBare_cons, afterBare_cons, pathFrom_nil, piecesFrom, hq]
        · exact .inl hz
      · by_cases hmark : c = '?'
        · subst hmark
          rw [readFrom_emit (readStep_path_delimiter hz rfl w l)]
          simp only [ReadState.endSegment, closeSegment_eq, ReadState.delimiter]
          rw [readFrom_query hl rfl]
          simp [pathPart, queryPart, beforeBare_cons, afterBare_cons, pathFrom_nil, paramTokens, hq]
        · have hd : isDelimiter c = false := by simp [isDelimiter, hslash, hhash, hmark]
          rw [readFrom_keep, ih hz hq]
          · simp [pathPart, queryPart, beforeBare_cons, afterBare_cons, hhash, hmark, hslash,
              pathFrom_keep, Item.text]
          · simp [readStep, viewAt, View.symbol, hc, hz, pathStep, hd]

/-! ## The scheme and the authority -/

/-- The authority reaches to the first bare `/`, `?` or `#`, which is read as in a path. -/
theorem readFrom_authority {l : List Item} (hl : Proper l) {s : ReadState}
    (hz : s.zone = .authority) (w : List Char) :
    readFrom s w (textOf l) =
      .authority (w ++ textOf (l.takeWhile (!isStop ·))) ::
        readFrom { s with hasAuthority := true, zone := .path } []
          (textOf (l.dropWhile (!isStop ·))) := by
  have hend : ∀ w, readFrom s w [] =
      .authority w :: readFrom { s with hasAuthority := true, zone := .path } [] [] := fun w => by
    simp [readFrom_end, readFrom_nil s, readStep, viewAt, View.symbol, hz, authorityStep,
      emitTokens, ReadState.endAuthority, ReadState.delimiter]
  induction l, hl using proper_induction generalizing w with
  | nil => simpa using hend w
  | stray =>
    have hs := (readFrom_stray s w).trans (hend _)
    simpa [Item.text, isStop, isDelimiter] using hs
  | pair c l _ ih =>
    have hc := ih (w ++ ['\\', c])
    simpa [Item.text, readFrom_pair, isStop] using hc
  | bare c l hc hl ih =>
    rw [textOf_cons, Item.text, List.singleton_append]
    by_cases hd : isDelimiter c
    · have hstep : readStep (viewAt s w (c :: textOf l)) =
          emitTokens (s.endAuthority w (some c) (textOf l).head?) := by
        simp [readStep, viewAt, View.symbol, View.peek, hc, hz, authorityStep, hd,
          List.head?_eq_getElem?]
      simp only [List.takeWhile_cons, List.dropWhile_cons, isStop, hd, Bool.not_true,
        Bool.false_eq_true, if_false, textOf_nil, List.append_nil, textOf_cons, Item.text,
        List.singleton_append]
      rw [readFrom_emit hstep, readFrom_emit (readStep_path_delimiter rfl hd [] l)]
      simp [ReadState.endAuthority, ReadState.endSegment, ReadState.closeSegment]
    · rw [readFrom_keep, ih]
      · simp [isStop, hd, Item.text]
      · simp [readStep, viewAt, View.symbol, hc, hz, authorityStep, hd]

theorem slashes_prefix_iff_textOf {l : List Item} :
    [.bare '/', .bare '/'] <+: l ↔ (textOf l)[0]? = some '/' ∧ (textOf l)[1]? = some '/' := by
  match l with
  | [] => simp
  | .pair c :: l => simp [Item.text]
  | [.bare c] => simp [Item.text]
  | .bare c :: .bare d :: l => simp [Item.text, eq_comm]
  | .bare c :: .pair d :: l => simp [Item.text]

theorem readFrom_start_end {s : ReadState} (hz : s.zone = .start) (w : List Char) :
    readFrom s w [] = readFrom { s with zone := .path } w [] := by
  simp [readFrom_nil, readStep, viewAt, View.symbol, hz, startStep, pathStep, emitTokens,
    ReadState.endSegment, closeSegment_eq, ReadState.delimiter, finish_eq_closing]

theorem readStep_start {s : ReadState} (hz : s.zone = .start) {c : Char} (hc : c ≠ '\\')
    {l : List Item} (hs : ¬ (Item.bare c = .bare ':' ∧ [.bare '/', .bare '/'] <+: l))
    (w : List Char) :
    readStep (viewAt s w (c :: textOf l)) = pathStep (viewAt s w (c :: textOf l)) := by
  rw [slashes_prefix_iff_textOf] at hs
  simp only [Item.bare.injEq] at hs
  simp [readStep, viewAt, View.symbol, View.peek, hc, hz, startStep, hs]

/-- Where no scheme ends, a text is read as a path from the start. -/
theorem readFrom_start_path {l : List Item} (hl : Proper l) (h : cutScheme l = none)
    {s : ReadState} (hz : s.zone = .start) (w : List Char) :
    readFrom s w (textOf l) = readFrom { s with zone := .path } w (textOf l) := by
  induction l, hl using proper_induction generalizing w with
  | nil => exact readFrom_start_end hz w
  | stray =>
    simpa [Item.text, readFrom_stray] using readFrom_start_end hz (w ++ ['\\'])
  | pair c l _ ih =>
    have hc := ih (cutScheme_of_cons h rfl).2 (w ++ ['\\', c])
    simpa [Item.text, readFrom_pair] using hc
  | bare c l hc hl ih =>
    rw [textOf_cons, Item.text, List.singleton_append]
    by_cases hd : isDelimiter c
    · have hs : ¬ (Item.bare c = .bare ':' ∧ [.bare '/', .bare '/'] <+: l) := by
        rintro ⟨he, -⟩
        rw [Item.bare.inj he] at hd
        exact absurd hd (by decide)
      have hstep : readStep (viewAt s w (c :: textOf l)) =
          emitTokens (s.endSegment w (some c) (textOf l).head?) := by
        rw [readStep_start hz hc hs]
        simp [viewAt, View.symbol, View.peek, pathStep, hd, List.head?_eq_getElem?]
      rw [readFrom_emit hstep, readFrom_emit (readStep_path_delimiter rfl hd w l)]
      simp only [ReadState.endSegment, closeSegment_eq]
      obtain rfl | rfl | rfl : c = '/' ∨ c = '?' ∨ c = '#' := by
        simpa [isDelimiter, or_assoc] using hd
      · simp [ReadState.delimiter, ReadState.slash]
      · simp [ReadState.delimiter]
      · -- a `#` at the very end leaves the zone as it is
        by_cases hl : l = []
        · simp [ReadState.delimiter, ReadState.openFragment, hl, readFrom_start_end, hz]
        · obtain ⟨d, rest, hd⟩ := List.exists_cons_of_ne_nil (mt textOf_eq_nil.mp hl)
          simp [ReadState.delimiter, ReadState.openFragment, hd]
    · have hi : isStop (.bare c) = false := by simpa [isStop] using hd
      obtain ⟨hs, hn⟩ := cutScheme_of_cons h hi
      rw [readFrom_keep, readFrom_keep, ih hn]
      · simp [readStep, viewAt, View.symbol, hc, pathStep, hd]
      · rw [readStep_start hz hc hs]
        simp [viewAt, View.symbol, pathStep, hd]

/-- A scheme ends at the first bare `:` that `//` follows. -/
theorem readFrom_start_scheme {l a r : List Item} (hl : Proper l) (h : cutScheme l = some (a, r))
    {s : ReadState} (hz : s.zone = .start) (w : List Char) :
    readFrom s w (textOf l) =
      .scheme (w ++ textOf a) :: .schemeSeparator ::
        readFrom { s with zone := .authority } [] (textOf r) := by
  obtain ⟨rfl, ha⟩ := cutScheme_eq_some_iff.mp h
  clear h
  induction a generalizing w with
  | nil =>
    have hstep : readStep (viewAt s w (':' :: '/' :: '/' :: textOf r)) =
        { state := { s with zone := .authority }
          emit := [.scheme w, .schemeSeparator]
          take := true
          skip := 2 } := by
      simp [readStep, viewAt, View.symbol, View.peek, hz, startStep]
    simp only [List.nil_append, textOf_cons, Item.text, List.singleton_append]
    rw [readFrom_cons, hstep, resume_skip (by simp [Scan.Pending.after]),
      resume_skip (by simp [Scan.Pending.after])]
    simp [Scan.Pending.after, readFrom]
  | cons i a ih =>
    have hi : isStop i = false := ha i List.mem_cons_self
    have ih := fun w => ih w (fun j hj => ha j (List.mem_cons_of_mem _ hj)) hl.2
    cases i with
    | pair c => simpa [Item.text, readFrom_pair] using ih (w ++ ['\\', c])
    | bare c =>
      have hc : c ≠ '\\' := by
        rintro rfl
        simpa using hl.1 rfl
      have hs : ¬ (Item.bare c = .bare ':' ∧
          [.bare '/', .bare '/'] <+: a ++ .bare ':' :: .bare '/' :: .bare '/' :: r) := by
        rintro ⟨-, hp⟩
        obtain ⟨r', hr⟩ := slashes_prefix_iff.mp hp
        cases a with
        | nil => simp at hr
        | cons j a =>
          obtain rfl : j = .bare '/' := by simpa using (List.cons.inj hr).1
          exact absurd (ha (.bare '/') (by simp)) (by decide)
      have hd : isDelimiter c = false := hi
      rw [List.cons_append, textOf_cons, Item.text, List.singleton_append, readFrom_keep, ih]
      · simp [Item.text]
      · rw [readStep_start hz hc hs]
        simp [viewAt, View.symbol, pathStep, hd]

end UrlTemplate.Url
