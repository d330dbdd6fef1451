import UrlTemplate.Proofs.Pattern.Language

/-!
# Where reading a pattern fails

A step of the scan fails because of its own character, or because of the one behind a `?`, and it
has not looked at more than one character behind that. A step that goes well has looked at the
characters it passes over and at one more. So an error depends on the pattern up to the character
behind its place, and the pattern before its place can still be brought to a good end.

* `readStep_error_cases`, `readStep_error_congr`: what a step that fails says and depends on.
* `sees_of_ok`: what a step that goes well depends on.
* `exists_located`: where the error of a run lies, and what it says of the text there.
* `fails_congr`: the run fails alike on any text that starts alike.
* `exists_go_take`: the run goes well on some text that goes on differently from there.
* `read_error_located`: all of this for the errors of patterns.
-/

namespace UrlTemplate.Pattern

open Scan (View Reply Pending Fails)

/-- The character that a fault tells of, if it tells of one. -/
def Fault.character? : Fault → Option Char
  | .afterQuery c | .inParamList c => some c
  | _ => none

/-! ## Looking ahead -/

variable {i : Nat} {z : Zone} {w : List Char} {c : Char} {rest rest' : List Char}
  {e : SyntaxError} {reply : Reply Zone Token} {written : List Token}

/-- The steps that look at what is behind their character. -/
def LooksAhead : Zone → Char → Prop
  | .path _, c => c = '-' ∨ c = '?' ∨ c = '#'
  | .query, c => c = '#'
  | .paramList, _ | .fragment, _ => False

theorem readStep_of_not_looksAhead (h : ¬ LooksAhead z c) (i : Nat) (w rest rest' : List Char) :
    readStep (viewAt i z w (c :: rest)) = readStep (viewAt i z w (c :: rest')) := by
  cases z with
  | path fresh =>
    simp only [LooksAhead, not_or] at h
    simp only [readStep, viewAt, pathStep, View.symbol, List.head?_cons]
    split <;> simp_all
  | query =>
    simp only [LooksAhead] at h
    simp only [readStep, viewAt, queryStep, View.symbol, List.head?_cons]
    split <;> simp_all
  | paramList => rfl
  | fragment => rfl

theorem readStep_nil_error (h : readStep (viewAt i z w []) = .error e) :
    z = .paramList ∧ e = { fault := .unclosedParamList, index := i } := by
  cases z with
  | paramList =>
    cases h
    exact ⟨rfl, rfl⟩
  | _ => cases h

/-! ## What follows a `?` -/

/-- What can stand behind a `?`. -/
inductive Opening : List Char → Prop
  | nothing : Opening []
  | glob (rest : List Char) : Opening ('*' :: rest)
  | minus (rest : List Char) : Opening ('-' :: rest)
  | deny (rest : List Char) : Opening ('[' :: '^' :: rest)
  | allow {rest : List Char} (h : rest.head? ≠ some '^') : Opening ('[' :: rest)
  | other {c : Char} (h : c ∉ ['*', '-', '[']) (rest : List Char) : Opening (c :: rest)

theorem opening (rest : List Char) : Opening rest := by
  cases rest with
  | nil => exact .nothing
  | cons c rest =>
    by_cases hc : c ∈ ['*', '-', '[']
    · simp only [List.mem_cons, List.not_mem_nil, or_false] at hc
      obtain rfl | rfl | rfl := hc
      · exact .glob rest
      · exact .minus rest
      · by_cases h : rest.head? = some '^'
        · obtain ⟨rest, rfl⟩ := List.head?_eq_some_iff.mp h
          exact .deny rest
        · exact .allow h
    · exact .other hc rest

theorem openQuery_allow (h : rest.head? ≠ some '^') (i : Nat) (z : Zone) (w : List Char)
    (written : List Token) :
    openQuery (viewAt i z w ('?' :: '[' :: rest)) written = .ok
      { state := .paramList, emit := written ++ [.query .allowList], take := true, skip := 1 } := by
  rw [List.head?_eq_getElem?] at h
  exact if_neg h

theorem openQuery_other (h : c ∉ ['*', '-', '[']) (i : Nat) (z : Zone) (w rest : List Char)
    (written : List Token) :
    openQuery (viewAt i z w ('?' :: c :: rest)) written =
      .error { fault := .malformedQuery, index := i + 1 } := by
  simp only [List.mem_cons, List.not_mem_nil, or_false, not_or] at h
  simp only [openQuery, viewAt, View.peek, List.getElem?_cons_succ, List.getElem?_cons_zero]
  split <;> simp_all [throw, throwThe, MonadExceptOf.throw]

/-! ## A `-` in the path -/

/-- What can stand behind a `-` that stands alone in the path. -/
def Alone (next : Option Char) : Prop :=
  (next = none ∨ next = some '?' ∨ next = some '#') ∨ next = some '/'

theorem peek_one_viewAt (i : Nat) (z : Zone) (w : List Char) (c : Char) (l : List Char) :
    (viewAt i z w (c :: l)).peek 1 = l.head? := List.head?_eq_getElem?.symm

theorem minusStep_of_alone (h : Alone rest.head?) (i : Nat) (z : Zone) (w : List Char) :
    ∃ emit, minusStep (viewAt i z w ('-' :: rest)) true = .ok { state := .path false, emit } := by
  rw [minusStep, peek_one_viewAt, if_neg (by simpa using h.resolve_left)]
  split <;> exact ⟨_, rfl⟩

theorem minusStep_of_not_alone {fresh : Bool} (h : fresh = true → ¬ Alone rest.head?) (i : Nat)
    (z : Zone) (w : List Char) : minusStep (viewAt i z w ('-' :: rest)) fresh =
      .error { fault := .minus, index := i } := by
  rw [minusStep, peek_one_viewAt, if_pos]
  · rfl
  · cases fresh with
    | false => exact .inl rfl
    | true => exact .inr (h rfl)

theorem minusStep_congr {fresh : Bool} (h : rest'.head? = rest.head?) (i : Nat) (z : Zone)
    (w : List Char) : minusStep (viewAt i z w ('-' :: rest')) fresh =
      minusStep (viewAt i z w ('-' :: rest)) fresh := by
  rw [minusStep, minusStep, peek_one_viewAt, peek_one_viewAt, h]
  rfl

/-! ## Steps that fail -/

theorem openQuery_error_cases (h : openQuery (viewAt i z w ('?' :: rest)) written = .error e) :
    ∃ d more, rest = d :: more ∧ d ∉ ['*', '-', '['] ∧
      e = { fault := .malformedQuery, index := i + 1 } := by
  cases opening rest with
  | nothing | glob | minus | deny => cases h
  | allow hm =>
    rw [openQuery_allow hm] at h
    cases h
  | other hd more =>
    rw [openQuery_other hd] at h
    cases h
    exact ⟨_, more, rfl, hd, rfl⟩

/-- A step that fails tells of its own character, or of the one behind a `?` in the path. -/
theorem readStep_error_cases (h : readStep (viewAt i z w (c :: rest)) = .error e) :
    (e.index = i ∧ e.fault ≠ .unclosedParamList ∧ ∀ d ∈ e.fault.character?, d = c) ∨
      ∃ fresh d more, z = .path fresh ∧ c = '?' ∧ rest = d :: more ∧ d ∉ ['*', '-', '['] ∧
        e = { fault := .malformedQuery, index := i + 1 } := by
  cases z with
  | path fresh =>
    simp only [readStep, viewAt, pathStep, View.symbol, List.head?_cons] at h
    split at h
    case h_5 =>
      simp only [minusStep] at h
      split at h
      · cases h
        exact .inl ⟨rfl, by simp, by simp [Fault.character?]⟩
      · split at h <;> cases h
    case h_6 heq =>
      obtain rfl := Option.some.inj heq
      obtain ⟨d, more, hrest, hd, he⟩ := openQuery_error_cases h
      exact .inr ⟨fresh, d, more, rfl, rfl, hrest, hd, he⟩
    all_goals cases h
    all_goals exact .inl ⟨rfl, by simp, by simp [Fault.character?]⟩
  | query =>
    simp only [readStep, viewAt, queryStep, View.symbol, List.head?_cons] at h
    split at h <;> cases h <;> simp_all [Fault.character?]
  | paramList =>
    simp only [readStep, viewAt, paramListStep, View.symbol, List.head?_cons] at h
    split at h
    case h_1 heq => cases heq
    case h_8 heq =>
      split at h <;> cases h
      simp_all [Fault.character?]
    all_goals cases h
    all_goals exact .inl ⟨rfl, by simp, by simp [Fault.character?]⟩
  | fragment => cases h

/-- A step that fails does so whatever stands behind the next character. -/
theorem readStep_error_congr (h : readStep (viewAt i z w (c :: rest)) = .error e)
    (hnext : ∀ d ∈ rest.head?, rest'.head? = some d) :
    readStep (viewAt i z w (c :: rest')) = .error e := by
  by_cases hz : LooksAhead z c
  · cases z with
    | path fresh =>
      obtain rfl | rfl | rfl := hz
      · replace h : minusStep (viewAt i (.path fresh) w ('-' :: rest)) fresh = .error e := h
        have halone : fresh = true → ¬ Alone rest.head? := by
          rintro rfl ha
          obtain ⟨emit, hemit⟩ := minusStep_of_alone ha i (.path true) w
          cases hemit.symm.trans h
        have halone' : fresh = true → ¬ Alone rest'.head? := by
          intro hf
          cases rest with
          | nil => exact absurd (.inl (.inl rfl)) (halone hf)
          | cons d rest =>
            rw [hnext d rfl]
            exact halone hf
        rw [minusStep_of_not_alone halone] at h
        exact (minusStep_of_not_alone halone' ..).trans h
      · obtain ⟨d, more, rfl, hd, rfl⟩ := openQuery_error_cases h
        obtain ⟨more', rfl⟩ := List.head?_eq_some_iff.mp (hnext d rfl)
        exact openQuery_other hd ..
      · cases h
    | query =>
      obtain rfl := hz
      cases h
    | paramList | fragment => cases hz
  · rw [readStep_of_not_looksAhead hz _ _ rest' rest, h]

/-! ## Steps that go well -/

/-- What brings a pattern to a good end in a zone, also behind an open protection. -/
def closing : Zone → Bool → List Char
  | .paramList, false => [']']
  | .paramList, true => [']', ']']
  | _, _ => []

/-- Only a step that looks ahead passes characters over. -/
theorem skip_of_not_looksAhead (hz : ¬ LooksAhead z c)
    (h : readStep (viewAt i z w (c :: rest)) = .ok reply) : reply.skip = 0 := by
  cases z with
  | path fresh =>
    simp only [LooksAhead, not_or] at hz
    simp only [readStep, viewAt, pathStep, View.symbol, List.head?_cons] at h
    split at h
    case h_5 | h_6 | h_7 => simp_all
    all_goals cases h
    all_goals rfl
  | query =>
    simp only [readStep, viewAt, queryStep, View.symbol, List.head?_cons] at h
    split at h
    case h_2 heq => exact absurd (Option.some.inj heq) hz
    all_goals cases h
    rfl
  | paramList =>
    simp only [readStep, viewAt, paramListStep, View.symbol, List.head?_cons] at h
    split at h
    case h_8 =>
      split at h <;> cases h
      rfl
    all_goals cases h
    all_goals rfl
  | fragment =>
    simp only [readStep, viewAt, fragmentStep, View.symbol, List.head?_cons] at h
    split at h <;> cases h <;> rfl

/-- What a step has looked at when it goes well: the characters `s` behind its own, which it passes
over, and the next one. That one does not matter either, where it is one that closes. -/
def Sees (i : Nat) (z : Zone) (w : List Char) (c : Char) (rest : List Char)
    (reply : Reply Zone Token) : Prop :=
  ∃ s more, rest = s ++ more ∧ s.length = reply.skip ∧
    (∀ more' : List Char, more'.head? = more.head? →
      readStep (viewAt i z w (c :: (s ++ more'))) = .ok reply) ∧
    ∃ emit, readStep (viewAt i z w (c :: (s ++ closing reply.state reply.escape))) =
      .ok { reply with emit }

theorem sees_minus {fresh : Bool}
    (h : readStep (viewAt i (.path fresh) w ('-' :: rest)) = .ok reply) :
    Sees i (.path fresh) w '-' rest reply := by
  by_cases ha : fresh = true ∧ Alone rest.head?
  · obtain ⟨rfl, ha⟩ := ha
    obtain ⟨emit, hemit⟩ := minusStep_of_alone ha i (.path true) w
    cases hemit.symm.trans h
    have hend : Alone ([] : List Char).head? := .inl (.inl rfl)
    exact ⟨[], rest, rfl, rfl, fun _ hm => (minusStep_congr hm ..).trans hemit,
      minusStep_of_alone hend ..⟩
  · cases h.symm.trans (minusStep_of_not_alone (fun hf hal => ha ⟨hf, hal⟩) ..)

theorem sees_mark {fresh : Bool}
    (h : readStep (viewAt i (.path fresh) w ('?' :: rest)) = .ok reply) :
    Sees i (.path fresh) w '?' rest reply := by
  replace h : openQuery (viewAt i (.path fresh) w ('?' :: rest)) (closeSegment w) = .ok reply := h
  cases opening rest with
  | nothing =>
    cases h
    refine ⟨[], [], rfl, rfl, fun more' hm => ?_, _, rfl⟩
    rw [List.head?_eq_none_iff.mp hm]
    rfl
  | glob more =>
    cases h
    exact ⟨['*'], more, rfl, rfl, fun _ _ => rfl, _, rfl⟩
  | minus more =>
    cases h
    exact ⟨['-'], more, rfl, rfl, fun _ _ => rfl, _, rfl⟩
  | deny more =>
    cases h
    exact ⟨['[', '^'], more, rfl, rfl, fun _ _ => rfl, _, rfl⟩
  | @allow more hcaret =>
    rw [openQuery_allow hcaret] at h
    cases h
    exact ⟨['['], more, rfl, rfl, fun more' hm => openQuery_allow (hm ▸ hcaret) .., _, rfl⟩
  | other hd more =>
    rw [openQuery_other hd] at h
    cases h

theorem sees_hash (written : List Token) (hz : ∀ rest, readStep (viewAt i z w ('#' :: rest)) =
      .ok (openFragment (viewAt i z w ('#' :: rest)) written))
    (h : readStep (viewAt i z w ('#' :: rest)) = .ok reply) : Sees i z w '#' rest reply := by
  rw [hz] at h
  by_cases hd : rest.head? = some '-' ∨ rest.head? = some '*'
  · obtain hd | hd := hd <;> obtain ⟨more, rfl⟩ := List.head?_eq_some_iff.mp hd <;> cases h
    · exact ⟨['-'], more, rfl, rfl, fun _ _ => hz _, _, hz _⟩
    · exact ⟨['*'], more, rfl, rfl, fun _ _ => hz _, _, hz _⟩
  · have hopen : ∀ l : List Char, ¬ (l.head? = some '-' ∨ l.head? = some '*') →
        openFragment (viewAt i z w ('#' :: l)) written =
          { state := .fragment, emit := written, take := true } := by
      intro l hl
      rw [openFragment, peek_one_viewAt]
      split <;> simp_all
    rw [hopen rest hd] at h
    cases h
    refine ⟨[], rest, rfl, rfl, fun more' hm => ?_, _, hz _⟩
    rw [List.nil_append, hz, hopen _ (hm ▸ hd)]

theorem sees_of_ok (h : readStep (viewAt i z w (c :: rest)) = .ok reply) :
    Sees i z w c rest reply := by
  by_cases hz : LooksAhead z c
  · cases z with
    | path fresh =>
      obtain rfl | rfl | rfl := hz
      · exact sees_minus h
      · exact sees_mark h
      · exact sees_hash (closeSegment w) (fun _ => rfl) h
    | query =>
      obtain rfl := hz
      exact sees_hash [] (fun _ => rfl) h
    | paramList | fragment => cases hz
  · have hsame : ∀ rest', readStep (viewAt i z w (c :: rest')) = .ok reply := fun rest' =>
      (readStep_of_not_looksAhead hz i w rest' rest).trans h
    exact ⟨[], rest, rfl, (skip_of_not_looksAhead hz h).symm, fun _ _ => hsame _, _, hsame _⟩

/-! ## Runs that fail -/

variable {n : Nat} {p p' : Pending Zone} {text text' : List Char}

/-- What an error says of the text that it was found in, `n` characters behind the place `i`. -/
structure Located (e : SyntaxError) (i n : Nat) (p : Pending Zone) (text : List Char) : Prop where
  index : e.index = i + n
  skip_le : p.skip ≤ n
  le : n ≤ text.length
  unclosed_iff : n = text.length ↔ e.fault = .unclosedParamList
  character : ∀ c ∈ e.fault.character?, text[n]? = some c

theorem Located.cons (h : Located e (i + 1) n p' rest) (hp : p.skip ≤ p'.skip + 1) (c : Char) :
    Located e i (n + 1) p (c :: rest) := by
  obtain ⟨hindex, hskip, hle, hunclosed, hchar⟩ := h
  refine ⟨by omega, by omega, Nat.succ_le_succ hle, ?_, hchar⟩
  rw [← hunclosed, List.length_cons, Nat.add_right_cancel_iff]

theorem Located.eq_succ {m : Nat} (h : Located e i n p text)
    (hm : Located e (i + 1) m p' text') : n = m + 1 := by
  have := h.index
  have := hm.index
  omega

/-- An error lies within the text, behind what is passed over; at its end lies only that of a list
that is not closed. -/
theorem exists_located (h : Fails readStep e i p text) (hp : p.skip ≤ text.length) :
    ∃ n, Located e i n p text := by
  induction h with
  | finish h =>
    obtain ⟨-, rfl⟩ := readStep_nil_error h
    exact ⟨0, rfl, hp, Nat.le_refl _, by simp, nofun⟩
  | here hs he h =>
    obtain ⟨hi, hfault, hc⟩ | ⟨fresh, d, more, -, -, rfl, -, rfl⟩ := readStep_error_cases h
    · refine ⟨0, hi, by omega, by omega, by simp [hfault], fun d hd => ?_⟩
      simp [hc d hd]
    · exact ⟨1, rfl, by omega, by simp, by simp, nofun⟩
  | @skipped i p c rest hs h ih =>
    rw [List.length_cons] at hp
    obtain ⟨n, hn⟩ := ih (by simp only; omega)
    exact ⟨n + 1, hn.cons (by simp only; omega) _⟩
  | escaped hs he h ih =>
    obtain ⟨n, hn⟩ := ih (by simp only; omega)
    exact ⟨n + 1, hn.cons (by simp only; omega) _⟩
  | later hs he hr h ih =>
    obtain ⟨s, more, rfl, hlen, -⟩ := sees_of_ok hr
    obtain ⟨n, hn⟩ := ih (by simp [Pending.after, ← hlen])
    exact ⟨n + 1, hn.cons (by omega) _⟩

/-- The run behind a step that goes well: what the step has looked at comes before the error. -/
theorem exists_seen (hr : readStep (p.view i (c :: rest)) = .ok reply)
    (h : Fails readStep e (i + 1) (p.after reply c) rest) :
    ∃ s more k, rest = s ++ more ∧ s.length = reply.skip ∧
      Located e (i + 1) (s.length + k) (p.after reply c) rest ∧
      (∀ more' : List Char, more'.head? = more.head? →
        readStep (p.view i (c :: (s ++ more'))) = .ok reply) ∧
      ∃ emit, readStep (p.view i (c :: (s ++ closing reply.state reply.escape))) =
        .ok { reply with emit } := by
  obtain ⟨s, more, rfl, hlen, hsame, hclosed⟩ := sees_of_ok hr
  obtain ⟨m, hm⟩ := exists_located h (by simp [Pending.after, ← hlen])
  obtain ⟨k, rfl⟩ : ∃ k, m = s.length + k := Nat.exists_eq_add_of_le (hlen ▸ hm.skip_le)
  exact ⟨s, more, k, rfl, hlen, hm, hsame, hclosed⟩

theorem exists_cons_of_take {α : Type} {n : Nat} {a : α} {l l' : List α}
    (h : (a :: l).take (n + 1) <+: l') : ∃ m, l' = a :: m ∧ l.take n <+: m := by
  obtain ⟨m, rfl⟩ := h
  exact ⟨l.take n ++ m, rfl, m, rfl⟩

theorem exists_append_of_take {α : Type} {n : Nat} {s l l' : List α}
    (h : (s ++ l).take (s.length + n) <+: l') : ∃ m, l' = s ++ m ∧ l.take n <+: m := by
  rw [List.take_length_add_append] at h
  obtain ⟨m, rfl⟩ := h
  exact ⟨l.take n ++ m, by simp, m, rfl⟩

/-- An error that is not at the end of the text is found in any text that starts alike, up to the
character behind the place of the error. -/
theorem fails_congr (h : Fails readStep e i p text) (hp : p.skip ≤ text.length)
    (hn : Located e i n p text) (hlt : n < text.length) (htext : text.take (n + 2) <+: text') :
    Fails readStep e i p text' := by
  induction h generalizing n text' with
  | finish => cases hlt
  | here hs he h =>
    obtain ⟨rest', rfl, hrest⟩ := exists_cons_of_take htext
    refine .here hs he (readStep_error_congr h fun d hd => ?_)
    obtain ⟨more, rfl⟩ := List.head?_eq_some_iff.mp hd
    obtain ⟨more', rfl, -⟩ := exists_cons_of_take hrest
    rfl
  | @skipped i p c rest hs h ih =>
    rw [List.length_cons] at hp
    have hskip : p.skip - 1 ≤ rest.length := by omega
    obtain ⟨m, hm⟩ := exists_located h hskip
    obtain rfl := hn.eq_succ hm
    obtain ⟨rest', rfl, hrest⟩ := exists_cons_of_take htext
    exact .skipped hs (ih hskip hm (Nat.lt_of_succ_lt_succ hlt) hrest)
  | @escaped i p c rest hs he h ih =>
    have hskip : p.skip ≤ rest.length := by omega
    obtain ⟨m, hm⟩ := exists_located h hskip
    obtain rfl := hn.eq_succ hm
    obtain ⟨rest', rfl, hrest⟩ := exists_cons_of_take htext
    exact .escaped hs he (ih hskip hm (Nat.lt_of_succ_lt_succ hlt) hrest)
  | @later i p c rest reply hs he hr h ih =>
    obtain ⟨s, more, k, rfl, hlen, hm, hsame, -⟩ := exists_seen hr h
    obtain rfl := hn.eq_succ hm
    obtain ⟨rest', rfl, hrest⟩ := exists_cons_of_take htext
    refine .later hs he ?_ (ih (by simp [Pending.after, ← hlen]) hm
      (Nat.lt_of_succ_lt_succ hlt) hrest)
    -- the step sees the same: something stands behind what it has passed over
    have hmore : more ≠ [] := by
      rintro rfl
      simp only [List.append_nil, List.length_cons] at hlt
      omega
    obtain ⟨d, more, rfl⟩ := List.exists_cons_of_ne_nil hmore
    obtain ⟨more', rfl, hnext⟩ := exists_append_of_take (n := k + 2) hrest
    obtain ⟨more', rfl, -⟩ := exists_cons_of_take hnext
    exact hsame _ rfl

/-! ## Going on differently -/

theorem exists_go_closing (i : Nat) (z : Zone) (w : List Char) (escape : Bool)
    (h : escape = true → z = .paramList) :
    ∃ ts, Scan.go readStep i { state := z, literal := w, escape } (closing z escape) = .ok ts := by
  cases z with
  | paramList => cases escape <;> exact ⟨_, rfl⟩
  | path | query | fragment =>
    cases escape with
    | false => exact ⟨_, rfl⟩
    | true => cases h rfl

/-- What stands before the place of an error can be brought to a good end. -/
theorem exists_go_take (h : Fails readStep e i p text) (hp : p.skip ≤ text.length)
    (hn : Located e i n p text) :
    ∃ ending, (n = p.skip → ending = closing p.state p.escape) ∧
      ∃ ts, Scan.go readStep i p (text.take n ++ ending) = .ok ts := by
  induction h generalizing n with
  | @finish i p h =>
    obtain ⟨state, literal, skip, escape⟩ := p
    obtain rfl : skip = 0 := Nat.le_zero.mp hp
    rw [List.take_nil]
    have hescape : escape = true → state = .paramList := fun _ => (readStep_nil_error h).1
    exact ⟨_, fun _ => rfl, exists_go_closing i state literal escape hescape⟩
  | @here i p c rest hs he h =>
    obtain ⟨state, literal, skip, escape⟩ := p
    obtain rfl : skip = 0 := hs
    obtain rfl : escape = false := he
    obtain ⟨hi, -⟩ | ⟨fresh, d, more, rfl, rfl, rfl, -, rfl⟩ := readStep_error_cases h
    · obtain rfl : n = 0 := Nat.add_left_cancel (hn.index.symm.trans hi)
      exact ⟨_, fun _ => rfl, exists_go_closing i state literal false nofun⟩
    · obtain rfl : n = 1 := Nat.add_left_cancel hn.index.symm
      exact ⟨[], nofun, _, rfl⟩
  | @skipped i p c rest hs h ih =>
    rw [List.length_cons] at hp
    have hskip : p.skip - 1 ≤ rest.length := by omega
    obtain ⟨m, hm⟩ := exists_located h hskip
    obtain rfl := hn.eq_succ hm
    obtain ⟨ending, hend, hts⟩ := ih hskip hm
    refine ⟨ending, fun hm => hend (by simp only; omega), ?_⟩
    rwa [List.take_succ_cons, List.cons_append, Scan.go_skip hs]
  | @escaped i p c rest hs he h ih =>
    have hskip : p.skip ≤ rest.length := by omega
    obtain ⟨m, hm⟩ := exists_located h hskip
    obtain rfl := hn.eq_succ hm
    obtain ⟨ending, -, hts⟩ := ih hskip hm
    refine ⟨ending, fun hm => by omega, ?_⟩
    rwa [List.take_succ_cons, List.cons_append, Scan.go_escape hs he]
  | @later i p c rest reply hs he hr h ih =>
    obtain ⟨s, more, k, rfl, hlen, hm, hsame, hclosed⟩ := exists_seen hr h
    obtain rfl := hn.eq_succ hm
    obtain ⟨ending, hend, ts, hts⟩ := ih (by simp [Pending.after, ← hlen]) hm
    obtain ⟨emit, hstep⟩ : ∃ emit, readStep (p.view i (c :: ((s ++ more).take (s.length + k) ++
        ending))) = .ok { reply with emit } := by
      rw [List.take_length_add_append, List.append_assoc]
      cases k with
      | zero =>
        rw [hend hlen]
        exact hclosed
      | succ k =>
        have hmore : more ≠ [] := by
          rintro rfl
          have := hm.le
          simp only [List.append_nil] at this
          omega
        obtain ⟨d, more, rfl⟩ := List.exists_cons_of_ne_nil hmore
        exact ⟨_, hsame _ rfl⟩
    refine ⟨ending, fun hm => by omega, emit ++ ts, ?_⟩
    rw [List.take_succ_cons, List.cons_append]
    exact (Scan.ok_cons_iff hs he).mpr ⟨_, ts, hstep, hts, rfl⟩

/-! ## Errors of patterns -/

theorem read_eq_error_iff {pattern : List Char} :
    read pattern = .error e ↔ Fails readStep e 0 { state := .path true } pattern :=
  Scan.map_eq_error_iff.trans Scan.fails_iff.symm

/-- An error of a pattern is exact. It lies within the pattern, and at its end only if a list of
names is not closed; what stands before it can be brought to a good end; it tells of the character
at its place; and patterns that agree up to the character behind that have the same error. -/
theorem read_error_located {pattern : List Char} {e : SyntaxError}
    (h : read pattern = .error e) :
    e.index ≤ pattern.length ∧
    (e.index = pattern.length ↔ e.fault = .unclosedParamList) ∧
    (∃ rest ts, read (pattern.take e.index ++ rest) = .ok ts) ∧
    (∀ c ∈ e.fault.character?, pattern[e.index]? = some c) ∧
    (e.index < pattern.length → ∀ other : List Char,
      other.take (min (e.index + 2) pattern.length) =
        pattern.take (min (e.index + 2) pattern.length) → read other = .error e) := by
  have hfails := read_eq_error_iff.mp h
  obtain ⟨n, hn⟩ := exists_located hfails (Nat.zero_le _)
  obtain rfl : e.index = n := hn.index.trans (Nat.zero_add n)
  refine ⟨hn.le, hn.unclosed_iff, ?_, hn.character, fun hlt other hother => ?_⟩
  · obtain ⟨ending, -, ts, hts⟩ := exists_go_take hfails (Nat.zero_le _) hn
    exact ⟨ending, _, read_eq_ok_iff.mpr ⟨ts, hts, rfl⟩⟩
  · have hprefix : pattern.take (e.index + 2) <+: other := by
      rw [List.take_eq_take_min, ← hother]
      exact List.take_prefix _ _
    exact read_eq_error_iff.mpr (fails_congr hfails (Nat.zero_le _) hn hlt hprefix)

/-- A `/` in a list of names, behind a protected character; and a list that a protected end leaves
open. -/
theorem read_error_located_each :
    let pattern := "-/a?[\\*,b/c]#d".toList
    let e : SyntaxError := { fault := .inParamList '/', index := 9 }
    let short := "?[a\\".toList
    (read pattern = .error e ∧ pattern[9]? = some '/' ∧
      (∃ rest ts, read (pattern.take 9 ++ rest) = .ok ts) ∧
      read "-/a?[\\*,b/c?[".toList = .error e) ∧
    read short = .error { fault := .unclosedParamList, index := short.length } ∧
      ∃ rest ts, read (short ++ rest) = .ok ts := by
  intro pattern e short
  have hpattern : read pattern = .error e := rfl
  have hshort : read short = .error { fault := .unclosedParamList, index := short.length } := rfl
  obtain ⟨-, -, hrest, hchar, hsame⟩ := read_error_located hpattern
  obtain ⟨-, -, hend, -⟩ := read_error_located hshort
  refine ⟨⟨hpattern, hchar '/' rfl, hrest, hsame (by decide) _ (by decide +kernel)⟩, hshort, ?_⟩
  rwa [List.take_length] at hend

end UrlTemplate.Pattern
