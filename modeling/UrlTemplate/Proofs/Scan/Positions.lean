import Mathlib.Logic.ExistsUnique
import UrlTemplate.Log
import UrlTemplate.Proofs.Scan

/-!
# The positions of a scan

A scan whose steps never fail, seen through the calls it makes of its step function. The calls
are those that the scan itself makes: it is run with a step function that records them. From the
calls alone follows what becomes of every character: it is passed to the step function, it is
passed over, or it joins the literal text unseen.

* `calls_eq`: the calls are those at the positions with nothing pending, and one at the end.
* `dropped_iff`: a character is passed over while more skips are asked for than are used up.
* `opened_iff`: a protection that is asked for waits for the first character not passed over.
* `run_accounts`: every position is accounted for, once and in order.
-/

namespace UrlTemplate.Scan

variable {σ τ : Type}

/-! ## Calls -/

/-- A question that is put to a step function, and the answer. -/
structure Call (σ τ : Type) where
  view : View σ
  reply : Reply σ τ

/-- The step function `f`, with its calls on record. -/
def recorded (f : View σ → Reply σ τ) (v : View σ) : Traced (Call σ τ) (Reply σ τ) :=
  { value := f v, log := [{ view := v, reply := f v }] }

/-- The calls of its step function that a scan makes, in order. -/
def calls (f : View σ → Reply σ τ) (state : σ) (text : List Char) : List (Call σ τ) :=
  (run (recorded f) state text).log

/-! ## What becomes of the characters -/

section

variable (cs : List (Call σ τ))

/-- How many characters the calls ask to pass over, all in all. -/
def totalSkip (cs : List (Call σ τ)) : Nat := cs.foldr (fun c n => c.reply.skip + n) 0

/-- How many characters the calls before position `i` ask to pass over. -/
def skipsBefore (i : Nat) : Nat := totalSkip (cs.filter (·.view.index < i))

/-- How many characters before position `i` are passed over: one is whenever more skips have been
asked for than characters have been passed over already. -/
def dropsBefore : Nat → Nat
  | 0 => 0
  | i + 1 => dropsBefore i + if dropsBefore i < skipsBefore cs i then 1 else 0

/-- Skips that were asked for before position `i` are left for it. -/
def Dropped (i : Nat) : Prop := dropsBefore cs i < skipsBefore cs i

instance : DecidablePred (Dropped cs) := fun _ => inferInstanceAs (Decidable (_ < _))

/-- A protection that was asked for before position `i` is left for it: since then there were only
characters that are passed over. -/
def Opened (i : Nat) : Prop :=
  ∃ c ∈ cs, c.reply.escape ∧ c.view.index < i ∧ ∀ j, c.view.index < j → j < i → Dropped cs j

/-- What can become of a character. -/
inductive Fate where
  /-- It is passed to the step function. -/
  | asked
  /-- It is passed over. -/
  | dropped
  /-- It joins the literal text unseen. -/
  | joined
  deriving DecidableEq, Repr

/-- The calls have it that this becomes of the character at position `i`. -/
def Meets (i : Nat) : Fate → Prop
  | .asked => ∃ c ∈ cs, c.view.index = i
  | .dropped => Dropped cs i
  | .joined => ¬ Dropped cs i ∧ Opened cs i

/-- The literal text before position `i`. -/
def literalBefore (text : List Char) : Nat → List Char
  | 0 => []
  | i + 1 =>
    match cs.find? (·.view.index = i) with
    | some c =>
      (if c.reply.take then [] else literalBefore text i) ++
        if c.reply.keep then text[i]?.toList else []
    | none =>
      if Dropped cs i then literalBefore text i else literalBefore text i ++ text[i]?.toList

end

/-- The calls `cs` account for a scan of `text` with the step function `f`. -/
structure Accounts (f : View σ → Reply σ τ) (state : σ) (text : List Char)
    (cs : List (Call σ τ)) : Prop where
  /-- Just one thing becomes of each character. -/
  fate : ∀ i < text.length, ∃! fate, Meets cs i fate
  increasing : (cs.map (·.view.index)).Pairwise (· < ·)
  /-- The last call is at the end of the text, and no other one is. -/
  ends : ∃ earlier last, cs = earlier ++ [last] ∧ last.view.index = text.length ∧
    last.view.symbol = none ∧ ∀ c ∈ earlier, c.view.index < text.length ∧ c.view.symbol ≠ none
  ahead : ∀ c ∈ cs, c.view.ahead = text.drop c.view.index
  literal : ∀ c ∈ cs, c.view.literal = literalBefore cs text c.view.index
  /-- The first call sees the state that the scan starts with, each other one that of the answer
  before it. -/
  states : cs.map (·.view.state) = state :: cs.dropLast.map (·.reply.state)
  reply : ∀ c ∈ cs, c.reply = f c.view

/-! ## What is carried along -/

section

variable (f : View σ → Reply σ τ) (state : σ) (text : List Char)

/-- What is carried on from position `i`, where `p` is carried and these characters are ahead. -/
def Pending.next (p : Pending σ) (i : Nat) : List Char → Pending σ
  | [] => p
  | c :: rest =>
    if 0 < p.skip then { p with skip := p.skip - 1 }
    else if p.escape then { p with escape := false, literal := p.literal ++ [c] }
    else p.after (f (p.view i (c :: rest))) c

/-- What is carried to position `i`. -/
def pendingAt : Nat → Pending σ
  | 0 => { state }
  | i + 1 => (pendingAt i).next f i (text.drop i)

/-- Nothing is left to be passed over or protected. -/
def Pending.isFree (p : Pending σ) : Bool := p.skip = 0 && !p.escape

/-- The call at position `i`, if there is one. -/
def callAt (i : Nat) : Call σ τ :=
  let v := (pendingAt f state text i).view i (text.drop i)
  { view := v, reply := f v }

end

section

variable {f : View σ → Reply σ τ} {state : σ} {text : List Char}

theorem isFree_iff {p : Pending σ} : p.isFree ↔ p.skip = 0 ∧ p.escape = false := by
  simp [Pending.isFree]

theorem not_isFree_of_skip {p : Pending σ} (h : 0 < p.skip) : ¬ p.isFree := by
  intro hfree
  exact Nat.ne_of_gt h (isFree_iff.mp hfree).1

theorem not_isFree_of_escape {p : Pending σ} (h : p.escape = true) : ¬ p.isFree := by
  intro hfree
  rw [(isFree_iff.mp hfree).2] at h
  cases h

theorem next_of_skip {p : Pending σ} (h : 0 < p.skip) (i : Nat) (c : Char) (rest : List Char) :
    p.next f i (c :: rest) = { p with skip := p.skip - 1 } := by
  rw [Pending.next, if_pos h]

theorem next_of_escape {p : Pending σ} (hs : p.skip = 0) (he : p.escape = true) (i : Nat)
    (c : Char) (rest : List Char) :
    p.next f i (c :: rest) = { p with escape := false, literal := p.literal ++ [c] } := by
  rw [Pending.next, if_neg (by omega), if_pos he]

theorem next_of_free {p : Pending σ} (hs : p.skip = 0) (he : p.escape = false) (i : Nat) (c : Char)
    (rest : List Char) :
    p.next f i (c :: rest) = p.after (f (p.view i (c :: rest))) c := by
  rw [Pending.next, if_neg (by omega), if_neg (by simp [he])]

/-! ## The calls of a scan -/

theorem go_recorded_nil (i : Nat) (p : Pending σ) :
    go (recorded f) i p [] =
      { value := (f (p.view i [])).emit
        log := [{ view := p.view i [], reply := f (p.view i []) }] } := rfl

theorem go_recorded_free {p : Pending σ} (hs : p.skip = 0) (he : p.escape = false) (i : Nat)
    (c : Char) (rest : List Char) :
    go (recorded f) i p (c :: rest) =
      let reply := f (p.view i (c :: rest))
      let later := go (recorded f) (i + 1) (p.after reply c) rest
      { value := reply.emit ++ later.value
        log := { view := p.view i (c :: rest), reply } :: later.log } := by
  rw [go_step hs he]
  simp [recorded, Bind.bind, Pure.pure]

/-- The record tells the tokens that the scan emits. -/
theorem value_go_recorded (i : Nat) (p : Pending σ) (text : List Char) :
    (go (recorded f) i p text).value =
      (go (recorded f) i p text).log.flatMap (·.reply.emit) := by
  induction text generalizing i p with
  | nil => simp [go_recorded_nil]
  | cons c rest ih =>
    obtain hs | ⟨hs, he⟩ | ⟨hs, he⟩ := p.skip_or_escape_or_free
    · rw [go_skip hs, ih]
    · rw [go_escape hs he, ih]
    · rw [go_recorded_free hs he, List.flatMap_cons]
      exact congrArg _ (ih _ _)

/-- A scan whose steps never fail succeeds, with the tokens of the recording scan. -/
theorem go_ok_eq {ε : Type} (i : Nat) (p : Pending σ) (text : List Char) :
    go (fun v => (.ok (f v) : Except ε (Reply σ τ))) i p text =
      .ok (go (recorded f) i p text).value := by
  induction text generalizing i p with
  | nil => exact ok_nil_iff.mpr ⟨_, rfl, rfl⟩
  | cons c rest ih =>
    obtain hs | ⟨hs, he⟩ | ⟨hs, he⟩ := p.skip_or_escape_or_free
    · rw [go_skip hs, go_skip hs, ih]
    · rw [go_escape hs he, go_escape hs he, ih]
    · rw [go_recorded_free hs he, ok_cons_iff hs he]
      exact ⟨_, _, rfl, ih _ _, rfl⟩

/-- The states that the calls see are those of the answers before them. -/
theorem states_go_recorded (i : Nat) (p : Pending σ) (text : List Char) :
    (go (recorded f) i p text).log.map (·.view.state) =
      p.state :: (go (recorded f) i p text).log.dropLast.map (·.reply.state) := by
  induction text generalizing i p with
  | nil => rfl
  | cons c rest ih =>
    obtain hs | ⟨hs, he⟩ | ⟨hs, he⟩ := p.skip_or_escape_or_free
    · rw [go_skip hs, ih]
    · rw [go_escape hs he, ih]
    · have hlater := ih (i + 1) (p.after (f (p.view i (c :: rest))) c)
      have hne :
          (go (recorded f) (i + 1) (p.after (f (p.view i (c :: rest))) c) rest).log ≠ [] := by
        intro h
        rw [h] at hlater
        cases hlater
      rw [go_recorded_free hs he, List.map_cons, hlater, List.dropLast_cons_of_ne_nil hne]
      rfl

theorem log_go_recorded (f : View σ → Reply σ τ) (state : σ) (i : Nat) (rest : List Char)
    (h : text.drop i = rest) :
    (go (recorded f) i (pendingAt f state text i) rest).log =
      ((List.range' i rest.length).filter fun j => (pendingAt f state text j).isFree).map
          (callAt f state text) ++ [callAt f state text (i + rest.length)] := by
  induction rest generalizing i with
  | nil => simp [go_recorded_nil, callAt, h]
  | cons c rest ih =>
    have hrest : text.drop (i + 1) = rest := by
      rw [← List.drop_drop, h]
      rfl
    have hnext : pendingAt f state text (i + 1) =
        (pendingAt f state text i).next f i (c :: rest) := by
      rw [pendingAt, h]
    have hlen : i + (c :: rest).length = i + 1 + rest.length := by
      rw [List.length_cons]
      omega
    have ih := ih (i + 1) hrest
    rw [hlen, List.length_cons, List.range'_succ, List.filter_cons]
    obtain hs | ⟨hs, he⟩ | ⟨hs, he⟩ := (pendingAt f state text i).skip_or_escape_or_free
    · rw [hnext, next_of_skip hs] at ih
      rw [go_skip hs, ih, if_neg (not_isFree_of_skip hs)]
    · rw [hnext, next_of_escape hs he] at ih
      rw [go_escape hs he, ih, if_neg (not_isFree_of_escape he)]
    · rw [hnext, next_of_free hs he] at ih
      rw [go_recorded_free hs he, if_pos (isFree_iff.mpr ⟨hs, he⟩)]
      simp only [ih, List.map_cons, List.cons_append, callAt, h]

theorem calls_eq :
    calls f state text =
      ((List.range text.length).filter fun j => (pendingAt f state text j).isFree).map
          (callAt f state text) ++ [callAt f state text text.length] := by
  have h := log_go_recorded f state 0 text rfl
  rw [← List.range_eq_range', Nat.zero_add] at h
  exact h

theorem mem_calls_iff {c : Call σ τ} :
    c ∈ calls f state text ↔
      ∃ j, (j < text.length ∧ (pendingAt f state text j).isFree ∨ j = text.length) ∧
        c = callAt f state text j := by
  rw [calls_eq, List.mem_append, List.mem_map, List.mem_singleton]
  constructor
  · rintro (⟨j, hj, rfl⟩ | rfl)
    · rw [List.mem_filter, List.mem_range] at hj
      exact ⟨j, .inl hj, rfl⟩
    · exact ⟨_, .inr rfl, rfl⟩
  · rintro ⟨j, hj | rfl, rfl⟩
    · exact .inl ⟨j, List.mem_filter.mpr ⟨List.mem_range.mpr hj.1, hj.2⟩, rfl⟩
    · exact .inr rfl

/-- There is one call at most at a position. -/
theorem eq_callAt_of_mem {c : Call σ τ} (h : c ∈ calls f state text) :
    c = callAt f state text c.view.index := by
  obtain ⟨j, -, rfl⟩ := mem_calls_iff.mp h
  rfl

theorem exists_call_iff {i : Nat} (hi : i < text.length) :
    (∃ c ∈ calls f state text, c.view.index = i) ↔ (pendingAt f state text i).isFree := by
  constructor
  · rintro ⟨c, hc, rfl⟩
    obtain ⟨j, hj | rfl, rfl⟩ := mem_calls_iff.mp hc
    · exact hj.2
    · exact absurd hi (Nat.lt_irrefl _)
  · intro h
    exact ⟨_, mem_calls_iff.mpr ⟨i, .inl ⟨hi, h⟩, rfl⟩, rfl⟩

/-- What a scan does at a character: it passes over it, takes it literally or asks. -/
theorem pendingAt_succ (f : View σ → Reply σ τ) (state : σ) {i : Nat} (hi : i < text.length) :
    let p := pendingAt f state text i
    let next := pendingAt f state text (i + 1)
    0 < p.skip ∧ next = { p with skip := p.skip - 1 } ∨
    p.skip = 0 ∧ p.escape = true ∧
      next = { p with escape := false, literal := p.literal ++ [text[i]] } ∨
    p.skip = 0 ∧ p.escape = false ∧ next = p.after (callAt f state text i).reply text[i] := by
  have hahead : text.drop i = text[i] :: text.drop (i + 1) := List.drop_eq_getElem_cons hi
  simp only [pendingAt, callAt, hahead]
  obtain hs | ⟨hs, he⟩ | ⟨hs, he⟩ := (pendingAt f state text i).skip_or_escape_or_free
  · exact .inl ⟨hs, next_of_skip hs _ _ _⟩
  · exact .inr (.inl ⟨hs, he, next_of_escape hs he _ _ _⟩)
  · exact .inr (.inr ⟨hs, he, next_of_free hs he _ _ _⟩)

/-! ## Characters passed over -/

theorem totalSkip_append (a b : List (Call σ τ)) :
    totalSkip (a ++ b) = totalSkip a + totalSkip b := by
  induction a with
  | nil => simp [totalSkip]
  | cons c a ih =>
    simp only [totalSkip, List.cons_append, List.foldr_cons] at ih ⊢
    omega

theorem filter_range_lt {i n : Nat} (h : i ≤ n) :
    (List.range n).filter (· < i) = List.range i := by
  obtain ⟨k, rfl⟩ := Nat.exists_eq_add_of_le h
  rw [List.range_add, List.filter_append, List.filter_eq_self.mpr, List.filter_eq_nil_iff.mpr,
    List.append_nil]
  · simp
  · simp

/-- The calls before a position. -/
theorem filter_calls_lt {i : Nat} (hi : i ≤ text.length) :
    (calls f state text).filter (·.view.index < i) =
      ((List.range i).filter fun j => (pendingAt f state text j).isFree).map
        (callAt f state text) := by
  have hlast : [callAt f state text text.length].filter (·.view.index < i) = [] := by
    simpa [callAt, Pending.view] using hi
  rw [calls_eq, List.filter_append, hlast, List.append_nil, List.filter_map,
    ← filter_range_lt hi, List.filter_filter, List.filter_filter]
  congr
  funext j
  exact Bool.and_comm _ _

theorem skipsBefore_succ {i : Nat} (hi : i < text.length) :
    skipsBefore (calls f state text) (i + 1) = skipsBefore (calls f state text) i +
      if (pendingAt f state text i).isFree then (callAt f state text i).reply.skip else 0 := by
  rw [skipsBefore, skipsBefore, filter_calls_lt (by omega), filter_calls_lt (by omega),
    List.range_succ, List.filter_append, List.map_append, totalSkip_append]
  by_cases h : (pendingAt f state text i).isFree <;> simp [h, totalSkip]

/-- What has been asked to be passed over has been, or is carried along. -/
theorem skipsBefore_eq (f : View σ → Reply σ τ) (state : σ) {i : Nat} (hi : i ≤ text.length) :
    skipsBefore (calls f state text) i =
      dropsBefore (calls f state text) i + (pendingAt f state text i).skip := by
  induction i with
  | zero =>
    rw [skipsBefore, filter_calls_lt hi]
    rfl
  | succ i ih =>
    have ih := ih (by omega)
    rw [skipsBefore_succ hi, dropsBefore]
    obtain ⟨hs, hnext⟩ | ⟨hs, he, hnext⟩ | ⟨hs, he, hnext⟩ := pendingAt_succ f state hi
    · rw [if_neg (not_isFree_of_skip hs), if_pos (by omega), hnext]
      show _ = _ + (_ - 1)
      omega
    · rw [if_neg (not_isFree_of_escape he), if_neg (by omega), hnext]
      exact ih
    · rw [if_pos (isFree_iff.mpr ⟨hs, he⟩), if_neg (by omega), hnext]
      simp only [Pending.after]
      omega

/-- A character is passed over exactly if skips are carried to it. -/
theorem dropped_iff (f : View σ → Reply σ τ) (state : σ) {i : Nat} (hi : i ≤ text.length) :
    Dropped (calls f state text) i ↔ 0 < (pendingAt f state text i).skip := by
  have h := skipsBefore_eq f state hi
  unfold Dropped
  omega

/-! ## Characters taken literally -/

/-- A protection is left after a character that asks for it, or passed on over one that is
passed over. -/
theorem opened_succ (cs : List (Call σ τ)) (i : Nat) :
    Opened cs (i + 1) ↔
      (∃ c ∈ cs, c.view.index = i ∧ c.reply.escape) ∨ Opened cs i ∧ Dropped cs i := by
  constructor
  · rintro ⟨c, hc, he, hi, hdrop⟩
    by_cases heq : c.view.index = i
    · exact .inl ⟨c, hc, heq, he⟩
    · have hlt : c.view.index < i := by omega
      exact .inr ⟨⟨c, hc, he, hlt, fun j hj hji => hdrop j hj (by omega)⟩, hdrop i hlt (by omega)⟩
  · rintro (⟨c, hc, rfl, he⟩ | ⟨⟨c, hc, he, hi, hdrop⟩, hd⟩)
    · exact ⟨c, hc, he, by omega, fun j hj hji => by omega⟩
    · refine ⟨c, hc, he, by omega, ?_⟩
      intro j hj hji
      by_cases heq : j = i
      · exact heq ▸ hd
      · exact hdrop j hj (by omega)

/-- Nothing but a free position is asked about. -/
theorem exists_escape_iff {i : Nat} (hi : i < text.length) :
    (∃ c ∈ calls f state text, c.view.index = i ∧ c.reply.escape) ↔
      (pendingAt f state text i).isFree ∧ (callAt f state text i).reply.escape := by
  rw [← exists_call_iff hi]
  constructor
  · rintro ⟨c, hc, rfl, he⟩
    exact ⟨⟨c, hc, rfl⟩, eq_callAt_of_mem hc ▸ he⟩
  · rintro ⟨⟨c, hc, rfl⟩, he⟩
    exact ⟨c, hc, rfl, eq_callAt_of_mem hc ▸ he⟩

/-- A protection is left for a position exactly if it is carried there. -/
theorem opened_iff {i : Nat} (hi : i ≤ text.length) :
    Opened (calls f state text) i ↔ (pendingAt f state text i).escape = true := by
  induction i with
  | zero =>
    constructor
    · rintro ⟨c, -, -, h, -⟩
      omega
    · intro h
      cases h
  | succ i ih =>
    rw [opened_succ, exists_escape_iff hi, ih (by omega), dropped_iff f state (by omega),
      isFree_iff]
    obtain ⟨hs, hnext⟩ | ⟨hs, he, hnext⟩ | ⟨hs, he, hnext⟩ := pendingAt_succ f state hi
    · rw [hnext]
      simp [hs, Nat.ne_of_gt hs]
    · rw [hnext]
      simp [hs, he]
    · rw [hnext]
      simp [hs, he, Pending.after]

/-- What becomes of a character is what is left for it. -/
theorem meets_iff {i : Nat} (hi : i < text.length) (fate : Fate) :
    Meets (calls f state text) i fate ↔
      fate = if 0 < (pendingAt f state text i).skip then .dropped
        else if (pendingAt f state text i).escape then .joined else .asked := by
  cases fate with
  | asked =>
    rw [Meets, exists_call_iff hi, isFree_iff]
    split
    · simp
      omega
    · split <;> simp_all
  | dropped =>
    rw [Meets, dropped_iff f state (by omega)]
    split
    · simpa using ‹_›
    · split <;> simp_all
  | joined =>
    rw [Meets, dropped_iff f state (by omega), opened_iff (by omega)]
    split
    · simp_all
    · split <;> simp_all

theorem find?_call {i : Nat} (hi : i < text.length) :
    (calls f state text).find? (·.view.index = i) =
      if (pendingAt f state text i).isFree then some (callAt f state text i) else none := by
  split
  · rename_i hfree
    obtain ⟨d, hd, hdi⟩ := (exists_call_iff hi).mpr hfree
    cases hfind : (calls f state text).find? (·.view.index = i) with
    | none => exact absurd hdi (by simpa using List.find?_eq_none.mp hfind d hd)
    | some c =>
      have hci : c.view.index = i := by simpa using List.find?_some hfind
      rw [eq_callAt_of_mem (List.mem_of_find?_eq_some hfind), hci]
  · rename_i hfree
    rw [List.find?_eq_none]
    intro c hc hci
    exact hfree ((exists_call_iff hi).mp ⟨c, hc, by simpa using hci⟩)

/-- The literal text before a position is what is carried there. -/
theorem literalBefore_eq {i : Nat} (hi : i ≤ text.length) :
    literalBefore (calls f state text) text i = (pendingAt f state text i).literal := by
  induction i with
  | zero => rfl
  | succ i ih =>
    have hdropped := dropped_iff f state (Nat.le_of_succ_le hi)
    rw [literalBefore, find?_call hi, ih (by omega), List.getElem?_eq_getElem hi]
    obtain ⟨hs, hnext⟩ | ⟨hs, he, hnext⟩ | ⟨hs, he, hnext⟩ := pendingAt_succ f state hi
    · rw [if_neg (not_isFree_of_skip hs), hnext]
      simp [hdropped, hs]
    · rw [if_neg (not_isFree_of_escape he), hnext]
      simp [hdropped, hs]
    · rw [if_pos (isFree_iff.mpr ⟨hs, he⟩), hnext, Pending.after]
      by_cases hkeep : (callAt f state text i).reply.keep <;> simp [hkeep]

theorem pairwise_index_calls :
    ((calls f state text).map (·.view.index)).Pairwise (· < ·) := by
  have hindex : (·.view.index) ∘ callAt f state text = id := rfl
  rw [calls_eq, List.map_append, List.map_map, hindex, List.map_id, List.pairwise_append]
  refine ⟨List.pairwise_lt_range.filter _, List.pairwise_singleton _ _, ?_⟩
  intro i hi j hj
  obtain rfl := List.mem_singleton.mp hj
  exact List.mem_range.mp (List.mem_filter.mp hi).1

/-- A scan whose steps never fail accounts for every position of its text, and its result are the
tokens of its calls, in order. -/
theorem run_accounts {ε : Type} (f : View σ → Reply σ τ) (state : σ) (text : List Char) :
    Accounts f state text (calls f state text) ∧
      run (fun v => (.ok (f v) : Except ε (Reply σ τ))) state text =
        .ok ((calls f state text).flatMap (·.reply.emit)) := by
  have hlast : text.drop text.length = [] := List.drop_length
  constructor
  · constructor
    case fate =>
      intro i hi
      exact ⟨_, (meets_iff hi _).mpr rfl, fun fate h => (meets_iff hi fate).mp h⟩
    case increasing => exact pairwise_index_calls
    case ends =>
      refine ⟨_, _, calls_eq, rfl, ?_, ?_⟩
      · rw [callAt, hlast]
        rfl
      · intro c hc
        obtain ⟨j, hj, rfl⟩ := List.mem_map.mp hc
        have hlt : j < text.length := List.mem_range.mp (List.mem_filter.mp hj).1
        refine ⟨hlt, ?_⟩
        rw [callAt, List.drop_eq_getElem_cons hlt]
        exact Option.some_ne_none _
    case ahead =>
      intro c hc
      rw [eq_callAt_of_mem hc]
      rfl
    case literal =>
      intro c hc
      obtain ⟨j, hj, rfl⟩ := mem_calls_iff.mp hc
      exact (literalBefore_eq (by omega : j ≤ text.length)).symm
    case states => exact states_go_recorded 0 { state } text
    case reply =>
      intro c hc
      rw [eq_callAt_of_mem hc]
      rfl
  · rw [run, go_ok_eq, value_go_recorded]
    rfl

/-- After a `!` that asks for one skip and for protection, `a` is passed over and `b` joins the
literal text; the step function is asked about `!`, `c` and the end. -/
example :
    (calls (fun v => if v.symbol = some '!' then
        ({ state := (), skip := 1, escape := true } : Reply Unit Unit)
      else { state := (), keep := true }) () ['!', 'a', 'b', 'c']).map
        (fun c => (c.view.index, c.view.literal)) = [(0, []), (3, ['b']), (4, ['b', 'c'])] := by
  decide

end

end UrlTemplate.Scan
