import UrlTemplate.Text.Hex
import UrlTemplate.Text.Quoted

/-!
# Quoted texts can be told apart

Whatever follows a quoted text, the text and what follows can be read off. For a character between
quotes this is shown by reading it (`readChar`); it does not matter which characters are written
as numbers.

* `charOfHex?_hex`: the hexadecimal digits of a character are read as that character.
* `readChar_escapeChar`: a character between quotes is read as that character.
* `prefixFree_text`: a quoted text ends at a place of its own.
-/

namespace UrlTemplate

/-! ## Codes -/

variable {α β : Type}

/-- The code of one thing is no part of the beginning of another's: what is coded and what follows
can be read off. -/
def PrefixFree (code : α → List β) : Prop :=
  ∀ a b s t, code a ++ s = code b ++ t → a = b ∧ s = t

/-- Codes can be written one after the other, up to something that no code starts with. -/
theorem PrefixFree.flatMap_append {code : α → List β} (h : PrefixFree code) {as bs : List α}
    {s t : List β} (hs : ∀ a u, code a ++ u ≠ s) (ht : ∀ a u, code a ++ u ≠ t)
    (heq : as.flatMap code ++ s = bs.flatMap code ++ t) : as = bs ∧ s = t := by
  induction as generalizing bs with
  | nil =>
    cases bs with
    | nil => exact ⟨rfl, heq⟩
    | cons b bs =>
      rw [List.flatMap_cons, List.append_assoc] at heq
      exact absurd heq.symm (hs b _)
  | cons a as ih =>
    cases bs with
    | nil =>
      rw [List.flatMap_cons, List.append_assoc] at heq
      exact absurd heq (ht a _)
    | cons b bs =>
      rw [List.flatMap_cons, List.flatMap_cons, List.append_assoc, List.append_assoc] at heq
      obtain ⟨rfl, hrest⟩ := h _ _ _ _ heq
      obtain ⟨rfl, hend⟩ := ih hrest
      exact ⟨rfl, hend⟩

/-! ## Hexadecimal digits -/

theorem hexValue?_digitChar {n : Nat} (h : n < 16) : hexValue? n.digitChar = some n := by
  have hdigits : ∀ d : Fin 16, hexValue? (Nat.digitChar d) = some d.val := by decide
  exact hdigits ⟨n, h⟩

theorem digitsValue_concat {d : Char} {v : Nat} (h : hexValue? d = some v) (base : Nat)
    (digits : List Char) :
    digitsValue base (digits ++ [d]) = digitsValue base digits * base + v := by
  simp [digitsValue, h]

theorem digitsValue_hex (n : Nat) : digitsValue 16 (Quoted.hex n) = n := by
  induction n using Nat.strongRecOn with
  | ind n ih =>
    rw [Quoted.hex, Nat.toDigits_eq_if (by decide)]
    split
    · rename_i h
      rw [← List.nil_append [n.digitChar], digitsValue_concat (hexValue?_digitChar h)]
      simp [digitsValue]
    · have hlt : n % 16 < 16 := Nat.mod_lt _ (by decide)
      have hquot := ih (n / 16) (by omega)
      rw [Quoted.hex] at hquot
      rw [digitsValue_concat (hexValue?_digitChar hlt), hquot]
      omega

theorem isHexDigit_of_mem_hex {n : Nat} {d : Char} (h : d ∈ Quoted.hex n) : isHexDigit d := by
  induction n using Nat.strongRecOn with
  | ind n ih =>
    have hdigit : ∀ {m : Nat}, m < 16 → isHexDigit m.digitChar := by
      intro m hm
      rw [isHexDigit, hexValue?_digitChar hm]
      rfl
    rw [Quoted.hex, Nat.toDigits_eq_if (by decide)] at h
    split at h
    · obtain rfl := List.mem_singleton.mp h
      exact hdigit ‹_›
    · rcases List.mem_append.mp h with h | h
      · exact ih (n / 16) (by omega) h
      · obtain rfl := List.mem_singleton.mp h
        exact hdigit (Nat.mod_lt _ (by decide))

theorem charOfHex?_hex (c : Char) : charOfHex? (Quoted.hex c.toNat) = some c := by
  have hne : (Quoted.hex c.toNat).isEmpty = false := by
    simp [Quoted.hex, Nat.toDigits_ne_nil]
  have hall : (Quoted.hex c.toNat).all isHexDigit = true :=
    List.all_eq_true.mpr fun _ => isHexDigit_of_mem_hex
  have hvalid : c.toNat.isValidChar := c.valid
  simp [charOfHex?, digitsValue_hex, hne, hall, hvalid]

namespace Quoted

/-! ## Characters between quotes -/

/-- Reads a character that stands between double quotes, and what follows it. -/
def readChar : List Char → Option (Char × List Char)
  | '\\' :: 'u' :: '\x7b' :: rest =>
    (charOfHex? (rest.takeWhile (· ≠ '\x7d'))).map fun c =>
      (c, (rest.dropWhile (· ≠ '\x7d')).tail)
  | '\\' :: '0' :: rest => some ('\x00', rest)
  | '\\' :: 't' :: rest => some ('\t', rest)
  | '\\' :: 'r' :: rest => some ('\r', rest)
  | '\\' :: 'n' :: rest => some ('\n', rest)
  | '\\' :: c :: rest => some (c, rest)
  | c :: rest => some (c, rest)
  | [] => none

theorem readChar_shown {c : Char} (hc : c ≠ '\\') (rest : List Char) :
    readChar (c :: rest) = some (c, rest) := by
  rw [readChar] <;> intros <;> exact absurd ‹_› hc

/-- The digits of a number are read up to the brace behind them. -/
theorem readChar_hex (c : Char) (rest : List Char) :
    readChar ('\\' :: 'u' :: '\x7b' :: (hex c.toNat ++ '\x7d' :: rest)) = some (c, rest) := by
  have hdigits : ∀ d ∈ hex c.toNat, decide (d ≠ '\x7d') = true := by
    intro d hd
    rw [decide_eq_true_eq]
    rintro rfl
    exact absurd (isHexDigit_of_mem_hex hd) (by decide)
  rw [readChar, List.takeWhile_append_of_pos hdigits, List.dropWhile_append_of_pos hdigits]
  simp [charOfHex?_hex]

theorem readChar_escapeChar (c : Char) (rest : List Char) :
    readChar (escapeChar '"' c ++ rest) = some (c, rest) := by
  by_cases hmark : c = '\x00' ∨ c = '\t' ∨ c = '\r' ∨ c = '\n' ∨ c = '\\' ∨ c = '"'
  · rcases hmark with rfl | rfl | rfl | rfl | rfl | rfl <;> rfl
  · simp only [not_or] at hmark
    obtain ⟨hnul, htab, hreturn, hline, hslash, hquote⟩ := hmark
    simp only [escapeChar, hnul, htab, hreturn, hline, hslash, hquote, if_false]
    split
    · exact readChar_shown hslash rest
    · simpa using readChar_hex c rest

theorem prefixFree_escapeChar : PrefixFree (escapeChar '"') := by
  intro c d s t h
  have hread := congrArg readChar h
  rw [readChar_escapeChar, readChar_escapeChar] at hread
  exact Prod.mk.inj (Option.some.inj hread)

/-- No character between quotes begins with a quote. -/
theorem escapeChar_append_ne_quote (c : Char) (u s : List Char) :
    escapeChar '"' c ++ u ≠ '"' :: s := by
  intro h
  have hread := readChar_escapeChar c u
  rw [h, readChar_shown (by decide)] at hread
  obtain ⟨rfl, rfl⟩ := Prod.mk.inj (Option.some.inj hread)
  cases h

/-! ## Quoted texts -/

theorem prefixFree_text : PrefixFree text := by
  intro a b s t h
  simp only [text, List.cons_append, List.append_assoc, List.nil_append, List.cons.injEq,
    true_and] at h
  obtain ⟨rfl, hend⟩ := prefixFree_escapeChar.flatMap_append
    (fun c u => escapeChar_append_ne_quote c u s) (fun c u => escapeChar_append_ne_quote c u t) h
  exact ⟨rfl, (List.cons.inj hend).2⟩

@[simp] theorem text_append_inj {a b s t : List Char} :
    text a ++ s = text b ++ t ↔ a = b ∧ s = t := by
  constructor
  · exact prefixFree_text a b s t
  · rintro ⟨rfl, rfl⟩
    rfl

end Quoted

end UrlTemplate
