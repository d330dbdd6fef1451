import Mathlib
import UrlTemplate.Proofs.Config.Discovery

/-!
# Variables that turn the user's own file off

A configuration file may name a variable of the environment. If the variable is set, it turns the
user's own file off, unless it is empty or says no.

* `isTruthy_eq_false_iff`: the values that say no, in any case of their letters.
* `disables_iff`: when a file turns the user's own one off.
-/

namespace UrlTemplate

/-! ## Letters in any case -/

/-- The text is the word, with any of its letters as capitals. -/
def IsSpelling (word text : List Char) : Prop :=
  List.Forall₂ (fun d c => c = d ∨ c = d.toUpper) word text

/-- Besides a small letter, only its capital is lowered to it. -/
theorem toLower_eq_iff {c d : Char} (hd : d.toLower = d) :
    c.toLower = d ↔ c = d ∨ c = d.toUpper := by
  constructor
  · rintro rfl
    by_cases hc : c.isUpper
    · have hsmall : ¬ c.isLower := Char.not_isLower_of_isUpper hc
      rw [Char.toUpper_toLower_eq_toUpper, Char.toUpper_eq_of_not_isLower hsmall]
      exact .inr rfl
    · exact .inl (Char.toLower_eq_of_not_isUpper hc).symm
  · rintro (rfl | rfl)
    · exact hd
    · rw [Char.toLower_toUpper_eq_toLower, hd]

theorem map_toLower_eq_iff {word : List Char} (h : ∀ d ∈ word, d.toLower = d)
    (text : List Char) : text.map Char.toLower = word ↔ IsSpelling word text := by
  unfold IsSpelling
  induction word generalizing text with
  | nil => simp
  | cons d word ih =>
    obtain ⟨hd, hword⟩ := List.forall_mem_cons.mp h
    cases text with
    | nil => simp
    | cons c text =>
      rw [List.map_cons, List.cons.injEq, List.forall₂_cons, toLower_eq_iff hd, ih hword]

/-! ## What turns something on -/

/-- A value turns nothing on if it is empty or says no. -/
theorem isTruthy_eq_false_iff {value : String} :
    isTruthy value = false ↔
      value = "" ∨ ∃ word ∈ ["0", "false", "no"], IsSpelling word.toList value.toList := by
  have hsmall : ∀ word ∈ ["0", "false", "no"], ∀ d ∈ word.toList, d.toLower = d := by simp
  have hempty : value.map Char.toLower = "" ↔ value = "" := by simp
  have hword : ∀ word ∈ ["0", "false", "no"],
      word = value.map Char.toLower ↔ IsSpelling word.toList value.toList := by
    intro word hword
    rw [eq_comm, ← String.toList_inj, String.toList_map, map_toLower_eq_iff (hsmall word hword)]
  rw [isTruthy, Bool.not_eq_false', List.contains_iff_mem, List.mem_cons, hempty]
  refine or_congr_right ?_
  constructor
  · intro h
    exact ⟨_, h, (hword _ h).mp rfl⟩
  · rintro ⟨word, h, hspelling⟩
    exact (hword word h).mpr hspelling ▸ h

namespace Discovery

/-- A file turns the user's own one off if the variable that it names is set, is not empty and does
not say no. -/
theorem disables_iff {decode : String → Except String Config} {s : Surroundings} {path : Path} :
    disables decode s path ↔
      ∃ config name value, configAt decode s.tree path = some config ∧
        config.disablingVariable = some name ∧ s.environment name = some value ∧ value ≠ "" ∧
        ∀ word ∈ ["0", "false", "no"], ¬ IsSpelling word.toList value.toList := by
  have htruthy : ∀ value, isTruthy value ↔
      value ≠ "" ∧ ∀ word ∈ ["0", "false", "no"], ¬ IsSpelling word.toList value.toList := by
    intro value
    rw [← Bool.not_eq_false, isTruthy_eq_false_iff, not_or]
    simp only [not_exists, not_and]
  simp only [disables, Option.any_eq_true, htruthy]
  constructor
  · rintro ⟨config, hconfig, name, hname, value, hvalue, h⟩
    exact ⟨config, name, value, hconfig, hname, hvalue, h⟩
  · rintro ⟨config, name, value, hconfig, hname, hvalue, h⟩
    exact ⟨config, hconfig, name, hname, value, hvalue, h⟩

end Discovery

end UrlTemplate
