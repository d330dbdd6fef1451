import Mathlib.Data.Nat.Find
import UrlTemplate.Config.Check
import UrlTemplate.Proofs.Config.Checked

/-!
# When a configuration is valid

The check goes over the rules and keeps the names that it has met. What it reports is the fault of
the first rule that has one: a pattern that cannot be read or, behind a pattern that can, a name
that an earlier rule has.

* `IsReadable`: a pattern can be read.
* `RuleFault`: what is wrong with the rule at a position, and how it is reported.
* `FirstFault`: the fault of the first rule that has one, from a position on.
* `checkRules_step`: at each rule, the check reports its fault or goes on.
* `value_checkRules_eq_error_iff`: what the check reports from a position on.
* `no_fault_iff`: rules are without fault if their patterns can be read and their names differ.
* `value_check_eq_ok_iff`: when a configuration is valid.
* `check_first_fault`: the same, and what is reported otherwise.
-/

namespace UrlTemplate

open Checked (value value_bind value_lift)

variable {path : String} {rules rest : List Rule} {rule : Rule} {seen : List String} {k : Nat}
  {e e' : ConfigError}

/-! ## Reading patterns -/

/-- A pattern can be read. -/
def IsReadable (pattern : String) : Prop := ∃ tokens, Pattern.read pattern.toList = .ok tokens

theorem value_tokens (rule : Rule) (label : String) :
    value (rule.tokens label) =
      (Pattern.read rule.pattern.toList).mapError (.badPattern label rule.pattern) := by
  rw [Rule.tokens, value_bind, value_lift, patternTokens]
  cases Pattern.read rule.pattern.toList <;> rfl

/-! ## Faults -/

/-- What is wrong with the rule at a position, counted from zero: its pattern or, if that can be
read, its name. A rule without a name is called by its position, counted from one. -/
inductive RuleFault (path : String) (rules : List Rule) (k : Nat) : ConfigError → Prop
  | badPattern {rule : Rule} {cause : Pattern.SyntaxError} (hrule : rules[k]? = some rule)
      (hread : Pattern.read rule.pattern.toList = .error cause) :
      RuleFault path rules k (.badPattern (rule.name.getD s!"#{k + 1}") rule.pattern cause)
  | duplicateName {rule : Rule} {name : String} (hrule : rules[k]? = some rule)
      (hread : IsReadable rule.pattern) (hname : rule.name = some name)
      (hearlier : ∃ earlier ∈ rules.take k, earlier.name = some name) :
      RuleFault path rules k (.duplicateName name path)

theorem RuleFault.lt_length (h : RuleFault path rules k e) : k < rules.length := by
  cases h with
  | badPattern hrule _ => exact (List.getElem?_eq_some_iff.mp hrule).1
  | duplicateName hrule _ _ _ => exact (List.getElem?_eq_some_iff.mp hrule).1

theorem ruleFault_iff_of_unreadable {cause : Pattern.SyntaxError} (hrule : rules[k]? = some rule)
    (hread : Pattern.read rule.pattern.toList = .error cause) : RuleFault path rules k e ↔
      e = .badPattern (rule.name.getD s!"#{k + 1}") rule.pattern cause := by
  constructor
  · rintro (⟨hrule', hread'⟩ | ⟨hrule', ⟨_, hread'⟩, -, -⟩)
    · cases hrule.symm.trans hrule'
      cases hread.symm.trans hread'
      rfl
    · cases hrule.symm.trans hrule'
      cases hread.symm.trans hread'
  · rintro rfl
    exact .badPattern hrule hread

theorem ruleFault_iff_of_readable (hrule : rules[k]? = some rule) (h : IsReadable rule.pattern) :
    RuleFault path rules k e ↔ ∃ name, rule.name = some name ∧
      (∃ earlier ∈ rules.take k, earlier.name = some name) ∧ e = .duplicateName name path := by
  constructor
  · rintro (⟨hrule', hread⟩ | ⟨hrule', -, hname, hearlier⟩)
    · cases hrule.symm.trans hrule'
      obtain ⟨tokens, htokens⟩ := h
      cases htokens.symm.trans hread
    · cases hrule.symm.trans hrule'
      exact ⟨_, hname, hearlier, rfl⟩
  · rintro ⟨name, hname, hearlier, rfl⟩
    exact .duplicateName hrule h hname hearlier

/-- A rule has one fault at most. -/
theorem RuleFault.unique (h : RuleFault path rules k e) (h' : RuleFault path rules k e') :
    e = e' := by
  have hk := h.lt_length
  have hrule : rules[k]? = some rules[k] := List.getElem?_eq_getElem hk
  cases hread : Pattern.read rules[k].pattern.toList with
  | error cause =>
    rw [ruleFault_iff_of_unreadable hrule hread] at h h'
    exact h.trans h'.symm
  | ok tokens =>
    rw [ruleFault_iff_of_readable hrule ⟨tokens, hread⟩] at h h'
    obtain ⟨name, hname, -, rfl⟩ := h
    obtain ⟨name', hname', -, rfl⟩ := h'
    cases hname.symm.trans hname'
    rfl

/-! ## The first fault -/

/-- The fault of the first rule that has one, from a position on. -/
def FirstFault (path : String) (rules : List Rule) (k : Nat) (e : ConfigError) : Prop :=
  ∃ m, k ≤ m ∧ RuleFault path rules m e ∧
    ∀ j, k ≤ j → j < m → ∀ e', ¬ RuleFault path rules j e'

theorem firstFault_iff_eq (h : RuleFault path rules k e') : FirstFault path rules k e ↔ e' = e := by
  constructor
  · rintro ⟨m, hm, hfault, hbefore⟩
    obtain rfl | hlt := Nat.eq_or_lt_of_le hm
    · exact h.unique hfault
    · exact absurd h (hbefore k le_rfl hlt e')
  · rintro rfl
    exact ⟨k, le_rfl, h, fun j hj hlt => absurd hlt (Nat.not_lt.mpr hj)⟩

theorem firstFault_iff_next (h : ∀ e', ¬ RuleFault path rules k e') :
    FirstFault path rules k e ↔ FirstFault path rules (k + 1) e := by
  constructor
  · rintro ⟨m, hm, hfault, hbefore⟩
    obtain rfl | hlater := Nat.eq_or_lt_of_le hm
    · exact absurd hfault (h e)
    · exact ⟨m, hlater, hfault, fun j hj => hbefore j (by omega)⟩
  · rintro ⟨m, hm, hfault, hbefore⟩
    refine ⟨m, by omega, hfault, fun j hj hlt => ?_⟩
    obtain rfl | hlater := Nat.eq_or_lt_of_le hj
    · exact h
    · exact hbefore j hlater hlt

theorem not_firstFault (h : rules.length ≤ k) : ¬ FirstFault path rules k e := by
  rintro ⟨m, hm, hfault, -⟩
  have hlt := hfault.lt_length
  omega

/-- Where rules have faults, one of them comes first. -/
theorem RuleFault.exists_first (h : RuleFault path rules k e) :
    ∃ e₀, FirstFault path rules 0 e₀ := by
  classical
  have hexists : ∃ m, ∃ e₀, RuleFault path rules m e₀ := ⟨k, e, h⟩
  obtain ⟨e₀, hfirst⟩ := Nat.find_spec hexists
  exact ⟨e₀, Nat.find hexists, Nat.zero_le _, hfirst,
    fun j _ hj e' he' => Nat.find_min hexists hj ⟨e', he'⟩⟩

/-! ## The check -/

/-- The names that the check has met are those of the rules before a position. -/
def HasSeen (rules : List Rule) (k : Nat) (seen : List String) : Prop :=
  ∀ name, name ∈ seen ↔ ∃ earlier ∈ rules.take k, earlier.name = some name

theorem HasSeen.next (h : HasSeen rules k seen) (hrule : rules[k]? = some rule) :
    HasSeen rules (k + 1) (rule.name.toList ++ seen) := by
  intro name
  rw [List.take_add_one, hrule, List.mem_append, h name]
  simp [or_and_right, exists_or, or_comm]

/-- Behind a pattern that can be read, the check looks at the name. -/
theorem value_checkRules_of_readable (more : List Rule) (h : IsReadable rule.pattern) :
    value (checkRules path seen k (rule :: more)) =
      match rule.name with
      | none => value (checkRules path seen (k + 1) more)
      | some name =>
        if name ∈ seen then .error (.duplicateName name path)
        else value (checkRules path (name :: seen) (k + 1) more) := by
  obtain ⟨tokens, htokens⟩ := h
  rw [checkRules, value_bind, Rule.check, value_bind, value_tokens, htokens]
  cases rule.name with
  | none => rfl
  | some name => exact apply_ite value (name ∈ seen) _ _

/-- At each rule, the check reports its fault, or goes on with the names up to it. -/
theorem checkRules_step (path : String) (more : List Rule) (hseen : HasSeen rules k seen)
    (hrule : rules[k]? = some rule) :
    (∃ e, RuleFault path rules k e ∧
      value (checkRules path seen k (rule :: more)) = .error e) ∨
    (∀ e, ¬ RuleFault path rules k e) ∧ value (checkRules path seen k (rule :: more)) =
      value (checkRules path (rule.name.toList ++ seen) (k + 1) more) := by
  cases hread : Pattern.read rule.pattern.toList with
  | error cause =>
    refine .inl ⟨_, .badPattern hrule hread, ?_⟩
    rw [checkRules, value_bind, Rule.check, value_bind, value_tokens, hread]
    rfl
  | ok tokens =>
    simp only [ruleFault_iff_of_readable hrule ⟨tokens, hread⟩,
      value_checkRules_of_readable more ⟨tokens, hread⟩]
    cases hname : rule.name with
    | none =>
      refine .inr ⟨?_, rfl⟩
      rintro e ⟨_, ⟨⟩, -⟩
    | some name =>
      by_cases hmem : name ∈ seen
      · exact .inl ⟨_, ⟨name, rfl, (hseen name).mp hmem, rfl⟩, if_pos hmem⟩
      · refine .inr ⟨?_, if_neg hmem⟩
        rintro e ⟨_, ⟨⟩, hearlier, -⟩
        exact hmem ((hseen name).mpr hearlier)

/-- From a position on, the check reports the first fault. -/
theorem value_checkRules_eq_error_iff (path : String) (e : ConfigError)
    (hseen : HasSeen rules k seen) (hrest : rules.drop k = rest) :
    value (checkRules path seen k rest) = .error e ↔ FirstFault path rules k e := by
  -- over the rules that are left; `HasSeen` ties the names met to the rules before them
  induction rest generalizing k seen with
  | nil => exact iff_of_false nofun (not_firstFault (List.drop_eq_nil_iff.mp hrest))
  | cons rule more ih =>
    have hrule : rules[k]? = some rule := by
      rw [← List.head?_drop, hrest, List.head?_cons]
    have hmore : rules.drop (k + 1) = more := by
      rw [← List.tail_drop, hrest, List.tail_cons]
    obtain ⟨e', hfault, he'⟩ | ⟨hfine, hgoes⟩ := checkRules_step path more hseen hrule
    · rw [firstFault_iff_eq hfault, he', Except.error.injEq]
    · rw [firstFault_iff_next hfine, hgoes, ih (hseen.next hrule) hmore]

/-! ## Configurations without faults -/

/-- Rules are without fault if their patterns can be read and no two have the same name. -/
theorem no_fault_iff (path : String) (rules : List Rule) : (∀ k e, ¬ RuleFault path rules k e) ↔
    (∀ rule ∈ rules, IsReadable rule.pattern) ∧ (rules.filterMap (·.name)).Nodup := by
  rw [List.Nodup, List.pairwise_filterMap, List.pairwise_iff_getElem]
  constructor
  · intro h
    have hreadable : ∀ rule ∈ rules, IsReadable rule.pattern := by
      intro rule hrule
      obtain ⟨k, hk⟩ := List.mem_iff_getElem?.mp hrule
      cases hread : Pattern.read rule.pattern.toList with
      | error cause => exact absurd (.badPattern hk hread) (h k _)
      | ok tokens => exact ⟨tokens, hread⟩
    refine ⟨hreadable, fun i j hi hj hij name hname name' hname' heq => ?_⟩
    subst heq
    exact h j _ (.duplicateName (List.getElem?_eq_getElem hj) (hreadable _ (List.getElem_mem hj))
      hname' ⟨rules[i], List.mem_take_iff_getElem.mpr ⟨i, by omega, rfl⟩, hname⟩)
  · rintro ⟨hreadable, hnames⟩ k e (⟨hrule, hread⟩ | ⟨hrule, -, hname, earlier, hearlier, hname'⟩)
    · obtain ⟨tokens, htokens⟩ := hreadable _ (List.mem_of_getElem? hrule)
      cases htokens.symm.trans hread
    · obtain ⟨hk, rfl⟩ := List.getElem?_eq_some_iff.mp hrule
      obtain ⟨i, hi, rfl⟩ := List.mem_take_iff_getElem.mp hearlier
      exact hnames i k (by omega) hk (by omega) _ hname' _ hname rfl

/-! ## Validity -/

variable {config : Config}

theorem value_check_eq_error_iff (path : String) (e : ConfigError) :
    value (config.check path) = .error e ↔ FirstFault path config.rules 0 e :=
  value_checkRules_eq_error_iff path e (by simp [HasSeen]) rfl

theorem value_check_eq_ok_iff : value (config.check path) = .ok () ↔
    (∀ rule ∈ config.rules, IsReadable rule.pattern) ∧ (config.rules.filterMap (·.name)).Nodup := by
  rw [← no_fault_iff path]
  cases hcheck : value (config.check path) with
  | ok _ =>
    refine iff_of_true rfl fun k e hfault => ?_
    obtain ⟨e₀, hfirst⟩ := hfault.exists_first
    cases hcheck.symm.trans ((value_check_eq_error_iff path e₀).mpr hfirst)
  | error e =>
    obtain ⟨k, -, hfault, -⟩ := (value_check_eq_error_iff path e).mp hcheck
    exact iff_of_false nofun fun h => h k e hfault

/-- A configuration is valid if every pattern can be read and no two rules have the same name. What
is reported otherwise is the fault of the first rule that has one. -/
theorem check_first_fault (config : Config) (path : String) :
    (value (config.check path) = .ok () ↔
      (∀ rule ∈ config.rules, IsReadable rule.pattern) ∧
        (config.rules.filterMap (·.name)).Nodup) ∧
    ∀ e, value (config.check path) = .error e ↔ ∃ k, RuleFault path config.rules k e ∧
      ∀ j < k, ∀ e', ¬ RuleFault path config.rules j e' := by
  refine ⟨value_check_eq_ok_iff, fun e => ?_⟩
  rw [value_check_eq_error_iff, FirstFault]
  simp only [Nat.zero_le, true_and, forall_const]

/-- A name is reported where it comes again, before the pattern behind it. -/
example : value (Config.check { rules := [{ name := "a", pattern := "x" }, { pattern := "y" },
    { name := "a", pattern := "z" }, { pattern := "[" }] } "f") =
      .error (.duplicateName "a" "f") := by decide +kernel

end UrlTemplate
