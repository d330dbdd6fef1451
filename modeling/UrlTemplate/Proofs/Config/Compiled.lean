import UrlTemplate.Config.Selection
import UrlTemplate.Proofs.Config.Discovery
import UrlTemplate.Proofs.Config.Validity

/-!
# Making rules ready

A rule is ready when its regex is compiled and its pattern is read. The patterns of a configuration
are read when the configuration is checked, so that behind a search that goes well only a regex can
be bad. Rules that are ready select for a URL what the regexes of the rules say.

* `readable_of_discover`: the patterns of all configurations that are found can be read.
* `compile_eq_ok_iff`: when a rule can be made ready.
* `compileRules_eq_ok_iff`, `exists_ready_iff`, `compileRules_eq_error_iff`: when all rules can be,
  and what fails.
* `selectRule_eq`: rules that are ready have the one for a URL that their regexes say.
* `patternFor`: the pattern that the rules have for a URL, as their regexes say.
* `pattern_selectRule`: rules that are ready have the same pattern for it.
-/

namespace UrlTemplate

open Checked (value value_bind)
open Scan (bind_eq_ok_iff bind_eq_error_iff)

/-! ## Patterns that were checked -/

namespace Discovery

variable {decode : String → Except String Config} {tree : Tree} {path : Path}

theorem checked_of_loadAt {loaded : LoadedConfig} (h : loadAt decode tree path = .ok loaded) :
    value (loaded.config.check loaded.path.text) = .ok () := by
  unfold loadAt at h
  obtain ⟨text, -, h⟩ := bind_eq_ok_iff.mp h
  obtain ⟨config, -, h⟩ := bind_eq_ok_iff.mp h
  obtain ⟨_, hcheck, h⟩ := bind_eq_ok_iff.mp h
  cases h
  exact hcheck

end Discovery

/-- The patterns of all configurations that are found can be read. -/
theorem readable_of_discover {decode : String → Except String Config} {s : Surroundings}
    {start : Path} {configs : List LoadedConfig}
    (h : value (discover decode s start) = .ok configs) :
    ∀ r ∈ mergeRules configs, IsReadable r.rule.pattern := by
  rw [Discovery.value_discover] at h
  have hloads := (Discovery.loaded_of_mapM h).2
  intro r hr
  obtain ⟨loaded, hloaded, hr⟩ := List.mem_flatMap.mp hr
  obtain ⟨rule, hrule, rfl⟩ := List.mem_map.mp hr
  have hcheck := Discovery.checked_of_loadAt (hloads loaded hloaded)
  exact (value_check_eq_ok_iff.mp hcheck).1 rule hrule

/-! ## Making a rule ready -/

variable {regex : String → Except String UrlTest} {r : SourcedRule} {rules : List SourcedRule}
  {c : CompiledRule} {compiled : List CompiledRule}

/-- The regex of a rule, if it has one, describes a set of URLs. -/
def SourcedRule.HasGoodRegex (regex : String → Except String UrlTest) (r : SourcedRule) : Prop :=
  ∀ text ∈ r.rule.urlPattern, ∃ test, regex text = .ok test

/-- The rule is for a URL, as its regex says. -/
def SourcedRule.isFor (regex : String → Except String UrlTest) (r : SourcedRule)
    (url : List Char) : Bool :=
  r.rule.urlPattern.all fun text => (regex text).toOption.any fun test => test url

theorem value_compileTest (regex : String → Except String UrlTest) (rule : Rule) :
    value (rule.compileTest regex) =
      match rule.urlPattern with
      | none => .ok none
      | some text => (some <$> regex text).mapError (.badRegex text) := by
  unfold Rule.compileTest
  cases rule.urlPattern with
  | none => rfl
  | some text => cases hregex : regex text <;> simp [hregex] <;> rfl

theorem value_compile (regex : String → Except String UrlTest) (r : SourcedRule) :
    value (r.compile regex) =
      value (r.rule.compileTest regex) >>= fun test =>
        (Pattern.read r.rule.pattern.toList).mapError
          (.badPattern (r.rule.name.getD r.source) r.rule.pattern) >>= fun tokens =>
            pure { rule := r.rule, test, tokens, source := r.source } := by
  simp only [SourcedRule.compile, value_bind, value_tokens]
  rfl

theorem compile_eq_ok_iff :
    value (r.compile regex) = .ok c ↔ ∃ test tokens,
      value (r.rule.compileTest regex) = .ok test ∧
        Pattern.read r.rule.pattern.toList = .ok tokens ∧
        c = { rule := r.rule, test, tokens, source := r.source } := by
  rw [value_compile]
  simp only [bind_eq_ok_iff, mapError_eq_ok_iff]
  constructor
  · rintro ⟨test, htest, tokens, htokens, h⟩
    exact ⟨test, tokens, htest, htokens, (Except.ok.inj h).symm⟩
  · rintro ⟨test, tokens, htest, htokens, rfl⟩
    exact ⟨test, htest, tokens, htokens, rfl⟩

theorem exists_compileTest_iff :
    (∃ test, value (r.rule.compileTest regex) = .ok test) ↔ r.HasGoodRegex regex := by
  rw [value_compileTest, SourcedRule.HasGoodRegex]
  cases r.rule.urlPattern with
  | none => simp
  | some text => cases hregex : regex text <;> simp [hregex, Except.mapError]

/-- A rule whose pattern can be read is ready unless its regex is bad. -/
theorem exists_compile_iff (h : IsReadable r.rule.pattern) :
    (∃ c, value (r.compile regex) = .ok c) ↔ r.HasGoodRegex regex := by
  obtain ⟨tokens, htokens⟩ := h
  rw [← exists_compileTest_iff]
  constructor
  · rintro ⟨c, hc⟩
    obtain ⟨test, -, htest, -⟩ := compile_eq_ok_iff.mp hc
    exact ⟨test, htest⟩
  · rintro ⟨test, htest⟩
    exact ⟨_, compile_eq_ok_iff.mpr ⟨test, tokens, htest, htokens, rfl⟩⟩

theorem compile_eq_error_iff (h : IsReadable r.rule.pattern) {e : ConfigError} :
    value (r.compile regex) = .error e ↔ ∃ text cause,
      r.rule.urlPattern = some text ∧ regex text = .error cause ∧ e = .badRegex text cause := by
  obtain ⟨tokens, htokens⟩ := h
  have htest : value (r.compile regex) = .error e ↔
      value (r.rule.compileTest regex) = .error e := by
    rw [value_compile, htokens, bind_eq_error_iff]
    refine or_iff_left ?_
    rintro ⟨test, -, h⟩
    cases h
  rw [htest, value_compileTest]
  cases r.rule.urlPattern with
  | none => simp
  | some text => cases hregex : regex text <;> simp [hregex, Except.mapError, eq_comm]

/-! ## Making all rules ready -/

theorem compileRules_eq_ok_iff : value (compileRules regex rules) = .ok compiled ↔
    List.Forall₂ (fun r c => value (r.compile regex) = .ok c) rules compiled := by
  rw [compileRules, Checked.value_mapM, mapM_eq_ok_iff]

/-- Rules are ready if each of them can be made so. -/
theorem exists_ready_iff : (∃ compiled, value (compileRules regex rules) = .ok compiled) ↔
    ∀ r ∈ rules, ∃ c, value (r.compile regex) = .ok c := by
  rw [compileRules, Checked.value_mapM, exists_mapM_iff]

/-- Rules whose patterns can be read are ready unless the regex of one is bad. -/
theorem exists_compileRules_iff (h : ∀ r ∈ rules, IsReadable r.rule.pattern) :
    (∃ compiled, value (compileRules regex rules) = .ok compiled) ↔
      ∀ r ∈ rules, r.HasGoodRegex regex :=
  exists_ready_iff.trans (forall₂_congr fun r hr => exists_compile_iff (h r hr))

/-- What fails is the first bad regex. -/
theorem compileRules_eq_error_iff (h : ∀ r ∈ rules, IsReadable r.rule.pattern) {e : ConfigError} :
    value (compileRules regex rules) = .error e ↔ ∃ before r after text cause,
      rules = before ++ r :: after ∧ (∀ b ∈ before, b.HasGoodRegex regex) ∧
        r.rule.urlPattern = some text ∧ regex text = .error cause ∧ e = .badRegex text cause := by
  rw [compileRules, Checked.value_mapM, mapM_eq_error_iff]
  constructor
  · rintro ⟨before, r, after, rfl, hbefore, he⟩
    obtain ⟨hbefore', hrest⟩ := List.forall_mem_append.mp h
    have hr := hrest r List.mem_cons_self
    obtain ⟨text, cause, hbad⟩ := (compile_eq_error_iff hr).mp he
    exact ⟨before, r, after, text, cause, rfl,
      fun b hb => (exists_compile_iff (hbefore' b hb)).mp (hbefore b hb), hbad⟩
  · rintro ⟨before, r, after, text, cause, rfl, hbefore, hbad⟩
    obtain ⟨hbefore', hrest⟩ := List.forall_mem_append.mp h
    have hr := hrest r List.mem_cons_self
    exact ⟨before, r, after, rfl,
      fun b hb => (exists_compile_iff (hbefore' b hb)).mpr (hbefore b hb),
      (compile_eq_error_iff hr).mpr ⟨text, cause, hbad⟩⟩

/-! ## The pattern for a URL -/

/-- The pattern of the first rule that is for a URL, or the empty one without such a rule. -/
def patternFor (regex : String → Except String UrlTest) (rules : List SourcedRule)
    (url : String) : String :=
  ((rules.find? fun r => r.isFor regex url.toList).map fun r => r.rule.pattern).getD ""

theorem readable_patternFor (h : ∀ r ∈ rules, IsReadable r.rule.pattern) (url : String) :
    IsReadable (patternFor regex rules url) := by
  unfold patternFor
  cases hfind : rules.find? fun r => r.isFor regex url.toList with
  | none => exact ⟨_, rfl⟩
  | some r => exact h r (List.mem_of_find?_eq_some hfind)

theorem tokens_of_compile (h : value (r.compile regex) = .ok c) :
    Pattern.read c.rule.pattern.toList = .ok c.tokens := by
  obtain ⟨test, tokens, -, htokens, rfl⟩ := compile_eq_ok_iff.mp h
  exact htokens

theorem rule_of_compile (h : value (r.compile regex) = .ok c) : c.rule = r.rule := by
  obtain ⟨test, tokens, -, -, rfl⟩ := compile_eq_ok_iff.mp h
  rfl

theorem source_of_compile (h : value (r.compile regex) = .ok c) : c.source = r.source := by
  obtain ⟨test, tokens, -, -, rfl⟩ := compile_eq_ok_iff.mp h
  rfl

theorem applies_of_compile (h : value (r.compile regex) = .ok c) (url : List Char) :
    c.applies url = r.isFor regex url := by
  obtain ⟨test, tokens, htest, -, rfl⟩ := compile_eq_ok_iff.mp h
  rw [value_compileTest] at htest
  rw [CompiledRule.applies, SourcedRule.isFor]
  cases hpattern : r.rule.urlPattern with
  | none =>
    rw [hpattern] at htest
    cases htest
    rfl
  | some text =>
    rw [hpattern] at htest
    obtain ⟨found, hfound, rfl⟩ := Scan.map_eq_ok_iff.mp (mapError_eq_ok_iff.mp htest)
    simp [hfound, Except.toOption]

/-- A rule that is ready brings the tokens of its pattern. -/
theorem tokens_of_compileRules (h : value (compileRules regex rules) = .ok compiled) :
    ∀ c ∈ compiled, Pattern.read c.rule.pattern.toList = .ok c.tokens := by
  replace h := compileRules_eq_ok_iff.mp h
  induction h with
  | nil => exact nofun
  | cons hc _ ih => exact List.forall_mem_cons.mpr ⟨tokens_of_compile hc, ih⟩

/-- Of rules that are ready, the one for a URL is the first that is for it, made ready. -/
theorem selectRule_eq (h : value (compileRules regex rules) = .ok compiled) (url : List Char) :
    selectRule compiled url = (rules.find? fun r => r.isFor regex url).bind fun r =>
      (value (r.compile regex)).toOption := by
  replace h := compileRules_eq_ok_iff.mp h
  unfold selectRule
  induction h with
  | nil => rfl
  | @cons r c rules compiled hc _ ih =>
    rw [List.find?_cons, List.find?_cons, applies_of_compile hc]
    cases r.isFor regex url with
    | true => rw [Option.bind_some, hc, Except.toOption]
    | false => exact ih

/-- Rules that are ready have the pattern for a URL that their regexes say. -/
theorem pattern_selectRule (h : value (compileRules regex rules) = .ok compiled) (url : String) :
    ((selectRule compiled url.toList).map fun c => c.rule.pattern).getD "" =
      patternFor regex rules url := by
  rw [selectRule_eq h, patternFor]
  cases hfind : rules.find? fun r => r.isFor regex url.toList with
  | none => rfl
  | some r =>
    obtain ⟨c, hc⟩ := exists_ready_iff.mp ⟨compiled, h⟩ r (List.mem_of_find?_eq_some hfind)
    rw [Option.bind_some, hc, Except.toOption, Option.map_some, Option.map_some, rule_of_compile hc]

end UrlTemplate
