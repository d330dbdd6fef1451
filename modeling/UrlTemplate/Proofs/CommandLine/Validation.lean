import UrlTemplate.Proofs.CommandLine.Answers

/-!
# What checking configurations rules out

Patterns of configuration files are read when the files are loaded. So they cannot turn out to be
bad later, neither when the rules are made ready nor when URLs are answered, however often they are
read again. Checking the configurations finds whatever would keep a run from loading its rules.

* `code_checkConfigs_iff`: when the configurations are found to be valid.
* `onlyComplains_strict`, `onlyComplains_tokens`: what an answer complains about.
* `discovered_patterns_stay_readable`: what behind a search that goes well can fail.
-/

namespace UrlTemplate.CommandLine

open Session

/-! ## Checking the configurations -/

variable {languages : Languages} {world : World}

theorem value_complainConfig (e : ConfigError) (cause : Option String) :
    value (complainConfig e cause) = .ok () := by
  cases cause <;> rfl

/-- Whatever is wrong, it is complained about, and nothing ends the run early. -/
theorem value_checkConfigs (languages : Languages) (world : World) :
    value (checkConfigs languages world) =
      match Checked.value
        (discover languages.config world.toSurroundings world.directory) with
      | .error _ => .ok false
      | .ok configs =>
        match Checked.value (compileRules languages.regex (mergeRules configs)) with
        | .error _ => .ok false
        | .ok _ => .ok true := by
  have hfails : ∀ e cause,
      value (complainConfig e cause >>= fun _ => pure false : Session Bool) = .ok false := by
    intro e cause
    rw [value_bind_of_ok (value_complainConfig e cause), value_pure]
  rw [checkConfigs, value_bind_checked]
  cases Checked.value (discover languages.config world.toSurroundings world.directory) with
  | error e => exact hfails e e.cause?
  | ok configs =>
    simp only [value_bind_checked]
    cases Checked.value (compileRules languages.regex (mergeRules configs)) with
    | error e => exact hfails e none
    | ok compiled =>
      change value (if configs.isEmpty then _ else _) = .ok true
      split
      · rfl
      · refine (value_bind_of_ok (value_act _)).trans ?_
        exact value_bind_of_ok (value_forM fun _ _ => value_act _)

/-- The configurations are found to be valid exactly if a run can load its rules. -/
theorem code_checkConfigs_iff {arguments : List String} {verbosity : Nat}
    (harguments : languages.arguments arguments = .ok ⟨.checkConfigs, verbosity⟩) :
    (run languages world arguments).code = 0 ↔
      ∃ source, value (loadSource languages world none) = .ok source := by
  have hcode : (run languages world arguments).code = 0 ↔
      value (checkConfigs languages world) = .ok true := by
    rw [run, harguments]
    exact code_outcome_eq_zero_iff
  rw [hcode, value_checkConfigs]
  constructor
  · intro h
    split at h
    · cases h
    · split at h
      · cases h
      · exact ⟨_, value_loadSource_eq_ok_iff.mpr ⟨_, _, ⟨‹_›, ‹_›⟩, rfl⟩⟩
  · rintro ⟨source, hsource⟩
    obtain ⟨configs, compiled, ⟨hfound, hready⟩, -⟩ := value_loadSource_eq_ok_iff.mp hsource
    simp only [hfound, hready]

/-! ## What an answer complains about -/

variable {mode : Mode} {source : Source} {url : String} {Q : String → Prop}

theorem onlyComplains_answerUrl
    (h : OnlyComplains Q (answerWith mode url (source.patternOf url) (source.rule? url))) :
    OnlyComplains Q (answerUrl mode source url) := by
  obtain ⟨notice, hsilent, -, he⟩ := exists_answerUrl_eq mode source url
  rw [he]
  exact Does.bind (hsilent.onlyComplains Q) fun _ => h

/-- A strict answer complains that a pattern cannot be used, and about nothing else. -/
theorem onlyComplains_strict (source : Source) (url : String) :
    OnlyComplains (fun text => ∃ e,
      (tryTransform url.toList (source.patternOf url).toList).value = .error e ∧
        text = "error: " ++ url ++ ": " ++ e.message ++ "\n") (answerUrl .strict source url) := by
  refine onlyComplains_answerUrl ?_
  refine Does.bind_of_value ((isSilent_logged _).onlyComplains _) fun result hresult => ?_
  cases result with
  | ok result => exact Does.bind (does_act fun _ h => nomatch h) fun _ => does_pure _
  | error e =>
    refine Does.bind (does_act ?_) fun _ => does_pure _
    rintro text ⟨⟩
    exact ⟨e, Except.ok.inj hresult, rfl⟩

/-- Printing tokens complains about nothing. -/
theorem onlyComplains_tokens (source : Source) (url : String) :
    OnlyComplains (fun _ => False) (answerUrl .tokens source url) := by
  have hprint : ∀ text, OnlyComplains (fun _ => False) (act (.print text)) :=
    fun _ => does_act fun _ h => nomatch h
  refine onlyComplains_answerUrl (Does.bind ?_ fun _ => does_pure _)
  refine Does.bind (hprint _) fun _ => ?_
  refine Does.bind ((isSilent_logged _).onlyComplains _) fun tokens => ?_
  refine Does.bind (hprint _) fun _ => ?_
  split
  · refine Does.bind ((isSilent_logged _).onlyComplains _) fun result => ?_
    cases result with
    | error e => exact does_throw _
    | ok rules => exact Does.bind (hprint _) fun _ => hprint _
  · exact does_pure ()

theorem tryTransform_ne_badPattern {pattern : String} (h : IsReadable pattern)
    (url : List Char) (cause : Pattern.SyntaxError) :
    (tryTransform url pattern.toList).value ≠ .error (.badPattern cause) := by
  obtain ⟨tokens, htokens⟩ := h
  intro he
  obtain ⟨s, hs, -⟩ | ⟨rules, m, -, -, hm⟩ := tryTransform_eq_error_iff.mp he
  · cases htokens.symm.trans hs
  · cases hm

/-! ## Runs with configured rules -/

namespace Loads

variable {configs : List LoadedConfig} {compiled : List CompiledRule} {arguments : List String}
  {given urls : List String} {verbosity : Nat} {text : String}
  (h : Loads languages world configs compiled)
  (hurls : value (urlsToAnswer world given) = .ok urls)
include h hurls

/-- All complaints are those of the answers. -/
theorem complain_mem
    (harguments : languages.arguments arguments = .ok ⟨.answer mode none given, verbosity⟩)
    (htext : .complain text ∈ (run languages world arguments).events) :
    ∃ url ∈ urls, .complain text ∈ log (answerUrl mode (.rules compiled) url) := by
  rw [h.run_answer hurls harguments] at htext
  obtain hload | hanswers := List.mem_append.mp (List.mem_filter.mp htext).1
  · obtain ⟨r, hr⟩ := isSilent_loadSource languages world none _ hload
    cases hr
  · exact List.mem_flatMap.mp hanswers

/-- A strict run complains only that a pattern does not fit. -/
theorem complain_mem_strict
    (harguments : languages.arguments arguments = .ok ⟨.answer .strict none given, verbosity⟩)
    (htext : .complain text ∈ (run languages world arguments).events) :
    ∃ url ∈ urls, ∃ m,
      (tryTransform url.toList
        (patternFor languages.regex (mergeRules configs) url).toList).value =
          .error (.mismatch m) ∧
      text = "error: " ++ url ++ ": " ++ m.message ++ "\n" := by
  obtain ⟨url, hurl, hlog⟩ := h.complain_mem hurls harguments htext
  obtain ⟨e, he, rfl⟩ := onlyComplains_strict _ url _ hlog text rfl
  rw [h.patternOf_eq] at he
  cases e with
  | badPattern cause =>
    exact absurd he (tryTransform_ne_badPattern (h.readable_patternFor url) url.toList cause)
  | mismatch m => exact ⟨url, hurl, m, he, rfl⟩

/-- A run that prints tokens goes well. -/
theorem tokens_goes_well
    (harguments : languages.arguments arguments = .ok ⟨.answer .tokens none given, verbosity⟩) :
    (run languages world arguments).code = 0 ∧
      ∀ text, .complain text ∉ (run languages world arguments).events := by
  constructor
  · rw [h.run_answer hurls harguments]
    simp [answersWell]
  · intro text htext
    obtain ⟨url, -, hlog⟩ := h.complain_mem hurls harguments htext
    exact onlyComplains_tokens _ url _ hlog text rfl

end Loads

/-! ## What a search that goes well rules out -/

/-- Behind a search that goes well, nothing but the first bad regex keeps the rules from being made
ready. With these rules, no pattern is bad: strict answers complain only that a pattern does not
fit, and printing tokens always goes well. Checking the configurations tells whether a run can load
its rules. -/
theorem discovered_patterns_stay_readable (languages : Languages) (world : World) :
    (∀ configs, Checked.value
        (discover languages.config world.toSurroundings world.directory) = .ok configs →
      let rules := mergeRules configs
      (∀ label pattern cause,
        Checked.value (compileRules languages.regex rules) ≠
          .error (.badPattern label pattern cause)) ∧
      ((∃ compiled, Checked.value (compileRules languages.regex rules) = .ok compiled) ↔
        ∀ r ∈ rules, r.HasGoodRegex languages.regex) ∧
      (∀ e, Checked.value (compileRules languages.regex rules) = .error e ↔
        ∃ before r after text cause, rules = before ++ r :: after ∧
          (∀ b ∈ before, b.HasGoodRegex languages.regex) ∧ r.rule.urlPattern = some text ∧
          languages.regex text = .error cause ∧ e = .badRegex text cause) ∧
      (∀ url : String, ∀ cause,
        (tryTransform url.toList (patternFor languages.regex rules url).toList).value ≠
          .error (.badPattern cause)) ∧
      ∀ compiled, Checked.value (compileRules languages.regex rules) = .ok compiled →
        ∀ arguments given urls verbosity, value (urlsToAnswer world given) = .ok urls →
          (languages.arguments arguments = .ok ⟨.answer .strict none given, verbosity⟩ →
            ∀ text, .complain text ∈ (run languages world arguments).events →
              ∃ url ∈ urls, ∃ m,
                (tryTransform url.toList (patternFor languages.regex rules url).toList).value =
                  .error (.mismatch m) ∧
                text = "error: " ++ url ++ ": " ++ m.message ++ "\n") ∧
          (languages.arguments arguments = .ok ⟨.answer .tokens none given, verbosity⟩ →
            (run languages world arguments).code = 0 ∧
            ∀ text, .complain text ∉ (run languages world arguments).events)) ∧
    ∀ arguments verbosity, languages.arguments arguments = .ok ⟨.checkConfigs, verbosity⟩ →
      ((run languages world arguments).code = 0 ↔
        ∃ source, value (loadSource languages world none) = .ok source) := by
  refine ⟨fun configs hconfigs => ?_, fun _ _ => code_checkConfigs_iff⟩
  have hreadable := readable_of_discover hconfigs
  refine ⟨?_, exists_compileRules_iff hreadable, fun _ => compileRules_eq_error_iff hreadable,
    fun url => tryTransform_ne_badPattern (readable_patternFor hreadable url) url.toList, ?_⟩
  · intro label pattern cause h
    obtain ⟨_, _, _, _, _, -, -, -, -, he⟩ := (compileRules_eq_error_iff hreadable).mp h
    cases he
  · intro compiled hcompiled arguments given urls verbosity hurls
    have hloads : Loads languages world configs compiled := ⟨hconfigs, hcompiled⟩
    exact ⟨fun harguments _ => hloads.complain_mem_strict hurls harguments,
      hloads.tokens_goes_well hurls⟩

/-- A rule with a bad regex behind a good one, and the good one alone, which fits no URL. -/
theorem discovered_patterns_stay_readable_each :
    let file : Path := ⟨[configFileName]⟩
    let good : Rule := { urlPattern := some "/b", pattern := "/c" }
    let bad : Rule := { urlPattern := some "(", pattern := "/*" }
    let languages : Languages := {
      config := fun text => .ok { rules := if text = "both" then [good, bad] else [good] }
      regex := fun text =>
        if text = "(" then .error "unclosed group"
        else .ok fun url => text.toList.isPrefixOf url
      arguments := readArguments }
    let world : String → World := fun content => {
      tree := fun path => if path = file then .file content.toUTF8 else .missing
      home := none
      environment := fun _ => none
      directory := ⟨[]⟩
      input := "".toUTF8 }
    Checked.value (compileRules languages.regex (mergeRules [⟨file, { rules := [good, bad] }⟩])) =
        .error (.badRegex "(" "unclosed group") ∧
      (run languages (world "both") ["config", "validate"]).code ≠ 0 ∧
      (run languages (world "one") ["config", "validate"]).code = 0 ∧
      (run languages (world "one") ["--tokens", "/a", "/b"]).code = 0 ∧
      ∀ text, .complain text ∈ (run languages (world "one") ["--strict", "/a", "/b"]).events →
        text = "error: /b: " ++ Mismatch.message (.segment ['c'] ['b']) ++ "\n" := by
  intro file good bad languages world
  have hboth : Checked.value (discover languages.config (world "both").toSurroundings
      (world "both").directory) = .ok [⟨file, { rules := [good, bad] }⟩] := by decide +kernel
  have hone : Checked.value (discover languages.config (world "one").toSurroundings
      (world "one").directory) = .ok [⟨file, { rules := [good] }⟩] := by decide +kernel
  have hgood : ∀ source, SourcedRule.HasGoodRegex languages.regex ⟨good, source⟩ := by
    rintro source text ⟨⟩
    exact ⟨fun url => "/b".toList.isPrefixOf url, rfl⟩
  have hvalidate : languages.arguments ["config", "validate"] = .ok ⟨.checkConfigs, 0⟩ := by
    decide
  have hurls : value (urlsToAnswer (world "one") ["/a", "/b"]) = .ok ["/a", "/b"] := rfl
  obtain ⟨hboth', hchecksBoth⟩ := discovered_patterns_stay_readable languages (world "both")
  obtain ⟨hone', hchecksOne⟩ := discovered_patterns_stay_readable languages (world "one")
  have hbad := ((hboth' _ hboth).2.2.1 _).mpr ⟨[⟨good, file.text⟩], ⟨bad, file.text⟩, [], "(",
    "unclosed group", rfl, List.forall_mem_singleton.mpr (hgood file.text), rfl, rfl, rfl⟩
  obtain ⟨compiled, hcompiled⟩ :=
    (hone' _ hone).2.1.mpr (List.forall_mem_singleton.mpr (hgood file.text))
  have hruns := fun arguments =>
    (hone' _ hone).2.2.2.2 compiled hcompiled arguments _ _ 0 hurls
  refine ⟨hbad, ?_, ?_, ?_, ?_⟩
  · intro hcode
    obtain ⟨source, hsource⟩ := (hchecksBoth _ _ hvalidate).mp hcode
    obtain ⟨configs, ready, ⟨hfound, hready⟩, -⟩ := value_loadSource_eq_ok_iff.mp hsource
    cases hboth.symm.trans hfound
    cases hbad.symm.trans hready
  · exact (hchecksOne _ _ hvalidate).mpr
      ⟨_, Loads.value_loadSource ⟨hone, hcompiled⟩⟩
  · exact ((hruns ["--tokens", "/a", "/b"]).2 (by decide)).1
  · intro text htext
    obtain ⟨url, hurl, m, hm, rfl⟩ :=
      (hruns ["--strict", "/a", "/b"]).1 (by decide) text htext
    obtain rfl | rfl : url = "/a" ∨ url = "/b" := by simpa using hurl
    · have hfits : (tryTransform "/a".toList (patternFor languages.regex
          (mergeRules [⟨file, { rules := [good] }⟩]) "/a").toList).value = .ok "/a".toList := by
        decide +kernel
      cases hfits.symm.trans hm
    · have hunfit : (tryTransform "/b".toList (patternFor languages.regex
          (mergeRules [⟨file, { rules := [good] }⟩]) "/b").toList).value =
            .error (.mismatch (.segment ['c'] ['b'])) := by decide +kernel
      cases hunfit.symm.trans hm
      rfl

end UrlTemplate.CommandLine
