import UrlTemplate.Proofs.CommandLine.Answers
import UrlTemplate.Proofs.CommandLine.Arguments

/-!
# URLs on their own

A run with configured rules does for each URL what a run for this URL alone does when it is given
the pattern of the first rule for it. So neither rules nor other URLs matter beyond that pattern.
Of the reading of arguments, this takes no more than that the arguments for one URL are read as
such.

* `run_alone`, `Loads.run_configured`: what the two kinds of runs do.
* `run_eq_runs_alone`: a run with configured rules is the runs for its URLs alone.
-/

namespace UrlTemplate.CommandLine

open Session

/-! ## The two kinds of runs -/

variable {languages : Languages} {world : World} {mode : Mode} {given urls : List String}
  {configs : List LoadedConfig} {compiled : List CompiledRule}

/-- A run for one URL alone shows its answer. -/
theorem run_alone (hread : ReadsAlone languages.arguments) {pattern url : String}
    (h : IsReadable pattern) :
    run languages world (aloneArguments mode pattern url) =
      { code := if answersWell mode url pattern then 0 else 1
        events := shown (answerUrl mode (.fixed pattern) url) } := by
  have hurls : value (urlsToAnswer world [url]) = .ok [url] := rfl
  have hsource : value (loadSource languages world (some pattern)) = .ok (.fixed pattern) := rfl
  have hreadable : ∀ u ∈ [url], IsReadable ((Source.fixed pattern).patternOf u) :=
    List.forall_mem_singleton.mpr h
  have hlog : log (loadSource languages world (some pattern)) = [] := rfl
  rw [run_answer (hread mode pattern url) hurls hsource hreadable, hlog]
  simp [shown, Source.patternOf, Source.pattern]

/-- A run with configured rules shows the answers to its URLs, each for the pattern that the rules
have for it. -/
theorem Loads.run_configured {arguments : List String} (h : Loads languages world configs compiled)
    (hurls : value (urlsToAnswer world given) = .ok urls)
    (harguments : languages.arguments arguments = .ok ⟨.answer mode none given, 0⟩) :
    run languages world arguments =
      { code := if urls.all fun url =>
          answersWell mode url (patternFor languages.regex (mergeRules configs) url) then 0 else 1
        events := urls.flatMap fun url => shown (answerUrl mode
          (.fixed (patternFor languages.regex (mergeRules configs) url)) url) } := by
  have hshown : ∀ url, shown (answerUrl mode (.rules compiled) url) = shown (answerUrl mode
      (.fixed (patternFor languages.regex (mergeRules configs) url)) url) := by
    intro url
    rw [shown_answerUrl mode (h.read_patternOf url), h.patternOf_eq]
  have hsilent : (log (loadSource languages world none)).filter (·.takesPlace 0) = [] :=
    (isSilent_loadSource languages world none).shown_eq
  rw [h.run_answer hurls harguments, List.filter_append, hsilent, List.nil_append,
    List.filter_flatMap]
  simp only [← hshown]
  rfl

/-! ## One run as many -/

/-- Only a strict answer goes wrong, and only if the pattern does not fit. -/
theorem answersWell_eq_false_iff {url pattern : String} :
    answersWell mode url pattern = false ↔
      mode = .strict ∧ ∃ e, (tryTransform url.toList pattern.toList).value = .error e := by
  cases mode with
  | plain | tokens => simp [answersWell]
  | strict =>
    rw [answersWell]
    cases (tryTransform url.toList pattern.toList).value <;> simp [Except.isOk, Except.toBool]

/-- What is picked from events, one list of them behind the other. -/
theorem join_filterMap_flatMap (pick : Event → Option String) (f : String → List Event)
    (l : List String) :
    String.join ((l.flatMap f).filterMap pick) =
      String.join (l.map fun a => String.join ((f a).filterMap pick)) := by
  induction l with
  | nil => rfl
  | cons a l ih =>
    rw [List.flatMap_cons, List.filterMap_append, String.join_append, ih, List.map_cons,
      String.join_cons]

/-- A run with configured rules prints and complains, in order, what a run for each URL alone does
in the same mode, given the pattern of the first rule for it. It fails exactly if it is strict and
the pattern of one URL does not fit. For this, a rule that is ready does with a URL what its
pattern does. -/
theorem run_eq_runs_alone (h : Loads languages world configs compiled) :
    (ReadsAlone languages.arguments → ∀ mode given urls arguments,
      value (urlsToAnswer world given) = .ok urls →
      languages.arguments arguments = .ok ⟨.answer mode none given, 0⟩ →
      let pattern := patternFor languages.regex (mergeRules configs)
      let alone := fun url => run languages world (aloneArguments mode (pattern url) url)
      (run languages world arguments).output =
        String.join (urls.map fun url => (alone url).output) ∧
      (run languages world arguments).complaints =
        String.join (urls.map fun url => (alone url).complaints) ∧
      ((run languages world arguments).code ≠ 0 ↔ mode = .strict ∧
        ∃ url ∈ urls, ∃ e, (tryTransform url.toList (pattern url).toList).value = .error e)) ∧
    ∀ c ∈ compiled, ∀ url,
      (transformWith url c.tokens).value = (transform url c.rule.pattern.toList).value := by
  refine ⟨?_, fun c hc url =>
    (transform_of_read_ok url (tokens_of_compileRules h.ready c hc)).1.symm⟩
  intro hread mode given urls arguments hurls harguments pattern alone
  have halone : ∀ url, alone url =
      { code := if answersWell mode url (pattern url) then 0 else 1
        events := shown (answerUrl mode (.fixed (pattern url)) url) } :=
    fun url => run_alone hread (h.readable_patternFor url)
  rw [h.run_configured hurls harguments]
  simp only [halone]
  refine ⟨join_filterMap_flatMap _ _ _, join_filterMap_flatMap _ _ _, ?_⟩
  have hcode : (if urls.all fun url => answersWell mode url (pattern url) then 0 else 1) ≠
      (0 : UInt32) ↔ ∃ url ∈ urls, answersWell mode url (pattern url) = false := by
    split <;> simp_all
  rw [hcode]
  simp only [answersWell_eq_false_iff]
  constructor
  · rintro ⟨url, hurl, hmode, e, he⟩
    exact ⟨hmode, url, hurl, e, he⟩
  · rintro ⟨hmode, url, hurl, e, he⟩
    exact ⟨url, hurl, hmode, e, he⟩

/-- A URL without a rule, and one whose rule does not fit it. -/
theorem run_eq_runs_alone_unfit :
    let file : Path := ⟨[configFileName]⟩
    let rule : Rule := { urlPattern := some "/b", pattern := "/c" }
    let languages : Languages := {
      config := fun _ => .ok { rules := [rule] }
      regex := fun text => .ok fun url => text.toList.isPrefixOf url
      arguments := readArguments }
    let world : World := {
      tree := fun path => if path = file then .file "rules".toUTF8 else .missing
      home := none
      environment := fun _ => none
      directory := ⟨[]⟩
      input := "".toUTF8 }
    let all := run languages world ["--strict", "/a?y&x", "/b"]
    let first := run languages world (aloneArguments .strict "" "/a?y&x")
    let second := run languages world (aloneArguments .strict "/c" "/b")
    all.output = first.output ++ second.output ∧
      all.complaints = first.complaints ++ second.complaints ∧ all.code ≠ 0 := by
  intro file rule languages world all first second
  have hfound : Checked.value
      (discover languages.config world.toSurroundings world.directory) =
        .ok [⟨file, { rules := [rule] }⟩] := by decide +kernel
  obtain ⟨compiled, hready⟩ := (exists_compileRules_iff (readable_of_discover hfound)).mpr
    fun r _ text _ => ⟨fun url => text.toList.isPrefixOf url, rfl⟩
  have hurls : value (urlsToAnswer world ["/a?y&x", "/b"]) = .ok ["/a?y&x", "/b"] := rfl
  have harguments : languages.arguments ["--strict", "/a?y&x", "/b"] =
      .ok ⟨.answer .strict none ["/a?y&x", "/b"], 0⟩ := by decide
  obtain ⟨houtput, hcomplaints, hcode⟩ :=
    (run_eq_runs_alone ⟨hfound, hready⟩).1 readsAlone_readArguments _ _ _ _ hurls harguments
  have hfirst : patternFor languages.regex (mergeRules [⟨file, { rules := [rule] }⟩])
      "/a?y&x" = "" := by decide +kernel
  have hsecond : patternFor languages.regex (mergeRules [⟨file, { rules := [rule] }⟩])
      "/b" = "/c" := by decide +kernel
  have hunfit : (tryTransform "/b".toList (patternFor languages.regex
      (mergeRules [⟨file, { rules := [rule] }⟩]) "/b").toList).value =
        .error (.mismatch (.segment ['c'] ['b'])) := by
    rw [hsecond]
    decide +kernel
  simp only [List.map_cons, List.map_nil, hfirst, hsecond, String.join_cons, String.join_nil,
    String.append_empty] at houtput hcomplaints
  exact ⟨houtput, hcomplaints, hcode.mpr ⟨rfl, "/b", by simp, _, hunfit⟩⟩

end UrlTemplate.CommandLine
