import UrlTemplate.Proofs.CommandLine.Session
import UrlTemplate.Proofs.Config.Compiled
import UrlTemplate.Proofs.Transform.Recovery

/-!
# Answers

Each URL has an answer of its own. It depends on the mode and on the pattern for the URL, and not
on where the pattern comes from, as far as is shown at the default verbosity. An answer fails only
in strict mode, and cannot end a run early if the pattern can be read.

* `Loads`: the configured rules that a run loads.
* `answersWell`, `value_answerUrl`: whether an answer goes well.
* `shown_answerUrl`: rules show what their pattern shows.
* `run_answer`, `Loads.run_answer`: a run is the answers in order.
-/

namespace UrlTemplate.CommandLine

open Session

variable {languages : Languages} {world : World} {mode : Mode} {source : Source} {url : String}
  {pattern : Option String} {given urls : List String}

/-! ## Before the answers -/

theorem log_urlsToAnswer (world : World) (given : List String) :
    log (urlsToAnswer world given) = [] := by
  unfold urlsToAnswer
  split
  · split <;> rfl
  · rfl

theorem isSilent_loadSource (languages : Languages) (world : World) (pattern : Option String) :
    IsSilent (loadSource languages world pattern) := by
  cases pattern with
  | some pattern => exact does_pure _
  | none =>
    exact (isSilent_orFail _ _).bind fun _ => (isSilent_orFail _ _).bind fun _ =>
      (isSilent_debug _).bind fun _ => does_pure _

/-- The configurations that hold in the working directory, and their rules, made ready. -/
structure Loads (languages : Languages) (world : World) (configs : List LoadedConfig)
    (compiled : List CompiledRule) : Prop where
  found : Checked.value
    (discover languages.config world.toSurroundings world.directory) = .ok configs
  ready : Checked.value (compileRules languages.regex (mergeRules configs)) = .ok compiled

theorem value_loadSource_eq_ok_iff :
    value (loadSource languages world none) = .ok source ↔
      ∃ configs compiled, Loads languages world configs compiled ∧ source = .rules compiled := by
  unfold loadSource
  simp only [value_bind, Scan.bind_eq_ok_iff, value_orFail_eq_ok_iff]
  constructor
  · rintro ⟨configs, hfound, compiled, hready, -, -, h⟩
    exact ⟨configs, compiled, ⟨hfound, hready⟩, (Except.ok.inj h).symm⟩
  · rintro ⟨configs, compiled, ⟨hfound, hready⟩, rfl⟩
    exact ⟨configs, hfound, compiled, hready, (), rfl, rfl⟩

/-! ## One answer -/

/-- The pattern for a URL. -/
def Source.patternOf (source : Source) (url : String) : String :=
  source.pattern (source.rule? url)

/-- An answer goes well: in strict mode, the pattern must fit. -/
def answersWell (mode : Mode) (url pattern : String) : Bool :=
  match mode with
  | .strict => (tryTransform url.toList pattern.toList).value.isOk
  | _ => true

theorem value_printStrictly (url pattern : String) :
    value (printStrictly url pattern) = .ok (answersWell .strict url pattern) := by
  rw [printStrictly, answersWell, value_bind_of_ok (value_logged _)]
  cases (tryTransform url.toList pattern.toList).value <;> rfl

/-- Nothing but a bad pattern can keep tokens from being printed. -/
theorem value_printTokens {pattern : String} (h : IsReadable pattern) :
    value (printTokens url pattern) = .ok () := by
  obtain ⟨rules, hrules⟩ := h
  have hread : (patternTokens pattern.toList).value = .ok rules := by
    rw [patternTokens, hrules]
    rfl
  rw [printTokens, printLine, value_bind_of_ok (value_act _), value_bind_of_ok (value_logged _),
    value_bind_of_ok (value_act _)]
  split
  · rw [value_bind_of_ok (value_logged _), hread]
    rfl
  · rfl

/-- An answer, once the rule for the URL is known. -/
def answerWith (mode : Mode) (url pattern : String) (rule : Option CompiledRule) : Session Bool :=
  match mode with
  | .plain => do printPlainly url pattern rule; pure true
  | .strict => printStrictly url pattern
  | .tokens => do printTokens url pattern; pure true

theorem value_answerWith {pattern : String} (h : IsReadable pattern)
    (rule : Option CompiledRule) :
    value (answerWith mode url pattern rule) = .ok (answersWell mode url pattern) := by
  cases mode with
  | plain => rfl
  | strict => exact value_printStrictly url pattern
  | tokens =>
    rw [answerWith, value_bind_of_ok (value_printTokens h)]
    rfl

/-- An answer tells which rule it uses before anything else. -/
theorem exists_answerUrl_eq (mode : Mode) (source : Source) (url : String) :
    ∃ notice : Session Unit, IsSilent notice ∧ value notice = .ok () ∧
      answerUrl mode source url = notice >>= fun _ =>
        answerWith mode url (source.patternOf url) (source.rule? url) := by
  unfold answerUrl Source.patternOf
  cases source.rule? url with
  | none => exact ⟨pure (), does_pure (), rfl, by cases mode <;> rfl⟩
  | some rule => exact ⟨debug _, isSilent_debug _, rfl, by cases mode <;> rfl⟩

theorem value_answerUrl (h : IsReadable (source.patternOf url)) :
    value (answerUrl mode source url) = .ok (answersWell mode url (source.patternOf url)) := by
  obtain ⟨notice, -, hvalue, he⟩ := exists_answerUrl_eq mode source url
  rw [he, value_bind_of_ok hvalue, value_answerWith h]

/-- A rule that brings the tokens of its pattern prints what the pattern makes of a URL. -/
theorem shown_printPlainly {pattern : String} {rule : Option CompiledRule}
    (h : ∀ c ∈ rule, Pattern.read pattern.toList = .ok c.tokens) :
    shown (printPlainly url pattern rule) =
      [.print (String.ofList (transform url.toList pattern.toList).value ++ "\n")] := by
  unfold printPlainly
  rw [shown_bind_of_ok (value_logged _), (isSilent_logged _).shown_eq, List.nil_append]
  cases rule with
  | none => rfl
  | some c =>
    rw [(transform_of_read_ok url.toList (h c rfl)).1]
    rfl

/-- An answer shows the same whether a rule brings the tokens of the pattern or not. -/
theorem shown_answerWith {pattern : String} {rule : Option CompiledRule}
    (h : ∀ c ∈ rule, Pattern.read pattern.toList = .ok c.tokens) :
    shown (answerWith mode url pattern rule) = shown (answerWith mode url pattern none) := by
  cases mode with
  | strict | tokens => rfl
  | plain =>
    have hvalue : ∀ rule, value (printPlainly url pattern rule) = .ok () := fun _ => rfl
    have hnone : ∀ c ∈ (none : Option CompiledRule),
        Pattern.read pattern.toList = .ok c.tokens := by simp
    rw [answerWith, answerWith, shown_bind_of_ok (hvalue _), shown_bind_of_ok (hvalue _),
      shown_printPlainly h, shown_printPlainly hnone]

/-- Rules show what their pattern shows. -/
theorem shown_answerUrl (mode : Mode)
    (h : ∀ c ∈ source.rule? url, Pattern.read (source.patternOf url).toList = .ok c.tokens) :
    shown (answerUrl mode source url) =
      shown (answerUrl mode (.fixed (source.patternOf url)) url) := by
  have hnotice : ∀ source : Source, shown (answerUrl mode source url) =
      shown (answerWith mode url (source.patternOf url) (source.rule? url)) := by
    intro source
    obtain ⟨notice, hsilent, hvalue, he⟩ := exists_answerUrl_eq mode source url
    rw [he, shown_bind_of_ok hvalue, hsilent.shown_eq, List.nil_append]
  rw [hnotice, hnotice]
  exact shown_answerWith h

/-! ## All answers -/

theorem value_answerUrls (h : ∀ url ∈ urls, IsReadable (source.patternOf url)) :
    value (answerUrls mode source urls) =
      .ok (urls.all fun url => answersWell mode url (source.patternOf url)) := by
  rw [answerUrls, value_bind_of_ok (value_mapM fun url hurl => value_answerUrl (h url hurl)),
    value_pure, List.all_map]
  rfl

theorem log_answerUrls (h : ∀ url ∈ urls, IsReadable (source.patternOf url)) :
    log (answerUrls mode source urls) =
      urls.flatMap fun url => log (answerUrl mode source url) := by
  have hvalue : ∀ url ∈ urls, value (answerUrl mode source url) =
      .ok (answersWell mode url (source.patternOf url)) :=
    fun url hurl => value_answerUrl (h url hurl)
  rw [answerUrls, log_bind_of_ok (value_mapM hvalue), log_mapM hvalue, log_pure, List.append_nil]

/-- A run is the answers in order, behind the records of what it loads. -/
theorem run_answer {arguments : List String} {verbosity : Nat}
    (harguments : languages.arguments arguments = .ok ⟨.answer mode pattern given, verbosity⟩)
    (hurls : value (urlsToAnswer world given) = .ok urls)
    (hsource : value (loadSource languages world pattern) = .ok source)
    (hreadable : ∀ url ∈ urls, IsReadable (source.patternOf url)) :
    run languages world arguments =
      { code := if urls.all fun url => answersWell mode url (source.patternOf url) then 0 else 1
        events := (log (loadSource languages world pattern) ++
          urls.flatMap fun url => log (answerUrl mode source url)).filter
            (·.takesPlace verbosity) } := by
  have hperform : Request.perform languages world (.answer mode pattern given) =
      urlsToAnswer world given >>= fun urls => loadSource languages world pattern >>= fun source =>
        answerUrls mode source urls := rfl
  have hvalue : value (Request.perform languages world (.answer mode pattern given)) =
      .ok (urls.all fun url => answersWell mode url (source.patternOf url)) := by
    rw [hperform, value_bind_of_ok hurls, value_bind_of_ok hsource, value_answerUrls hreadable]
  rw [run, harguments]
  refine (outcome_of_ok hvalue verbosity).trans ?_
  rw [hperform, log_bind_of_ok hurls, log_urlsToAnswer, List.nil_append, log_bind_of_ok hsource,
    log_answerUrls hreadable]

/-! ## Configured rules -/

namespace Loads

variable {configs : List LoadedConfig} {compiled : List CompiledRule}
  (h : Loads languages world configs compiled)
include h

theorem value_loadSource : value (loadSource languages world none) = .ok (.rules compiled) :=
  value_loadSource_eq_ok_iff.mpr ⟨configs, compiled, h, rfl⟩

theorem patternOf_eq (url : String) : (Source.rules compiled).patternOf url =
    patternFor languages.regex (mergeRules configs) url :=
  pattern_selectRule h.ready url

theorem readable_patternFor (url : String) :
    IsReadable (patternFor languages.regex (mergeRules configs) url) :=
  UrlTemplate.readable_patternFor (readable_of_discover h.found) url

/-- The patterns of configured rules can be read. -/
theorem readable_patternOf (url : String) : IsReadable ((Source.rules compiled).patternOf url) := by
  rw [h.patternOf_eq]
  exact h.readable_patternFor url

/-- A configured rule brings the tokens of its pattern. -/
theorem read_patternOf (url : String) :
    ∀ c ∈ (Source.rules compiled).rule? url,
      Pattern.read ((Source.rules compiled).patternOf url).toList = .ok c.tokens := by
  intro c hc
  have hselect : selectRule compiled url.toList = some c := hc
  have hpattern : (Source.rules compiled).patternOf url = c.rule.pattern := by
    simp only [Source.patternOf, Source.rule?, hselect]
    rfl
  rw [hpattern]
  exact tokens_of_compileRules h.ready c (List.mem_of_find?_eq_some hselect)

/-- A run with configured rules is the answers in order. -/
theorem run_answer {arguments : List String} {verbosity : Nat}
    (hurls : value (urlsToAnswer world given) = .ok urls)
    (harguments : languages.arguments arguments = .ok ⟨.answer mode none given, verbosity⟩) :
    run languages world arguments =
      { code := if urls.all fun url =>
          answersWell mode url (patternFor languages.regex (mergeRules configs) url) then 0 else 1
        events := (log (loadSource languages world none) ++
          urls.flatMap fun url => log (answerUrl mode (.rules compiled) url)).filter
            (·.takesPlace verbosity) } := by
  rw [CommandLine.run_answer harguments hurls h.value_loadSource fun url _ =>
    h.readable_patternOf url]
  simp only [h.patternOf_eq]

end Loads

end UrlTemplate.CommandLine
