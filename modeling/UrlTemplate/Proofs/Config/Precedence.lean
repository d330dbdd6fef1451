import UrlTemplate.Proofs.Config.Compiled

/-!
# More important configurations come first

The rules of a list of configurations stand behind each other, those of the most important one
first. A less important configuration therefore decides only about URLs that no rule before it is
for.

* `selectRule_append`: of two lists of rules, the second is for what the first leaves.
* `compileRules_append`: what is ready in a list was made ready in its parts.
* `IsFirstFor`: the rule that decides about a URL, and the file that it stands in.
* `selectRule_eq_some_iff`: rules that are ready select the rule that decides, from its file.
* `Padded`: a list of configurations with others among them that have no rules.
* `selectRule_merge`: precedence between configurations.
-/

namespace UrlTemplate

open Checked (value)

variable {regex : String → Except String UrlTest} {configs padded : List LoadedConfig}
  {near far all : List CompiledRule} {url : List Char} {c : CompiledRule}

/-! ## One list behind another -/

theorem mergeRules_append (cs ds : List LoadedConfig) :
    mergeRules (cs ++ ds) = mergeRules cs ++ mergeRules ds := List.flatMap_append

theorem selectRule_append (near far : List CompiledRule) (url : List Char) :
    selectRule (near ++ far) url = (selectRule near url).or (selectRule far url) :=
  List.find?_append

theorem compileRules_append {rules more : List SourcedRule}
    (hnear : value (compileRules regex rules) = .ok near)
    (hfar : value (compileRules regex more) = .ok far) :
    value (compileRules regex (rules ++ more)) = .ok (near ++ far) :=
  compileRules_eq_ok_iff.mpr
    (List.rel_append (compileRules_eq_ok_iff.mp hnear) (compileRules_eq_ok_iff.mp hfar))

/-! ## The rule that decides -/

/-- A rule of a file decides about a URL: it is for the URL, and neither a rule of a file before
its own is nor one before it in its own file. -/
def IsFirstFor (regex : String → Except String UrlTest) (configs : List LoadedConfig)
    (url : List Char) (loaded : LoadedConfig) (rule : Rule) : Prop :=
  ∃ pre post before after,
    configs = pre ++ loaded :: post ∧ loaded.config.rules = before ++ rule :: after ∧
      (∀ r ∈ mergeRules pre, ¬ r.isFor regex url) ∧
      (∀ r ∈ before, ¬ SourcedRule.isFor regex ⟨r, loaded.path.text⟩ url) ∧
      SourcedRule.isFor regex ⟨rule, loaded.path.text⟩ url

theorem find?_mergeRules_eq_some_iff {r : SourcedRule} :
    (mergeRules configs).find? (fun r => r.isFor regex url) = some r ↔
      ∃ loaded rule, IsFirstFor regex configs url loaded rule ∧ r = ⟨rule, loaded.path.text⟩ := by
  have hpre : ∀ pre : List LoadedConfig,
      (∀ file ∈ pre, (file.config.rules.map fun rule => ⟨rule, file.path.text⟩).find?
        (fun r : SourcedRule => r.isFor regex url) = none) ↔
      ∀ r ∈ mergeRules pre, ¬ r.isFor regex url := by
    intro pre
    rw [← List.findSome?_eq_none_iff, ← List.find?_flatMap]
    exact List.find?_eq_none
  rw [mergeRules, List.find?_flatMap, List.findSome?_eq_some_iff]
  simp only [hpre]
  simp only [List.find?_map, Option.map_eq_some_iff, List.find?_eq_some_iff_append]
  constructor
  · rintro ⟨pre, loaded, post, hconfigs, ⟨rule, ⟨hrule, before, after, hrules, hbefore⟩, rfl⟩, h⟩
    exact ⟨loaded, rule, ⟨pre, post, before, after, hconfigs, hrules, h,
      fun r hr => by simpa using hbefore r hr, hrule⟩, rfl⟩
  · rintro ⟨loaded, rule, ⟨pre, post, before, after, hconfigs, hrules, h, hbefore, hrule⟩, rfl⟩
    exact ⟨pre, loaded, post, hconfigs, ⟨rule, ⟨hrule, before, after, hrules,
      fun r hr => by simpa using hbefore r hr⟩, rfl⟩, h⟩

/-- Rules that are ready select the rule that decides about a URL, as it stands in its file. -/
theorem selectRule_eq_some_iff (h : value (compileRules regex (mergeRules configs)) = .ok all) :
    selectRule all url = some c ↔ ∃ loaded rule, IsFirstFor regex configs url loaded rule ∧
      value (SourcedRule.compile regex ⟨rule, loaded.path.text⟩) = .ok c := by
  have htoOption : ∀ x : Except ConfigError CompiledRule, x.toOption = some c ↔ x = .ok c := by
    rintro (e | d) <;> simp [Except.toOption]
  rw [selectRule_eq h, Option.bind_eq_some_iff]
  simp only [find?_mergeRules_eq_some_iff, htoOption]
  constructor
  · rintro ⟨_, ⟨loaded, rule, hfirst, rfl⟩, hc⟩
    exact ⟨loaded, rule, hfirst, hc⟩
  · rintro ⟨loaded, rule, hfirst, hc⟩
    exact ⟨_, ⟨loaded, rule, hfirst, rfl⟩, hc⟩

/-! ## Configurations without rules -/

/-- A list of configurations with others put among them that have no rules. -/
inductive Padded : List LoadedConfig → List LoadedConfig → Prop
  | nil : Padded [] []
  | keep (loaded : LoadedConfig) {configs padded} :
      Padded configs padded → Padded (loaded :: configs) (loaded :: padded)
  | insert {loaded : LoadedConfig} {configs padded} (h : loaded.config.rules = []) :
      Padded configs padded → Padded configs (loaded :: padded)

theorem Padded.mergeRules_eq (h : Padded configs padded) :
    mergeRules padded = mergeRules configs := by
  induction h with
  | nil => rfl
  | keep loaded _ ih =>
    rw [mergeRules, List.flatMap_cons, mergeRules, List.flatMap_cons]
    exact congrArg _ ih
  | insert hempty _ ih =>
    rw [mergeRules, List.flatMap_cons, hempty]
    exact ih

/-! ## Precedence -/

/-- Less important configurations never override more important ones: with the former behind the
latter, a URL gets the rule that it gets from the latter alone, and that of the former only if
there is none. The rule is the first one for the URL in the first file that has one, and it brings
the path of its file. Configurations without rules make no difference anywhere. -/
theorem selectRule_merge (regex : String → Except String UrlTest) (cs ds : List LoadedConfig) :
    ((∀ r ∈ mergeRules (cs ++ ds), ∃ c, value (r.compile regex) = .ok c) →
      ∃ near far all,
        value (compileRules regex (mergeRules cs)) = .ok near ∧
        value (compileRules regex (mergeRules ds)) = .ok far ∧
        value (compileRules regex (mergeRules (cs ++ ds))) = .ok all ∧
        ∀ url, selectRule all url = (selectRule near url).or (selectRule far url) ∧
          ∀ c, selectRule all url = some c ↔ ∃ loaded rule,
            IsFirstFor regex (cs ++ ds) url loaded rule ∧
              value (SourcedRule.compile regex ⟨rule, loaded.path.text⟩) = .ok c ∧
              c.rule = rule ∧ c.source = loaded.path.text) ∧
    ∀ padded, Padded (cs ++ ds) padded →
      compileRules regex (mergeRules padded) = compileRules regex (mergeRules (cs ++ ds)) := by
  refine ⟨fun hready => ?_, fun padded h => by rw [h.mergeRules_eq]⟩
  rw [mergeRules_append] at hready
  obtain ⟨hcs, hds⟩ := List.forall_mem_append.mp hready
  obtain ⟨near, hnear⟩ := exists_ready_iff.mpr hcs
  obtain ⟨far, hfar⟩ := exists_ready_iff.mpr hds
  have hall : value (compileRules regex (mergeRules (cs ++ ds))) = .ok (near ++ far) := by
    rw [mergeRules_append]
    exact compileRules_append hnear hfar
  refine ⟨near, far, near ++ far, hnear, hfar, hall, fun url =>
    ⟨selectRule_append near far url, fun c => ?_⟩⟩
  rw [selectRule_eq_some_iff hall]
  refine exists_congr fun loaded => exists_congr fun rule => and_congr_right fun _ => ?_
  exact ⟨fun hc => ⟨hc, rule_of_compile hc, source_of_compile hc⟩, And.left⟩

/-- Two files with rules for `/b`, and files without rules among them. -/
theorem selectRule_merge_two :
    let regex : String → Except String UrlTest := fun text => .ok text.toList.isPrefixOf
    let near : Path := ⟨[configFileName, "a"]⟩
    let far : Path := ⟨[configFileName]⟩
    let special : Rule := { urlPattern := "/b", pattern := "x" }
    let general : Rule := { pattern := "y" }
    let nears : List LoadedConfig := [⟨near, { rules := [special] }⟩]
    let fars : List LoadedConfig := [⟨far, { rules := [general, special] }⟩]
    let empty : LoadedConfig := ⟨⟨[]⟩, {}⟩
    ∃ all, value (compileRules regex (mergeRules (empty :: nears ++ empty :: fars))) = .ok all ∧
      (selectRule all "/bc".toList).map (fun c => (c.rule, c.source)) =
        some (special, "/a/.urlpat.toml") ∧
      (selectRule all "/c".toList).map (fun c => (c.rule, c.source)) =
        some (general, "/.urlpat.toml") := by
  intro regex near far special general nears fars empty
  have hx : Pattern.read "x".toList = .ok [.path (.matchSegment ['x']), .finish] := rfl
  have hy : Pattern.read "y".toList = .ok [.path (.matchSegment ['y']), .finish] := rfl
  have hspecial : ∀ source, ∃ c, value (SourcedRule.compile regex ⟨special, source⟩) = .ok c :=
    fun _ => ⟨_, compile_eq_ok_iff.mpr ⟨some "/b".toList.isPrefixOf, _, rfl, hx, rfl⟩⟩
  have hgeneral : ∀ source, ∃ c, value (SourcedRule.compile regex ⟨general, source⟩) = .ok c :=
    fun _ => ⟨_, compile_eq_ok_iff.mpr ⟨none, _, rfl, hy, rfl⟩⟩
  obtain ⟨hready, hpadded⟩ := selectRule_merge regex nears fars
  obtain ⟨_, _, all, -, -, hall, hselect⟩ := hready (List.forall_mem_cons.mpr ⟨hspecial _,
    List.forall_mem_cons.mpr ⟨hgeneral _, List.forall_mem_singleton.mpr (hspecial _)⟩⟩)
  have hpad : Padded (nears ++ fars) (empty :: nears ++ empty :: fars) :=
    .insert rfl (.keep _ (.insert rfl (.keep _ .nil)))
  have hwins : ∀ {url loaded rule}, IsFirstFor regex (nears ++ fars) url loaded rule →
      (∃ c, value (SourcedRule.compile regex ⟨rule, loaded.path.text⟩) = .ok c) →
      (selectRule all url).map (fun c => (c.rule, c.source)) = some (rule, loaded.path.text) := by
    rintro url loaded rule hfirst ⟨c, hc⟩
    obtain ⟨hrule, hsource⟩ := And.intro (rule_of_compile hc) (source_of_compile hc)
    rw [((hselect url).2 c).mpr ⟨loaded, rule, hfirst, hc, hrule, hsource⟩, Option.map_some,
      hrule, hsource]
  have hnear : ∀ r ∈ mergeRules nears, ¬ r.isFor regex "/c".toList :=
    List.forall_mem_singleton.mpr (by decide)
  have hfirst : IsFirstFor regex (nears ++ fars) "/bc".toList ⟨near, { rules := [special] }⟩
      special := ⟨[], fars, [], [], rfl, rfl, nofun, nofun, rfl⟩
  have hlast : IsFirstFor regex (nears ++ fars) "/c".toList
      ⟨far, { rules := [general, special] }⟩ general :=
    ⟨nears, [], [], [special], rfl, rfl, hnear, nofun, rfl⟩
  exact ⟨all, hpadded _ hpad ▸ hall, hwins hfirst (hspecial _), hwins hlast (hgeneral _)⟩

end UrlTemplate
