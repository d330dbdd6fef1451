import Mathlib.Data.List.Nodup
import UrlTemplate.Config.Discovery
import UrlTemplate.Proofs.Config.Checked

/-!
# Which configuration files count

The search for configuration files comes to a list of files that are loaded in order: those on
the way from a directory upwards, to the first that says it is the root, and then the user's own
file, unless it is on the list already or one of these turns it off. What any other file says
does not matter, and the search fails as the first file on the list that cannot be loaded.

* `loadAt`: what loading a file comes to.
* `configFiles`: the files that count, the most important one first.
* `value_discover`: the search loads the files that count.
* `nodup_configFiles`: no file counts twice.
* `discover_congr`: the search looks into no other file.
* `discover_loads_configFiles`: what the search gives, how it fails, and what matters to it.
-/

namespace UrlTemplate

open Checked (bind_congr_of_value value value_bind value_lift value_pure value_throw)

/-! ## Files -/

/-- Something is there that can be opened, though perhaps not read. -/
def Entry.isFile : Entry → Bool
  | missing | directory => false
  | file _ | unreadable _ => true

theorem Entry.isSome_text? (entry : Entry) : entry.text?.isSome = entry.isFile := by
  cases entry with
  | missing => rfl
  | directory => rfl
  | file content =>
    simp only [text?]
    cases String.fromUTF8? content <;> rfl
  | unreadable cause => rfl

namespace Discovery

variable (decode : String → Except String Config) {tree other : Tree} {path : Path}

/-- What loading a file comes to: it is read, decoded and checked. A path without a file cannot
be read. -/
def loadAt (tree : Tree) (path : Path) : Except ConfigError LoadedConfig := do
  let text ← ((tree path).text?.getD (.error "no file")).mapError (.unreadable path.text)
  let config ← (decode text).mapError (.malformed path.text)
  value (config.check path.text)
  pure { path, config }

/-- What a file says, if it can be read and decoded. -/
def configAt (tree : Tree) (path : Path) : Option Config :=
  match (tree path).text? with
  | some (.ok text) => (decode text).toOption
  | _ => none

/-- A file says that it is the root. -/
def isRoot (tree : Tree) (path : Path) : Bool := (configAt decode tree path).any (·.root)

/-- A file names a variable that turns the user's own file off. -/
def disables (s : Surroundings) (path : Path) : Bool :=
  (configAt decode s.tree path).any fun config =>
    config.disablingVariable.any fun name => (s.environment name).any isTruthy

/-- The files among some paths, up to the first that says it is the root. -/
def upToRoot (tree : Tree) (paths : List Path) : List Path :=
  let files := paths.filter fun path => (tree path).isFile
  files.take (files.findIdx (isRoot decode tree) + 1)

/-- The files that count on the way from a directory upwards. -/
def walked (s : Surroundings) (start : Path) : List Path :=
  upToRoot decode s.tree (start.upwards.map (·.entry configFileName))

/-- The user's own file, if it counts behind others. -/
def userFiles (s : Surroundings) (files : List Path) : List Path :=
  s.userPath?.toList.filter fun path =>
    (s.tree path).isFile ∧ path ∉ files ∧ ∀ file ∈ files, ¬ disables decode s file

/-- The files that count, the most important one first. -/
def configFiles (s : Surroundings) (start : Path) : List Path :=
  walked decode s start ++ userFiles decode s (walked decode s start)

/-! ## Loading a file -/

variable {decode}

/-- A file that can be read is decoded and checked. -/
theorem loadAt_of_text {text : String} (h : (tree path).text? = some (.ok text)) :
    loadAt decode tree path =
      LoadedConfig.mk path <$> value (Config.load decode path.text text) := by
  have hread : loadAt decode tree path =
      (decode text).mapError (.malformed path.text) >>= fun config =>
        value (config.check path.text) >>= fun _ => pure (LoadedConfig.mk path config) := by
    rw [loadAt, h]
    rfl
  rw [hread, Config.load]
  cases decode text with
  | error cause =>
    rw [value_throw]
    rfl
  | ok config =>
    simp only [value_bind, value_pure]
    change (value (config.check path.text) >>= fun _ => pure (LoadedConfig.mk path config)) = _
    cases value (config.check path.text) <;> rfl

theorem loadFile?_of_not_isFile (notice : String) (h : (tree path).isFile = false) :
    loadFile? decode tree notice path = pure none := by
  rw [← Entry.isSome_text?, Option.isSome_eq_false_iff, Option.isNone_iff_eq_none] at h
  rw [loadFile?, h]

theorem loadFile?_congr (notice : String) (h : other path = tree path) :
    loadFile? decode other notice path = loadFile? decode tree notice path := by
  rw [loadFile?, loadFile?, h]

theorem value_loadFile? (notice : String) (h : (tree path).isFile) :
    value (loadFile? decode tree notice path) = some <$> loadAt decode tree path := by
  rw [← Entry.isSome_text?] at h
  obtain ⟨content, h⟩ := Option.isSome_iff_exists.mp h
  cases content with
  | error cause =>
    rw [loadFile?, loadAt, h]
    rfl
  | ok text =>
    rw [loadAt_of_text h, loadFile?, h]
    simp only [value_bind, value_lift, value_pure]
    cases value (Config.load decode path.text text) <;> rfl

theorem loadAt_eq_ok {loaded : LoadedConfig} (h : loadAt decode tree path = .ok loaded) :
    loaded.path = path ∧ configAt decode tree path = some loaded.config := by
  unfold loadAt at h
  obtain ⟨text, htext, h⟩ := Scan.bind_eq_ok_iff.mp h
  obtain ⟨config, hconfig, h⟩ := Scan.bind_eq_ok_iff.mp h
  obtain ⟨-, -, h⟩ := Scan.bind_eq_ok_iff.mp h
  cases h
  have hread : (tree path).text?.getD (.error "no file") = .ok text := mapError_eq_ok_iff.mp htext
  have hdecode : decode text = .ok config := mapError_eq_ok_iff.mp hconfig
  refine ⟨rfl, ?_⟩
  unfold configAt
  cases hcontent : (tree path).text? with
  | none =>
    rw [hcontent] at hread
    cases hread
  | some content =>
    rw [hcontent, Option.getD_some] at hread
    simp only [hread, hdecode]
    rfl

/-! ## The way upwards -/

theorem upToRoot_cons_of_not_isFile (paths : List Path) (h : (tree path).isFile = false) :
    upToRoot decode tree (path :: paths) = upToRoot decode tree paths := by
  simp [upToRoot, h]

theorem upToRoot_cons_of_isFile (paths : List Path) (h : (tree path).isFile) :
    upToRoot decode tree (path :: paths) =
      path :: if isRoot decode tree path then [] else upToRoot decode tree paths := by
  cases hroot : isRoot decode tree path <;> simp [upToRoot, h, List.findIdx_cons, hroot]

/-- Whether a file that can be loaded is the root is what it says. -/
theorem isRoot_of_loadAt {loaded : LoadedConfig} (h : loadAt decode tree path = .ok loaded) :
    isRoot decode tree path = loaded.config.root := by
  rw [isRoot, (loadAt_eq_ok h).2, Option.any_some]

/-- On the way upwards, the files up to the root are loaded in order. -/
theorem value_loadUntilRoot (directories : List Path) :
    value (loadUntilRoot decode tree directories) =
      (upToRoot decode tree (directories.map (·.entry configFileName))).mapM
        (loadAt decode tree) := by
  induction directories with
  | nil => rfl
  | cons directory more ih =>
    rw [List.map_cons]
    generalize hpath : directory.entry configFileName = path
    rw [loadUntilRoot, hpath]
    cases hfile : (tree path).isFile with
    | false =>
      rw [loadFile?_of_not_isFile _ hfile, pure_bind, upToRoot_cons_of_not_isFile _ hfile]
      exact ih
    | true =>
      rw [value_bind, value_loadFile? _ hfile, upToRoot_cons_of_isFile _ hfile, List.mapM_cons]
      cases hload : loadAt decode tree path with
      | error e => rfl
      | ok loaded =>
        rw [isRoot_of_loadAt hload]
        change value (if loaded.config.root then pure [loaded] else _) = _
        cases loaded.config.root with
        | true => rfl
        | false =>
          rw [if_neg Bool.false_ne_true, if_neg Bool.false_ne_true, value_bind, ih]
          rfl

/-! ## The user's own file -/

variable {s : Surroundings} {files : List Path} {found : List LoadedConfig}

/-- Files that have been loaded are known by their paths. -/
theorem loaded_of_mapM (h : files.mapM (loadAt decode tree) = .ok found) :
    files = found.map (·.path) ∧ ∀ loaded ∈ found, loadAt decode tree loaded.path = .ok loaded := by
  replace h := mapM_eq_ok_iff.mp h
  induction h with
  | nil => exact ⟨rfl, by simp⟩
  | @cons path loaded files found hload _ ih =>
    have hpath := (loadAt_eq_ok hload).1
    refine ⟨?_, List.forall_mem_cons.mpr ⟨?_, ih.2⟩⟩
    · rw [List.map_cons, hpath, ← ih.1]
    · rw [hpath]
      exact hload

/-- A file turns the user's own file off by what has been loaded from it. -/
theorem disabledBy?_isSome {loaded : LoadedConfig}
    (h : loadAt decode s.tree loaded.path = .ok loaded) :
    (loaded.disabledBy? s).isSome = disables decode s loaded.path := by
  rw [disables, (loadAt_eq_ok h).2, LoadedConfig.disabledBy?, Option.any_some]
  cases loaded.config.disablingVariable with
  | none => rfl
  | some name => cases hname : (s.environment name).any isTruthy <;> simp [hname]

/-- None of the files that have been loaded turns the user's own file off. -/
theorem findSome?_disabledBy?_eq_none_iff
    (h : ∀ loaded ∈ found, loadAt decode s.tree loaded.path = .ok loaded) :
    (found.findSome? fun loaded => (loaded.disabledBy? s).map (loaded.path, ·)) = none ↔
      ∀ file ∈ found.map (·.path), ¬ disables decode s file := by
  rw [List.findSome?_eq_none_iff, List.forall_mem_map]
  refine forall₂_congr fun loaded hloaded => ?_
  rw [Option.map_eq_none_iff, ← disabledBy?_isSome (h loaded hloaded),
    Option.not_isSome_iff_eq_none]

theorem any_path_eq (found : List LoadedConfig) (path : Path) :
    (found.any fun loaded => loaded.path = path) = decide (path ∈ found.map (·.path)) := by
  rw [Bool.eq_iff_iff, List.any_eq_true, decide_eq_true_iff, List.mem_map]
  simp

theorem mem_userFiles : path ∈ userFiles decode s files ↔
    s.userPath? = some path ∧ (s.tree path).isFile ∧ path ∉ files ∧
      ∀ file ∈ files, ¬ disables decode s file := by
  rw [userFiles, List.mem_filter, Option.mem_toList, decide_eq_true_iff]

theorem userFiles_eq_nil (h : ∀ path, s.userPath? = some path → (s.tree path).isFile →
    path ∉ files → ¬ ∀ file ∈ files, ¬ disables decode s file) :
    userFiles decode s files = [] := by
  refine List.eq_nil_iff_forall_not_mem.mpr fun path hpath => ?_
  obtain ⟨hhome, hfile, hnew, hon⟩ := mem_userFiles.mp hpath
  exact h path hhome hfile hnew hon

theorem userFiles_eq_singleton (hhome : s.userPath? = some path) (hfile : (s.tree path).isFile)
    (hnew : path ∉ files) (hon : ∀ file ∈ files, ¬ disables decode s file) :
    userFiles decode s files = [path] := by
  rw [userFiles, hhome]
  refine List.filter_eq_self.mpr fun other hother => ?_
  rw [List.mem_singleton.mp hother]
  exact decide_eq_true ⟨hfile, hnew, hon⟩

/-- Behind files that have been loaded, the user's own file is loaded if it counts, and no file
is looked into if it does not. -/
theorem loadUser?_cases (hload : files.mapM (loadAt decode s.tree) = .ok found) :
    (∃ path, userFiles decode s files = [path] ∧ (s.tree path).isFile ∧
      ∀ other, loadUser? decode { s with tree := other } found =
        loadFile? decode other "loading user config " path) ∨
    userFiles decode s files = [] ∧ ∃ skipped, value skipped = .ok none ∧
      ∀ other : Tree, (∀ path, (other path).isFile = (s.tree path).isFile) →
        loadUser? decode { s with tree := other } found = skipped := by
  obtain ⟨rfl, hfound⟩ := loaded_of_mapM hload
  have hdisabled := findSome?_disabledBy?_eq_none_iff hfound
  have hvariable : ∀ (other : Tree) (loaded : LoadedConfig),
      loaded.disabledBy? { s with tree := other } = loaded.disabledBy? s := fun _ _ => rfl
  have huser : ∀ other, Surroundings.userPath? { s with tree := other } = s.userPath? :=
    fun _ => rfl
  simp only [loadUser?, hvariable, huser, any_path_eq]
  cases hoff : found.findSome? fun loaded => (loaded.disabledBy? s).map (loaded.path, ·) with
  | some off =>
    refine .inr ⟨userFiles_eq_nil fun path _ _ _ => ?_, _, rfl, fun other _ => rfl⟩
    rw [← hdisabled, hoff]
    exact Option.some_ne_none off
  | none =>
    cases hhome : s.userPath? with
    | none =>
      refine .inr ⟨userFiles_eq_nil fun path hpath => ?_, _, rfl, fun other _ => rfl⟩
      cases hhome.symm.trans hpath
    | some path =>
      by_cases hmem : path ∈ found.map (·.path)
      · refine .inr ⟨userFiles_eq_nil fun other hother _ hnew => ?_, pure none, rfl, ?_⟩
        · cases hhome.symm.trans hother
          exact absurd hmem hnew
        · exact fun other _ => if_pos (decide_eq_true hmem)
      · have hskip : ∀ other : Tree, (if decide (path ∈ found.map (·.path)) then pure none else
            loadFile? decode other "loading user config " path) =
            loadFile? decode other "loading user config " path :=
          fun other => if_neg (by simpa using hmem)
        simp only [hskip]
        cases hfile : (s.tree path).isFile with
        | false =>
          refine .inr ⟨userFiles_eq_nil fun other hother hpath => ?_, pure none, rfl, ?_⟩
          · cases hhome.symm.trans hother
            exact absurd hpath (Bool.eq_false_iff.mp hfile)
          · exact fun other hother => loadFile?_of_not_isFile _ ((hother path).trans hfile)
        | true =>
          exact .inl ⟨path, userFiles_eq_singleton hhome hfile hmem (hdisabled.mp hoff), hfile,
            fun other => rfl⟩

/-- Behind files that have been loaded, the user's own file is loaded if it counts. -/
theorem value_loadUser? (hload : files.mapM (loadAt decode s.tree) = .ok found) :
    Option.toList <$> value (loadUser? decode s found) =
      (userFiles decode s files).mapM (loadAt decode s.tree) := by
  rcases loadUser?_cases hload with ⟨path, huser, hfile, hrun⟩ | ⟨huser, skipped, hvalue, hrun⟩
  · rw [huser, hrun s.tree, value_loadFile? _ hfile, List.mapM_cons]
    cases loadAt decode s.tree path <;> rfl
  · rw [huser, hrun s.tree fun _ => rfl, hvalue]
    rfl

/-- The search loads the files that count, in order. -/
theorem value_discover (s : Surroundings) (start : Path) :
    value (discover decode s start) =
      (configFiles decode s start).mapM (loadAt decode s.tree) := by
  rw [discover, configFiles, List.mapM_append, value_bind, value_loadUntilRoot]
  change (walked decode s start).mapM _ >>= _ = _
  cases hwalked : (walked decode s start).mapM (loadAt decode s.tree) with
  | error e => rfl
  | ok found =>
    rw [← value_loadUser? hwalked]
    change value (loadUser? decode s found >>= fun user => pure (found ++ user.toList)) = _
    rw [value_bind]
    cases value (loadUser? decode s found) <;> rfl

/-! ## No file counts twice -/

theorem length_le_of_mem_upwardsFrom {names : List String} (h : path ∈ Path.upwardsFrom names) :
    path.names.length ≤ names.length := by
  induction names with
  | nil =>
    obtain rfl := List.mem_singleton.mp h
    exact Nat.le_refl _
  | cons name names ih =>
    rcases List.mem_cons.mp h with rfl | h
    · exact Nat.le_refl _
    · exact Nat.le_succ_of_le (ih h)

theorem nodup_upwardsFrom (names : List String) : (Path.upwardsFrom names).Nodup := by
  induction names with
  | nil => exact List.nodup_singleton _
  | cons name names ih =>
    refine List.nodup_cons.mpr ⟨fun hmem => ?_, ih⟩
    have hlength := length_le_of_mem_upwardsFrom hmem
    simp only [List.length_cons] at hlength
    omega

theorem upToRoot_sublist (tree : Tree) (paths : List Path) :
    (upToRoot decode tree paths).Sublist paths :=
  (List.take_sublist _ _).trans List.filter_sublist

/-- No file counts twice. -/
theorem nodup_configFiles (s : Surroundings) (start : Path) :
    (configFiles decode s start).Nodup := by
  have hentry : Function.Injective fun directory : Path => directory.entry configFileName :=
    fun _ _ h => Path.entry_inj h
  have hwalked : (walked decode s start).Nodup :=
    ((nodup_upwardsFrom start.names).map hentry).sublist (upToRoot_sublist _ _)
  have huser : s.userPath?.toList.Nodup := by
    cases s.userPath? with
    | none => exact List.nodup_nil
    | some path => exact List.nodup_singleton path
  refine List.nodup_append.mpr ⟨hwalked, huser.filter _, ?_⟩
  rintro path hpath other hother rfl
  obtain ⟨-, -, hnew, -⟩ := mem_userFiles.mp hother
  exact hnew hpath

/-! ## Other files do not matter -/

/-- On the way upwards, no file behind the root is looked into. -/
theorem loadUntilRoot_congr (hfile : ∀ path, (other path).isFile = (tree path).isFile)
    (directories : List Path)
    (h : ∀ path ∈ upToRoot decode tree (directories.map (·.entry configFileName)),
      other path = tree path) :
    loadUntilRoot decode other directories = loadUntilRoot decode tree directories := by
  induction directories with
  | nil => rfl
  | cons directory more ih =>
    rw [List.map_cons] at h
    rw [loadUntilRoot, loadUntilRoot]
    generalize directory.entry configFileName = path at h ⊢
    cases hpath : (tree path).isFile with
    | false =>
      rw [upToRoot_cons_of_not_isFile _ hpath] at h
      rw [loadFile?_of_not_isFile _ hpath, loadFile?_of_not_isFile _ ((hfile path).trans hpath),
        pure_bind, pure_bind]
      exact ih h
    | true =>
      rw [upToRoot_cons_of_isFile _ hpath] at h
      obtain ⟨hsame, hrest⟩ := List.forall_mem_cons.mp h
      rw [loadFile?_congr _ hsame]
      refine bind_congr_of_value fun loaded? hvalue => ?_
      rw [value_loadFile? _ hpath] at hvalue
      cases hload : loadAt decode tree path with
      | error e =>
        rw [hload] at hvalue
        cases hvalue
      | ok loaded =>
        rw [hload] at hvalue
        cases hvalue
        rw [isRoot_of_loadAt hload] at hrest
        change (if loaded.config.root then pure [loaded] else _) =
          (if loaded.config.root then pure [loaded] else _)
        cases hroot : loaded.config.root with
        | true => rfl
        | false =>
          rw [hroot, if_neg Bool.false_ne_true] at hrest
          rw [ih hrest]

/-- Behind files that have been loaded, only the user's own file is looked into. -/
theorem loadUser?_congr (hfile : ∀ path, (other path).isFile = (s.tree path).isFile)
    (hload : files.mapM (loadAt decode s.tree) = .ok found)
    (h : ∀ path ∈ userFiles decode s files, other path = s.tree path) :
    loadUser? decode { s with tree := other } found = loadUser? decode s found := by
  rcases loadUser?_cases hload with ⟨path, huser, -, hrun⟩ | ⟨-, skipped, -, hrun⟩
  · rw [huser] at h
    rw [hrun other, hrun s.tree, loadFile?_congr _ (h path List.mem_cons_self)]
  · rw [hrun other hfile, hrun s.tree fun _ => rfl]

/-- The search looks into no other files than those that count: it is the same, log and all, with
the same files, if these say the same. -/
theorem discover_congr (start : Path)
    (hfile : ∀ path, (other path).isFile = (s.tree path).isFile)
    (h : ∀ path ∈ configFiles decode s start, other path = s.tree path) :
    discover decode { s with tree := other } start = discover decode s start := by
  obtain ⟨hwalked, huser⟩ := List.forall_mem_append.mp h
  rw [discover, discover, loadUntilRoot_congr hfile _ hwalked]
  refine bind_congr_of_value fun found hfound => ?_
  rw [value_loadUntilRoot] at hfound
  rw [loadUser?_congr hfile hfound huser]

end Discovery

open Discovery

/-- The search gives what loading the files that count gives, with each of them once, and fails
as the first of them that cannot be loaded. What any other file says does not matter. -/
theorem discover_loads_configFiles (decode : String → Except String Config) (s : Surroundings)
    (start : Path) :
    (∀ configs, value (discover decode s start) = .ok configs ↔
      List.Forall₂ (fun path loaded => loadAt decode s.tree path = .ok loaded)
        (configFiles decode s start) configs) ∧
    (∀ configs, value (discover decode s start) = .ok configs →
      configs.map (·.path) = configFiles decode s start ∧ (configs.map (·.path)).Nodup) ∧
    (∀ e, value (discover decode s start) = .error e ↔
      ∃ before path after, configFiles decode s start = before ++ path :: after ∧
        (∀ p ∈ before, ∃ loaded, loadAt decode s.tree p = .ok loaded) ∧
        loadAt decode s.tree path = .error e) ∧
    ∀ other : Tree, (∀ path, (other path).isFile = (s.tree path).isFile) →
      (∀ path ∈ configFiles decode s start, other path = s.tree path) →
      discover decode { s with tree := other } start = discover decode s start := by
  refine ⟨?_, ?_, ?_, ?_⟩
  · intro configs
    rw [value_discover, mapM_eq_ok_iff]
  · intro configs h
    rw [value_discover] at h
    have hpaths := (loaded_of_mapM h).1
    exact ⟨hpaths.symm, hpaths ▸ nodup_configFiles s start⟩
  · intro e
    rw [value_discover, mapM_eq_error_iff]
  · intro other hfile h
    exact discover_congr start hfile h

/-- Two files up to the root and the user's own one, which the first turns off if the variable it
names is set to something truthy. The file above the root cannot be read, which matters only for
a search that gets there. -/
theorem discover_loads_configFiles_rooted :
    let near : Path := ⟨[configFileName, "b", "a"]⟩
    let root : Path := ⟨[configFileName, "a"]⟩
    let above : Path := ⟨[configFileName]⟩
    let user : Path := ⟨[configFileName, "u"]⟩
    let decode : String → Except String Config := fun text =>
      if text = "near" then .ok { disablingVariable := some "CI" }
      else .ok { root := text = "root" }
    let tree : Tree := fun path =>
      if path = near then .file "near".toUTF8
      else if path = root then .file "root".toUTF8
      else if path = above then .unreadable "denied"
      else if path = user then .file "user".toUTF8
      else .missing
    let other : Tree := fun path => if path = above then .file "root".toUTF8 else tree path
    let start : Path := ⟨["c", "b", "a"]⟩
    let walked : List LoadedConfig :=
      [⟨near, { disablingVariable := some "CI" }⟩, ⟨root, { root := true }⟩]
    let without : Surroundings := { tree, home := some ⟨["u"]⟩, environment := fun _ => none }
    let set : Surroundings := { without with environment := fun _ => some "Yes" }
    value (discover decode without start) = .ok (walked ++ [⟨user, {}⟩]) ∧
      value (discover decode set start) = .ok walked ∧
      discover decode { without with tree := other } start = discover decode without start ∧
      value (discover decode without ⟨[]⟩) = .error (.unreadable "/.urlpat.toml" "denied") := by
  intro near root above user decode tree other start walked without set
  have hall : configFiles decode without start = [near, root, user] := by decide +kernel
  have hset : configFiles decode set start = [near, root] := by decide +kernel
  have habove : configFiles decode without ⟨[]⟩ = [above, user] := by decide +kernel
  have hnear : loadAt decode tree near = .ok ⟨near, { disablingVariable := some "CI" }⟩ := rfl
  have hroot : loadAt decode tree root = .ok ⟨root, { root := true }⟩ := rfl
  have huser : loadAt decode tree user = .ok ⟨user, {}⟩ := rfl
  have hfails : loadAt decode tree above = .error (.unreadable "/.urlpat.toml" "denied") := rfl
  refine ⟨?_, ?_, ?_, ?_⟩
  · refine ((discover_loads_configFiles decode without start).1 _).mpr ?_
    rw [hall]
    exact .cons hnear (.cons hroot (.cons huser .nil))
  · refine ((discover_loads_configFiles decode set start).1 _).mpr ?_
    rw [hset]
    exact .cons hnear (.cons hroot .nil)
  · refine (discover_loads_configFiles decode without start).2.2.2 other ?_ ?_
    · intro path
      by_cases hpath : path = above
      · rw [hpath]
        rfl
      · simp [other, without, hpath]
    · intro path hpath
      have hne : path ≠ above := by
        rintro rfl
        rw [hall] at hpath
        exact absurd hpath (by decide)
      exact if_neg hne
  · refine ((discover_loads_configFiles decode without ⟨[]⟩).2.2.1 _).mpr ?_
    exact ⟨[], above, [user], habove, by simp, hfails⟩

end UrlTemplate
