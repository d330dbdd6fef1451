import Mathlib.Control.Monad.Basic
import UrlTemplate.Proofs.Apply.Mismatch
import UrlTemplate.Proofs.Transform.Normal

/-!
# Recovering from what does not fit

Transforming a URL is trying to, with two ways out. A pattern that cannot be read and a path
that does not fit leave the URL normalized; a fragment that does not fit leaves it as it is,
and that is found out only when the path has been fitted. Whatever fails is logged once.

* `value_transformWith`, `debugs_transformWith`: what transforming with rules gives and logs.
* `tryTransform_eq_ok_iff`, `tryTransform_eq_error_iff`: when trying to transform succeeds.
* `transform_recovers`: how transforming follows from trying to.
-/

namespace UrlTemplate

open Apply (apply applyPath exists_applyPath_of_fragment isFragment_iff)
open Url (read write)

/-! ## Transforming with rules -/

/-- The records of a log that tell of a failure. -/
def debugs (log : List Record) : List Record := log.filter fun r => r.level = .debug

theorem debugs_append (a b : List Record) : debugs (a ++ b) = debugs a ++ debugs b :=
  List.filter_append ..

/-- The empty pattern fits every list of tokens, also one that no URL has. -/
theorem exists_apply_empty (ts : List Url.Token) : ∃ out, apply ts Pattern.empty = .ok out :=
  ⟨_, rfl⟩

theorem apply_read_empty (url : List Char) : apply (read url) Pattern.empty = .ok (read url) := by
  rw [Url.read_eq_ofText, Apply.apply_empty]

/-- The empty pattern takes the place of one whose path does not fit. -/
theorem value_applyOrNormalize (ts : List Url.Token) (rules : List Pattern.Token) :
    (applyOrNormalize ts rules).value =
      match apply ts rules with
      | .ok out => .ok out
      | .error e => if e.isFragment then .error e else apply ts Pattern.empty := by
  unfold applyOrNormalize
  cases apply ts rules with
  | ok out => rfl
  | error e => cases e <;> rfl

theorem debugs_applyOrNormalize (ts : List Url.Token) (rules : List Pattern.Token) :
    (debugs (applyOrNormalize ts rules).log).length =
      match apply ts rules with
      | .ok _ => 0
      | .error e => if e.isFragment then 0 else 1 := by
  unfold applyOrNormalize
  cases apply ts rules with
  | ok out => rfl
  | error e => cases e <;> rfl

theorem value_transformWith (url : List Char) (rules : List Pattern.Token) :
    (transformWith url rules).value =
      match apply (read url) rules with
      | .ok out => write out
      | .error e => if e.isFragment then url else (normalize url).value := by
  rw [value_normalize, transformWith]
  simp only [Traced.value_bind, urlTokens, Traced.value_pure, value_applyOrNormalize]
  cases apply (read url) rules with
  | ok out => rfl
  | error e =>
    rw [apply_read_empty]
    cases e <;> rfl

/-- A failure is logged where it is recovered from: in applying the rules if the path does not
fit, and behind that if the fragment does not. -/
theorem debugs_transformWith (url : List Char) (rules : List Pattern.Token) :
    (debugs (transformWith url rules).log).length =
      match apply (read url) rules with
      | .ok _ => 0
      | .error _ => 1 := by
  have hread : debugs (urlTokens url).log = [] := rfl
  have hvalue : (urlTokens url).value = read url := rfl
  rw [transformWith, Traced.log_bind, debugs_append, hread, List.nil_append, Traced.log_bind,
    debugs_append, List.length_append, debugs_applyOrNormalize, value_applyOrNormalize, hvalue]
  cases apply (read url) rules with
  | ok out => rfl
  | error e =>
    rw [apply_read_empty]
    cases e <;> rfl

/-! ## Trying to transform -/

variable {url pattern out : List Char} {rules : List Pattern.Token} {e : TransformError}

theorem value_tryTransform (url pattern : List Char) :
    (tryTransform url pattern).value =
      match Pattern.read pattern with
      | .error s => .error (.badPattern s)
      | .ok rules =>
        match apply (read url) rules with
        | .ok ts => .ok (write ts)
        | .error m => .error (.mismatch m) := by
  rw [tryTransform, patternTokens]
  cases Pattern.read pattern with
  | error s => rfl
  | ok rules =>
    change (write <$> apply (read url) rules).mapError TransformError.mismatch =
      match apply (read url) rules with
      | .ok ts => .ok (write ts)
      | .error m => .error (.mismatch m)
    cases apply (read url) rules <;> rfl

theorem tryTransform_eq_ok_iff :
    (tryTransform url pattern).value = .ok out ↔
      ∃ rules ts, Pattern.read pattern = .ok rules ∧ apply (read url) rules = .ok ts ∧
        out = write ts := by
  rw [value_tryTransform]
  cases Pattern.read pattern with
  | error s => exact ⟨nofun, nofun⟩
  | ok rules => cases ha : apply (read url) rules <;> simp [ha, eq_comm]

theorem exists_tryTransform_eq_ok_iff (url : List Char) (h : Pattern.read pattern = .ok rules) :
    (∃ out, (tryTransform url pattern).value = .ok out) ↔
      ∃ ts, apply (read url) rules = .ok ts := by
  constructor
  · rintro ⟨out, hout⟩
    obtain ⟨rules', ts, hrules, hts, -⟩ := tryTransform_eq_ok_iff.mp hout
    cases h.symm.trans hrules
    exact ⟨ts, hts⟩
  · rintro ⟨ts, hts⟩
    exact ⟨_, tryTransform_eq_ok_iff.mpr ⟨rules, ts, h, hts, rfl⟩⟩

theorem tryTransform_eq_error_iff :
    (tryTransform url pattern).value = .error e ↔
      (∃ s, Pattern.read pattern = .error s ∧ e = .badPattern s) ∨
      ∃ rules m, Pattern.read pattern = .ok rules ∧ apply (read url) rules = .error m ∧
        e = .mismatch m := by
  rw [value_tryTransform]
  cases Pattern.read pattern with
  | error s => simp [eq_comm]
  | ok rules => cases ha : apply (read url) rules <;> simp [ha, eq_comm]

theorem transform_of_read_ok (url : List Char) (h : Pattern.read pattern = .ok rules) :
    (transform url pattern).value = (transformWith url rules).value ∧
      debugs (transform url pattern).log = debugs (transformWith url rules).log := by
  rw [transform, patternTokens, h]
  exact ⟨rfl, rfl⟩

theorem transform_of_read_error (url : List Char) {s : Pattern.SyntaxError}
    (h : Pattern.read pattern = .error s) :
    (transform url pattern).value = (normalize url).value ∧
      (debugs (transform url pattern).log).length = 1 := by
  have hempty := debugs_transformWith url Pattern.empty
  rw [apply_read_empty] at hempty
  obtain ⟨r, hr, hlog⟩ : ∃ r : Record, r.level = .debug ∧
      (transform url pattern).log = r :: (transformWith url Pattern.empty).log := by
    rw [transform, patternTokens, h]
    exact ⟨_, rfl, rfl⟩
  refine ⟨?_, ?_⟩
  · rw [transform, patternTokens, h]
    rfl
  · rw [hlog, debugs, List.filter_cons, if_pos (by simpa using hr), List.length_cons]
    exact congrArg (· + 1) hempty

/-- Transforming follows from trying to: a result is taken over; a pattern that cannot be read
and a path that does not fit leave the URL normalized; a fragment that does not fit, found out
behind a path that does, leaves it as it is. A failure is logged once and a success never is.
Normalizing in place of a path that does not fit cannot fail itself, whatever the tokens. -/
theorem transform_recovers (url pattern : List Char) :
    (∀ out, (tryTransform url pattern).value = .ok out →
      (transform url pattern).value = out ∧ debugs (transform url pattern).log = []) ∧
    (∀ e, (tryTransform url pattern).value = .error e →
      (debugs (transform url pattern).log).length = 1 ∧
      ((∀ expected found, e ≠ .mismatch (.fragment expected found)) →
        (transform url pattern).value = (normalize url).value) ∧
      ∀ expected found, e = .mismatch (.fragment expected found) →
        (transform url pattern).value = url ∧
        ∃ rules path, Pattern.read pattern = .ok rules ∧
          applyPath (read url) rules = .ok path) ∧
    ∀ ts rules e, (applyOrNormalize ts rules).value = .error e →
      ∃ expected found, e = .fragment expected found := by
  refine ⟨?_, ?_, ?_⟩
  · intro out h
    obtain ⟨rules, ts, hp, ha, rfl⟩ := tryTransform_eq_ok_iff.mp h
    obtain ⟨hvalue, hlog⟩ := transform_of_read_ok url hp
    have hd := debugs_transformWith url rules
    rw [hvalue, hlog, value_transformWith, ha]
    rw [ha] at hd
    exact ⟨rfl, List.length_eq_zero_iff.mp hd⟩
  · intro e h
    rcases tryTransform_eq_error_iff.mp h with ⟨s, hp, rfl⟩ | ⟨rules, m, hp, ha, rfl⟩
    · obtain ⟨hvalue, hlog⟩ := transform_of_read_error url hp
      exact ⟨hlog, fun _ => hvalue, nofun⟩
    · obtain ⟨hvalue, hlog⟩ := transform_of_read_ok url hp
      rw [hvalue, hlog, value_transformWith, debugs_transformWith, ha]
      refine ⟨rfl, ?_, ?_⟩
      · intro hne
        have hm : m.isFragment = false := by
          cases m with
          | fragment expected found => exact absurd rfl (hne expected found)
          | _ => rfl
        simp [hm]
      · rintro expected found ⟨⟩
        obtain ⟨path, hpath⟩ := exists_applyPath_of_fragment ha rfl
        exact ⟨rfl, rules, path, hp, hpath⟩
  · intro ts rules e h
    obtain ⟨out, hout⟩ := exists_apply_empty ts
    rw [value_applyOrNormalize, hout] at h
    rw [← isFragment_iff]
    split at h
    · cases h
    · split at h
      · cases h
        assumption
      · cases h

/-- A result; a list of names that is not closed; a segment, and a fragment, that is another
one; and tokens that no URL has. -/
theorem transform_recovers_each :
    let url := "//a/#f".toList
    ((tryTransform url "/a#-".toList).value = .ok "/a".toList ∧
      (transform url "/a#-".toList).value = "/a".toList) ∧
    ((tryTransform url "?[a".toList).value =
        .error (.badPattern { fault := .unclosedParamList, index := 3 }) ∧
      (transform url "?[a".toList).value = (normalize url).value) ∧
    ((tryTransform url "/b#g".toList).value = .error (.mismatch (.segment ['b'] ['a'])) ∧
      (transform url "/b#g".toList).value = (normalize url).value) ∧
    ((tryTransform url "/a#g".toList).value =
        .error (.mismatch (.fragment ['g'] (some ['f']))) ∧
      (transform url "/a#g".toList).value = url) ∧
    (applyOrNormalize [.finish, .fragment ['f'], .path .separator]
        [.path .omitPath, .fragment (.matchFragment ['g'])]).value =
      .error (.fragment ['g'] (some ['f'])) := by
  intro url
  have hok : (tryTransform url "/a#-".toList).value = .ok "/a".toList := by decide +kernel
  have hpattern : (tryTransform url "?[a".toList).value =
      .error (.badPattern { fault := .unclosedParamList, index := 3 }) := by decide +kernel
  have hpath : (tryTransform url "/b#g".toList).value =
      .error (.mismatch (.segment ['b'] ['a'])) := by decide +kernel
  have hfragment : (tryTransform url "/a#g".toList).value =
      .error (.mismatch (.fragment ['g'] (some ['f']))) := by decide +kernel
  have htokens : (applyOrNormalize [.finish, .fragment ['f'], .path .separator]
      [.path .omitPath, .fragment (.matchFragment ['g'])]).value =
      .error (.fragment ['g'] (some ['f'])) := rfl
  exact ⟨⟨hok, ((transform_recovers url _).1 _ hok).1⟩,
    ⟨hpattern, ((transform_recovers url _).2.1 _ hpattern).2.1 (by simp)⟩,
    ⟨hpath, ((transform_recovers url _).2.1 _ hpath).2.1 (by simp)⟩,
    ⟨hfragment, (((transform_recovers url _).2.1 _ hfragment).2.2 _ _ rfl).1⟩, htokens⟩

end UrlTemplate
