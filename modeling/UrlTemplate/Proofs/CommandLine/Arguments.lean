import Mathlib.Data.List.TakeDrop
import UrlTemplate.CommandLine.Arguments

/-!
# Arguments for one URL

What a reader of arguments makes of a pattern and a URL that are given to it. Whatever they look
like, the arguments leave no doubt about them: the pattern is attached to its option, and the URL
stands behind the end of the options.

* `ReadsAlone`: the arguments for one URL are read as such.
* `readsAlone_readArguments`: `readArguments` does so.
-/

namespace UrlTemplate.CommandLine

/-- The option that asks for a mode. -/
def modeFlags : Mode → List String
  | .plain => []
  | .strict => ["--strict"]
  | .tokens => ["--tokens"]

/-- The arguments of a run for one URL with a given pattern. -/
def aloneArguments (mode : Mode) (pattern url : String) : List String :=
  modeFlags mode ++ ["--pattern=" ++ pattern, "--", url]

/-- The arguments for one URL are read as such. -/
def ReadsAlone (read : List String → Except Stop Invocation) : Prop :=
  ∀ mode pattern url,
    read (aloneArguments mode pattern url) = .ok ⟨.answer mode (some pattern) [url], 0⟩

/-! ## Reading options -/

/-- An option with a value is cut at its first equals sign. -/
theorem shape_long {argument : String} {text name value : List Char}
    (htext : argument.toList = '-' :: '-' :: text)
    (hspan : text.span (· ≠ '=') = (name, '=' :: value)) :
    Shape.of argument = .long (String.ofList name) (some (String.ofList value)) := by
  unfold Shape.of
  rw [htext]
  cases text with
  | nil => cases hspan
  | cons c text => simp only [hspan]

theorem shape_patternArgument (pattern : String) :
    Shape.of ("--pattern=" ++ pattern) = .long "pattern" (some pattern) := by
  have htext : ("--pattern=" ++ pattern).toList =
      '-' :: '-' :: ("pattern".toList ++ '=' :: pattern.toList) := by
    rw [String.toList_append]
    rfl
  have hspan : ("pattern".toList ++ '=' :: pattern.toList).span (· ≠ '=') =
      ("pattern".toList, '=' :: pattern.toList) := by
    rw [List.span_eq_takeWhile_dropWhile]
    simp
  rw [shape_long htext hspan, String.ofList_toList, String.ofList_toList]

theorem readOptions_alone {g : Given} (hg : g.pattern = none) (pattern url : String) :
    readOptions g ["--pattern=" ++ pattern, "--", url] =
      .ok { g with pattern := some pattern, urls := g.urls ++ [url] } := by
  have hend : Shape.of "--" = .terminator := by decide
  rw [readOptions, shape_patternArgument]
  simp only [if_pos, Given.addPattern, hg]
  simp [readOptions, hend, bind, Except.bind]

/-- Arguments that start with an option hold no subcommand. -/
theorem readArguments_of_option {argument : String} (h : Shape.of argument ≠ .url)
    (more : List String) :
    readArguments (argument :: more) = readOptions {} (argument :: more) >>= fun g =>
      g.request >>= fun request => pure { request, verbosity := g.verbosity } := by
  unfold readArguments
  split
  · cases ‹_ :: _ = _ :: _›
    exact absurd (by decide) h
  · cases ‹_ :: _ = _ :: _›
    exact absurd (by decide) h
  · rfl

/-- A flag before a pattern and a URL sets one thing more. -/
theorem readArguments_flag {flag name : String} {g : Given}
    (hshape : Shape.of flag = .long name none) (hname : name ≠ "pattern")
    (hadd : Given.addFlag {} name = .ok g) (hg : g.pattern = none) (pattern url : String) :
    readArguments [flag, "--pattern=" ++ pattern, "--", url] =
      { g with pattern := some pattern, urls := g.urls ++ [url] }.request >>= fun request =>
        pure { request, verbosity := g.verbosity } := by
  have hoptions : readOptions {} [flag, "--pattern=" ++ pattern, "--", url] =
      readOptions g ["--pattern=" ++ pattern, "--", url] := by
    rw [readOptions, hshape]
    simp only [if_neg hname, hadd]
    rfl
  rw [readArguments_of_option (by simp [hshape]), hoptions, readOptions_alone hg]
  rfl

theorem readsAlone_readArguments : ReadsAlone readArguments := by
  intro mode pattern url
  cases mode with
  | plain =>
    refine (readArguments_of_option (by simp [shape_patternArgument]) _).trans ?_
    rw [readOptions_alone rfl]
    rfl
  | strict =>
    have hshape : Shape.of "--strict" = .long "strict" none := by decide
    exact readArguments_flag hshape (by decide) rfl rfl pattern url
  | tokens =>
    have hshape : Shape.of "--tokens" = .long "tokens" none := by decide
    exact readArguments_flag hshape (by decide) rfl rfl pattern url

end UrlTemplate.CommandLine
