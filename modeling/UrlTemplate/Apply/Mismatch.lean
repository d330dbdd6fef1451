import UrlTemplate.Text.Quoted

/-! # How a URL can fail to fit a pattern
-/

namespace UrlTemplate

/-- Why a URL does not fit a pattern. -/
inductive Mismatch where
  /-- The path has no separator where the pattern has one. -/
  | noSeparator
  /-- The path has another segment than the pattern asks for. -/
  | segment (expected found : List Char)
  /-- The path has no segment where the pattern has one. -/
  | noSegment
  /-- The URL has another fragment than the pattern asks for, or none. -/
  | fragment (expected : List Char) (found : Option (List Char))
  deriving DecidableEq, Repr

/-- The fragment is what does not fit. -/
def Mismatch.isFragment : Mismatch → Bool
  | fragment _ _ => true
  | _ => false

/-- The wording of a mismatch. -/
def Mismatch.message : Mismatch → String
  | noSeparator => "path does not match pattern: expected a path separator"
  | segment expected found =>
    "path segment " ++ String.ofList (Quoted.text found) ++ " does not match " ++
      String.ofList (Quoted.text expected)
  | noSegment => "missing required path segment"
  | fragment expected found =>
    "fragment " ++ String.ofList (Quoted.optional found) ++ " does not match " ++
      String.ofList (Quoted.text expected)

end UrlTemplate
