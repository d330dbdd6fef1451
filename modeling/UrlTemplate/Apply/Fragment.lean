import UrlTemplate.Apply.Mismatch
import UrlTemplate.Pattern.Token
import UrlTemplate.Url.Token

/-! # Applying fragment rules

A pattern may ask for a fragment and may drop it; it is asked for first.
-/

namespace UrlTemplate.Apply

open Pattern (FragmentRule)

/-- Checks the fragment rules one after the other; the answer says whether one
of them drops the fragment. -/
def omitsFragment (found : Option (List Char)) : List Pattern.Token → Except Mismatch Bool
  | [] => pure false
  | .fragment (.matchFragment expected) :: rules =>
    if found.map Escape.unescape = some expected then omitsFragment found rules
    else throw (.fragment expected found)
  | .fragment .omitFragment :: rules => do
    let _ ← omitsFragment found rules
    pure true
  | _ :: rules => omitsFragment found rules

def writeFragment : Option (List Char) → List Url.Token
  | some text => [.fragmentSeparator, .fragment text]
  | none => []

/-- Applies the fragment rules of a pattern to the first fragment of a URL. -/
def applyFragment (url : List Url.Token) (pattern : List Pattern.Token) :
    Except Mismatch (List Url.Token) := do
  let found := url.findSome? Url.Token.fragment?
  let omitted ← omitsFragment found pattern
  pure (if omitted then [] else writeFragment found)

end UrlTemplate.Apply
