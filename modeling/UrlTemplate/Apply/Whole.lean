import UrlTemplate.Apply.Path
import UrlTemplate.Apply.Query
import UrlTemplate.Apply.Fragment

/-! # Applying a pattern to a URL

The three kinds of rules are applied to the URL one after the other, and what
they write is joined behind the scheme and the authority.
-/

namespace UrlTemplate.Apply

/-- The scheme and authority tokens of a URL. -/
def authority (url : List Url.Token) : List Url.Token := url.filter Url.Token.isAuthority

/-- Applies a pattern to a URL; the first kind of rule that does not fit is
reported. -/
def apply (url : List Url.Token) (pattern : List Pattern.Token) :
    Except Mismatch (List Url.Token) := do
  let path ← applyPath url pattern
  let query := applyQuery url pattern
  let fragment ← applyFragment url pattern
  pure (authority url ++ path ++ query ++ fragment ++ [.finish])

end UrlTemplate.Apply
