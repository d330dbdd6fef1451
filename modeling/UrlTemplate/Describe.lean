import UrlTemplate.Text.Quoted
import UrlTemplate.Pattern.Token
import UrlTemplate.Url.Token

/-! # Listings of tokens

A listing has one token a line: its kind, and in parentheses the text it
carries, quoted.
-/

namespace UrlTemplate

/-- The line of a token of this kind that carries a text. -/
def describeText (kind : String) (text : List Char) : List Char :=
  kind.toList ++ '(' :: Quoted.text text ++ [')']

namespace Url

/-- The kind of a token, as listings name it. -/
def Token.kind : Token → String
  | scheme _ => "scheme"
  | schemeSeparator => "scheme-separator"
  | authority _ => "authority"
  | path .separator => "path-separator"
  | path (.segment _) => "path-segment"
  | querySeparator => "query-separator"
  | param _ => "query-param"
  | paramSeparator => "query-param-separator"
  | fragmentSeparator => "fragment-separator"
  | fragment _ => "fragment"
  | finish => "end"

/-- The line of a token in a listing. -/
def Token.describe (token : Token) : List Char :=
  match token with
  | scheme text | authority text | path (.segment text) | fragment text =>
    describeText token.kind text
  | param entry =>
    token.kind.toList ++ '(' :: Quoted.text entry.raw ++ ", name=".toList ++
      Quoted.text entry.name ++ ", value=".toList ++ Quoted.text entry.value ++ [')']
  | _ => token.kind.toList

def describe (tokens : List Token) : List Char := tokens.flatMap (·.describe ++ ['\n'])

end Url

namespace Pattern

/-- The kind of a token, as listings name it. -/
def Token.kind : Token → String
  | path .separator => "path-separator"
  | path .glob => "glob"
  | path .omitPath => "omit-path"
  | path .omitSegment => "omit-path-segment"
  | path (.matchSegment _) => "match-path-segment"
  | query .allowList => "query-begin-allow-list"
  | query .denyList => "query-begin-deny-list"
  | query (.name _) => "query-param-name"
  | query .omitQuery => "omit-query-string"
  | fragment (.matchFragment _) => "match-fragment"
  | fragment .omitFragment => "omit-fragment"
  | finish => "end"

/-- The line of a token in a listing. -/
def Token.describe (token : Token) : List Char :=
  match token with
  | path (.matchSegment text) | query (.name text) | fragment (.matchFragment text) =>
    describeText token.kind text
  | _ => token.kind.toList

def describe (tokens : List Token) : List Char := tokens.flatMap (·.describe ++ ['\n'])

end Pattern

end UrlTemplate
