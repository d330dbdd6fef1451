import UrlTemplate.Apply.Whole
import UrlTemplate.Log
import UrlTemplate.Pattern.Read
import UrlTemplate.Url.Read

/-! # Transforming URLs

`transform` applies a pattern to a URL and never fails: a pattern that cannot
be read counts as the empty one, a path that does not fit is only normalized,
and a fragment that does not fit leaves the URL as given. `tryTransform`
reports each of these cases instead. Both keep a log of what they did.
-/

namespace UrlTemplate

/-- Reads a URL and logs how many tokens it has. -/
def urlTokens (url : List Char) : Logged (List Url.Token) := do
  let tokens := Url.read url
  .write .trace
    ("url " ++ String.ofList (Quoted.text url) ++ s!" -> {tokens.length} tokens")
  pure tokens

/-- Reads a pattern and logs how many tokens it has, if it can be read. -/
def patternTokens (pattern : List Char) :
    Logged (Except Pattern.SyntaxError (List Pattern.Token)) := do
  match Pattern.read pattern with
  | .error e => pure (.error e)
  | .ok tokens =>
    .write .trace
      ("pattern " ++ String.ofList (Quoted.text pattern) ++ s!" -> {tokens.length} rule tokens")
    pure (.ok tokens)

/-- Applies a pattern, or the empty one when the path does not fit. Only a
fragment that does not fit is reported. -/
def applyOrNormalize (url : List Url.Token) (pattern : List Pattern.Token) :
    Logged (Except Mismatch (List Url.Token)) := do
  match Apply.apply url pattern with
  | .ok tokens => pure (.ok tokens)
  | .error (.fragment expected found) => pure (.error (.fragment expected found))
  | .error e =>
    .write .debug (e.message ++ "; normalizing instead")
    pure (Apply.apply url Pattern.empty)

/-- Transforms a URL with a pattern that has been read. -/
def transformWith (url : List Char) (pattern : List Pattern.Token) : Logged (List Char) := do
  let tokens ← urlTokens url
  match ← applyOrNormalize tokens pattern with
  | .ok out => pure (Url.write out)
  | .error e =>
    .write .debug (e.message ++ "; returning url unchanged")
    pure url

def transform (url pattern : List Char) : Logged (List Char) := do
  match ← patternTokens pattern with
  | .ok tokens => transformWith url tokens
  | .error e =>
    .write .debug ("invalid pattern " ++ String.ofList (Quoted.text pattern) ++ ": " ++
      e.message ++ "; normalizing only")
    transformWith url Pattern.empty

/-- Brings a URL into its canonical form. -/
def normalize (url : List Char) : Logged (List Char) := transformWith url Pattern.empty

/-- Why a URL could not be transformed. -/
inductive TransformError where
  | badPattern (error : Pattern.SyntaxError)
  | mismatch (error : Mismatch)
  deriving DecidableEq, Repr

def TransformError.message : TransformError → String
  | badPattern error => error.message
  | mismatch error => error.message

/-- Transforms a URL with a pattern and reports whatever does not fit. -/
def tryTransform (url pattern : List Char) : Logged (Except TransformError (List Char)) := do
  match ← patternTokens pattern with
  | .error e => pure (.error (.badPattern e))
  | .ok rules =>
    let tokens ← urlTokens url
    pure ((Url.write <$> Apply.apply tokens rules).mapError .mismatch)

end UrlTemplate
