import UrlTemplate.Text.Escape
import UrlTemplate.Text.Order
import UrlTemplate.Pattern.Token
import UrlTemplate.Url.Token

/-! # Applying query rules

The first query rule of a pattern decides what happens to the query entries of
a URL. Lists of names are kept sorted and looked up by halving.
-/

namespace UrlTemplate.Apply

/-- Looks `name` up among the places from `low` up to `high` of a sorted array,
halving the range each time. -/
def findSorted (names : Array (List Char)) (name : List Char) (low high : Nat) : Bool :=
  if _h : low < high then
    let middle := (low + high) / 2
    match names[middle]? with
    | none => false
    | some found =>
      if found = name then true
      else if found < name then findSorted names name (middle + 1) high
      else findSorted names name low middle
  else false
termination_by high - low

/-- What a pattern does with the query entries of a URL. -/
inductive QueryAction where
  /-- There is no query rule, or one that keeps all. -/
  | showAll
  | showNone
  /-- Keep the entries with these names, which are sorted. -/
  | showList (names : Array (List Char))
  /-- Drop the entries with these names, which are sorted. -/
  | skipList (names : Array (List Char))
  deriving DecidableEq, Repr

/-- The param names of a pattern, sorted, with repetitions. -/
def sortedNames (pattern : List Pattern.Token) : Array (List Char) :=
  ((pattern.filterMap Pattern.Token.name?).mergeSort textLe).toArray

namespace QueryAction

/-- What a query rule decides by itself; `none` for a rule that decides nothing. -/
def ofRule? (names : Array (List Char)) : Pattern.Token → Option QueryAction
  | .query .omitQuery => some .showNone
  | .query .allowList => some (.showList names)
  | .query .denyList => some (.skipList names)
  | _ => none

/-- The action of a pattern: the first rule that decides counts. -/
def ofPattern (pattern : List Pattern.Token) : QueryAction :=
  (pattern.findSome? (ofRule? (sortedNames pattern))).getD .showAll

def keeps (action : QueryAction) (name : List Char) : Bool :=
  match action with
  | showAll => true
  | showNone => false
  | showList names => findSorted names name 0 names.size
  | skipList names => !findSorted names name 0 names.size

end QueryAction

/-- Writes query entries: a `?` before the first and a `&` before the others. -/
def writeParams : List Url.Param → List Url.Token
  | [] => []
  | p :: ps => .querySeparator :: .param p :: ps.flatMap fun q => [.paramSeparator, .param q]

/-- Applies the query rules of a pattern to the query entries of a URL, which
keep their order. -/
def applyQuery (url : List Url.Token) (pattern : List Pattern.Token) : List Url.Token :=
  let action := QueryAction.ofPattern pattern
  writeParams ((url.filterMap Url.Token.param?).filter fun p =>
    action.keeps (Escape.unescape p.name))

end UrlTemplate.Apply
