import UrlTemplate.Pattern.Read
import UrlTemplate.Proofs.Text.Cuts

/-!
# The grammar of patterns

A pattern is a path, a query and a fragment, one behind the other, and each of them may be
missing. They are lists of items: a protected character is text in all of them, and only
bare ones have a meaning, which is not the same in the path, in a list of names and in the
fragment. Beside the form of each part stands what it says.

* `IsPath`, `QueryRules`, `IsFragment`: the forms of the parts.
* `pathRules`, `fragmentRules`: the rules that they say.
* `IsPattern`: the three parts are those of a pattern.
-/

namespace UrlTemplate.Pattern

open Escape

/-! ## The path -/

/-- The items of a path: `[`, `]`, `,`, `?` and `#` do not stand bare, and a bare `-` has
nothing but a bare `/` or an end of the path on either side. -/
structure IsPath (path : List Item) : Prop where
  clear : ∀ c ∈ ['[', ']', ',', '?', '#'], .bare c ∉ path
  alone : ∀ before after, path = before ++ .bare '-' :: after →
    (∀ i ∈ before.getLast?, i = .bare '/') ∧ ∀ i ∈ after.head?, i = .bare '/'

/-- The rules of the items of a path, when the literal text `w` stands before them. -/
def rulesFrom : List Char → List Item → List PathRule
  | w, [] => (nonEmpty w).map .matchSegment
  | w, i :: l =>
    if i = .bare '/' then (nonEmpty w).map .matchSegment ++ .separator :: rulesFrom [] l
    else if i = .bare '*' then (nonEmpty w).map .matchSegment ++ .glob :: rulesFrom [] l
    else if i = .bare '-' then (nonEmpty w).map .matchSegment ++ .omitSegment :: rulesFrom [] l
    else rulesFrom (w ++ i.plain) l

/-- The rules of a path. A `-` that is all of it drops the whole path. -/
def pathRules (path : List Item) : List PathRule :=
  if path = [.bare '-'] then [.omitPath] else rulesFrom [] path

/-! ## The query -/

/-- The items of a list of names. -/
def IsNames (names : List Item) : Prop :=
  ∀ c ∈ ['[', ']', '^', '-', '?', '#', '*', '/'], .bare c ∉ names

/-- The names in the items of a list, when the literal text `w` stands before them. -/
def namesFrom : List Char → List Item → List (List Char)
  | w, [] => nonEmpty w
  | w, i :: l => if i = .bare ',' then nonEmpty w ++ namesFrom [] l else namesFrom (w ++ i.plain) l

/-- The rules of names, one behind the other. -/
def nameRules (names : List (List Char)) : List Token := names.map fun name => .query (.name name)

/-- The forms of a query, and the rules that they say. -/
inductive QueryRules : List Item → List Token → Prop
  | absent : QueryRules [] []
  /-- Nothing may follow a `?` alone. -/
  | lone : QueryRules [.bare '?'] []
  | all : QueryRules [.bare '?', .bare '*'] []
  | none : QueryRules [.bare '?', .bare '-'] [.query .omitQuery]
  | allow {names : List Item} (h : IsNames names) :
    QueryRules (.bare '?' :: .bare '[' :: (names ++ [.bare ']']))
      (.query .allowList :: nameRules (namesFrom [] names))
  | deny {names : List Item} (h : IsNames names) :
    QueryRules (.bare '?' :: .bare '[' :: .bare '^' :: (names ++ [.bare ']']))
      (.query .denyList :: nameRules (namesFrom [] names))

/-! ## The fragment -/

/-- A fragment is missing or starts with a bare `#`; any items may follow it. -/
def IsFragment (fragment : List Item) : Prop := ∀ i ∈ fragment.head?, i = .bare '#'

/-- The rules of the items behind the `#` of a fragment. -/
def fragmentRulesBehind (l : List Item) : List Token :=
  if l.head? = some (.bare '-') then .fragment .omitFragment :: closeFragment (plainOf l.tail)
  else if l.head? = some (.bare '*') then closeFragment (plainOf l.tail)
  else closeFragment (plainOf l)

/-- The rules of a fragment. -/
def fragmentRules : List Item → List Token
  | [] => []
  | _ :: l => fragmentRulesBehind l

/-! ## Patterns -/

/-- What follows the path of a pattern: a query and a fragment that say the rules `ts`. -/
def Follows (l : List Item) (ts : List Token) : Prop :=
  ∃ query fragment rules, l = query ++ fragment ∧ QueryRules query rules ∧ IsFragment fragment ∧
    (query = [.bare '?'] → fragment = []) ∧ ts = rules ++ fragmentRules fragment ++ [.finish]

/-- The parts of a pattern. -/
structure IsPattern (path query fragment : List Item) : Prop where
  isPath : IsPath path
  isQuery : ∃ rules, QueryRules query rules
  isFragment : IsFragment fragment
  lone : query = [.bare '?'] → fragment = []

/-! ## The literal text before a delimiter -/

theorem closeSegment_eq (w : List Char) :
    closeSegment w = ((nonEmpty w).map PathRule.matchSegment).map .path := by
  by_cases hw : w = [] <;> simp [closeSegment, nonEmpty, hw]

theorem closeName_eq (w : List Char) : closeName w = nameRules (nonEmpty w) := by
  by_cases hw : w = [] <;> simp [closeName, nameRules, nonEmpty, hw]

theorem closeFragment_nonEmpty (w : List Char) :
    closeFragment w = (nonEmpty w).map fun t => .fragment (.matchFragment t) := by
  by_cases hw : w = [] <;> simp [closeFragment, nonEmpty, hw]

/-! ## Text between delimiters -/

/-- Items that are no delimiters of a path join the literal text. -/
theorem rulesFrom_append {a : List Item} (h : ∀ c ∈ ['/', '*', '-'], .bare c ∉ a) (w : List Char)
    (l : List Item) : rulesFrom w (a ++ l) = rulesFrom (w ++ plainOf a) l := by
  induction a generalizing w with
  | nil => simp
  | cons i a ih =>
    simp only [List.mem_cons, not_or, List.not_mem_nil, or_false, forall_eq_or_imp, forall_eq] at h
    obtain ⟨⟨hsep, hsep'⟩, ⟨hglob, hglob'⟩, hminus, hminus'⟩ := h
    rw [List.cons_append, rulesFrom, if_neg (Ne.symm hsep), if_neg (Ne.symm hglob),
      if_neg (Ne.symm hminus), ih (by simp [hsep', hglob', hminus'])]
    simp

/-- Items other than a bare `,` join the literal text of a name. -/
theorem namesFrom_append {a : List Item} (h : .bare ',' ∉ a) (w : List Char) (l : List Item) :
    namesFrom w (a ++ l) = namesFrom (w ++ plainOf a) l := by
  induction a generalizing w with
  | nil => simp
  | cons i a ih =>
    rw [List.mem_cons, not_or] at h
    rw [List.cons_append, namesFrom, if_neg (Ne.symm h.1), ih h.2]
    simp

/-! ## Where a `-` stands -/

/-- A bare `-` has nothing but a bare `/` or an end of the list on either side; `fresh` says
whether it may be the first item. -/
def Spread : Bool → List Item → Prop
  | _, [] => True
  | fresh, i :: l =>
    (i = .bare '-' → fresh = true ∧ ∀ j ∈ l.head?, j = .bare '/') ∧ Spread (i = .bare '/') l

theorem spread_iff {fresh : Bool} {path : List Item} :
    Spread fresh path ↔ ∀ before after, path = before ++ .bare '-' :: after →
      (before = [] → fresh = true) ∧ (∀ i ∈ before.getLast?, i = .bare '/') ∧
        ∀ i ∈ after.head?, i = .bare '/' := by
  induction path generalizing fresh with
  | nil => simp [Spread]
  | cons i l ih =>
    rw [Spread, ih]
    constructor
    · rintro ⟨hi, hl⟩ before after he
      cases before with
      | nil =>
        obtain ⟨rfl, rfl⟩ := List.cons.inj he
        obtain ⟨hf, ha⟩ := hi rfl
        exact ⟨fun _ => hf, by simp, ha⟩
      | cons j before =>
        obtain ⟨rfl, rfl⟩ := List.cons.inj he
        obtain ⟨hf, hb, ha⟩ := hl before after rfl
        refine ⟨by simp, ?_, ha⟩
        cases before with
        | nil => simpa using hf rfl
        | cons k before => simpa using hb
    · intro h
      refine ⟨?_, ?_⟩
      · rintro rfl
        obtain ⟨hf, -, ha⟩ := h [] l rfl
        exact ⟨hf rfl, ha⟩
      · rintro before after rfl
        obtain ⟨-, hb, ha⟩ := h (i :: before) after rfl
        cases before with
        | nil => exact ⟨by simpa using hb, by simp, ha⟩
        | cons k before => exact ⟨by simp, by simpa using hb, ha⟩

theorem isPath_iff {path : List Item} :
    IsPath path ↔ (∀ c ∈ ['[', ']', ',', '?', '#'], .bare c ∉ path) ∧ Spread true path := by
  rw [spread_iff]
  constructor
  · rintro ⟨hc, ha⟩
    exact ⟨hc, fun before after he => ⟨fun _ => rfl, ha before after he⟩⟩
  · rintro ⟨hc, ha⟩
    exact ⟨hc, fun before after he => (ha before after he).2⟩

end UrlTemplate.Pattern
