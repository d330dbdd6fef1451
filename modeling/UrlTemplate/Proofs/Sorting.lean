import UrlTemplate.Pattern.Read
import UrlTemplate.Proofs.Url.ParamOrder

/-!
# The sorts of query entries and of param names

Reading a URL sorts its query entries, reading a pattern its param names. Both are the same sort
within a list (`SortsWithin`), for any list of tokens.
-/

namespace UrlTemplate

theorem Url.carries_param? : Carries Url.Token.param? Url.Token.param where
  pick_wrap _ := rfl
  eq_wrap := by
    intro t p h
    cases t with
    | param q =>
      cases h
      rfl
    | _ => cases h

theorem Pattern.carries_name? :
    Carries Pattern.Token.name? fun text => .query (.name text) where
  pick_wrap _ := rfl
  eq_wrap := by
    intro t text h
    cases t with
    | query rule =>
      cases rule with
      | name text' =>
        cases h
        rfl
      | _ => cases h
    | _ => cases h

/-- Query entries are sorted by name, then value, then raw text, and param names by code points;
the other tokens stay where they are. -/
theorem sortsWithin_params_and_names :
    SortsWithin Url.Token.param?
      (fun p q => p.name < q.name ∨ p.name = q.name ∧
        (p.value < q.value ∨ p.value = q.value ∧ textLe p.raw q.raw)) Url.sortParams ∧
    SortsWithin Pattern.Token.name? (fun a b => textLe a b) Pattern.sortNames := by
  constructor
  · have hsorts := sortsWithin_sortWithin Url.carries_param? Url.Param.isLinear_le
    simp only [Url.Param.le_iff] at hsorts
    exact hsorts
  · exact sortsWithin_sortWithin Pattern.carries_name? isLinear_textLe

end UrlTemplate
