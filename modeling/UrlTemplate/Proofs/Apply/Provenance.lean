import Mathlib.Data.List.Basic
import UrlTemplate.Proofs.Apply.Forms
import UrlTemplate.Proofs.Apply.Walk

/-!
# Where the result comes from

A pattern only takes from a URL: it adds nothing but the delimiters of the query and the fragment
and the end marker, repeats nothing and keeps every part in its order. This holds for any list of
tokens and any list of rules, also where no text is read as such a list.

* `writeParams_eq`: how query entries are laid out.
* `count_finish`: what a pattern leaves has one end marker.
* `apply_takes`: what a pattern leaves is taken from the URL.
-/

namespace UrlTemplate.Apply

open Url (PathToken Token fragmentOf pathOf)

variable {url out : List Token} {rules : List Pattern.Token}

/-- Entries stand behind a `?` and have an `&` between them. -/
theorem writeParams_eq (ps : List Url.Param) :
    writeParams ps =
      if ps = [] then [] else .querySeparator :: (ps.map .param).intersperse .paramSeparator := by
  have hrest : ∀ (p : Url.Param) ps, .param p :: (ps.flatMap fun q => [.paramSeparator, .param q]) =
      ((p :: ps).map Token.param).intersperse .paramSeparator := by
    intro p ps
    induction ps generalizing p with
    | nil => rfl
    | cons q ps ih => simpa [List.flatMap_cons, List.intersperse_cons_cons] using ih q
  cases ps with
  | nil => rfl
  | cons p ps => rw [if_neg (List.cons_ne_nil p ps), ← hrest, writeParams]

/-- The end marker is the only one, whatever is written before it. -/
theorem count_finish (url : List Token) (path : List PathToken) (params : List Url.Param)
    (fragment : Option (List Char)) :
    (authority url ++ path.map Token.path ++ writeParams params ++ writeFragment fragment ++
      [Token.finish]).count Token.finish = 1 := by
  have horigin : Token.finish ∉ authority url := by
    intro h
    have hfinish : Token.finish.isAuthority = true := (List.mem_filter.mp h).2
    cases hfinish
  have hpath : Token.finish ∉ path.map Token.path := by simp
  have hparams : Token.finish ∉ writeParams params := by
    cases params <;> simp [writeParams]
  have hfragment : Token.finish ∉ writeFragment fragment := by
    cases fragment <;> simp [writeFragment]
  simp [List.count_eq_zero.mpr, horigin, hpath, hparams, hfragment]

/-- What a pattern leaves of a URL is taken from it: the scheme and the authority as they are,
some of the tokens of the path, some of the query entries, and perhaps the first fragment, all in
their order and with the delimiters that belong there, before a single end marker. -/
theorem apply_takes (h : apply url rules = .ok out) :
    ∃ (path : List PathToken) (params : List Url.Param) (fragment : List Token),
      out = url.filter Token.isAuthority ++ path.map .path ++
        (if params = [] then []
          else .querySeparator :: (params.map .param).intersperse .paramSeparator) ++
        fragment ++ [.finish] ∧
      out.count .finish = 1 ∧
      path.Sublist (url.filterMap Token.path?) ∧
      params.Sublist (url.filterMap Token.param?) ∧
      (fragment = [] ∨ ∃ text, url.findSome? Token.fragment? = some text ∧
        fragment = [.fragmentSeparator, .fragment text]) := by
  rw [apply_eq] at h
  obtain ⟨path, hpath, h⟩ := Scan.bind_eq_ok_iff.mp h
  obtain ⟨omitted, -, h⟩ := Scan.bind_eq_ok_iff.mp h
  obtain rfl := Except.ok.inj h
  let params := (url.filterMap Token.param?).filter fun p =>
    (QueryAction.ofPattern rules).keeps (Escape.unescape p.name)
  have hquery : applyQuery url rules = writeParams params := rfl
  rw [hquery]
  refine ⟨path, params, writeFragment (if omitted then none else fragmentOf url), ?_,
    count_finish url path params _, fitPath_sublist hpath, List.filter_sublist, ?_⟩
  · rw [← writeParams_eq]
    rfl
  · cases omitted with
    | true => exact .inl rfl
    | false =>
      cases hfound : fragmentOf url with
      | none => exact .inl rfl
      | some text => exact .inr ⟨text, hfound, rfl⟩

/-- Tokens in no order that a URL has, and rules behind the end marker. -/
theorem apply_takes_unordered :
    let us : List Token := [.fragment ['f'], .path (.segment ['a']), .path .separator, .finish,
      .param (.ofRaw "y=1".toList), .authority ['h'], .path .separator, .path (.segment ['b']),
      .param (.ofRaw ['x']), .scheme ['s'], .path (.segment ['c']), .fragment ['g'],
      .param (.ofRaw ['x'])]
    let rules : List Pattern.Token := [.path .omitSegment, .path .separator, .path .separator,
      .path .glob, .path .glob, .query .denyList, .query (.name ['y']), .finish, .path .omitPath]
    let ts : List Token := [.authority ['h'], .scheme ['s'], .path .separator,
      .path (.segment ['b']), .path (.segment ['c']), .querySeparator, .param (.ofRaw ['x']),
      .paramSeparator, .param (.ofRaw ['x']), .fragmentSeparator, .fragment ['f'], .finish]
    apply us rules = .ok ts ∧
      ∃ (path : List PathToken) (params : List Url.Param) (fragment : List Token),
        ts = us.filter Token.isAuthority ++ path.map .path ++
          (if params = [] then []
            else .querySeparator :: (params.map .param).intersperse .paramSeparator) ++
          fragment ++ [.finish] ∧
        ts.count .finish = 1 ∧
        path.Sublist (us.filterMap Token.path?) ∧
        params.Sublist (us.filterMap Token.param?) ∧
        (fragment = [] ∨ ∃ text, us.findSome? Token.fragment? = some text ∧
          fragment = [.fragmentSeparator, .fragment text]) := by
  intro us rules ts
  have happly : apply us rules = .ok ts := by cbv
  exact ⟨happly, apply_takes happly⟩

end UrlTemplate.Apply
