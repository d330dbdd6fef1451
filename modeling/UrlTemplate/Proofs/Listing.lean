import UrlTemplate.Describe
import UrlTemplate.Proofs.Text.Quoted

/-!
# Listings of tokens are unambiguous

A line of a listing is the kind of a token, then either nothing or an opening parenthesis, quoted
texts and a closing one. No kind has a parenthesis or a line end in it, so the kind of a line can
be told even where one kind begins like another; a kind tells how many texts there are, and quoted
texts end at places of their own.

* `kind_append_inj`: a line is cut behind its kind.
* `Listed.prefixFree`: a line tells its token, whatever lines follow.
* `describe_inj`: a listing tells its tokens.
-/

namespace UrlTemplate

/-! ## Kinds -/

/-- The character is neither an opening parenthesis nor a line end. -/
def isKindChar (c : Char) : Bool := c != '(' && c != '\n'

/-- The text starts like what stands behind a kind. -/
def EndsKind (rest : List Char) : Prop := ∃ c ∈ rest.head?, isKindChar c = false

theorem takeWhile_kind {kind rest : List Char} (h : kind.all isKindChar)
    (hrest : EndsKind rest) : (kind ++ rest).takeWhile isKindChar = kind := by
  obtain ⟨c, hc, hend⟩ := hrest
  obtain ⟨more, rfl⟩ := List.head?_eq_some_iff.mp hc
  rw [List.takeWhile_append_of_pos (List.all_eq_true.mp h),
    List.takeWhile_cons_of_neg (by simp [hend]), List.append_nil]

/-- A line is cut behind its kind. -/
theorem kind_append_inj {k l : String} {s t : List Char} (hk : k.toList.all isKindChar)
    (hl : l.toList.all isKindChar) (hs : EndsKind s) (ht : EndsKind t)
    (h : k.toList ++ s = l.toList ++ t) : k = l ∧ s = t := by
  have hkind : k.toList = l.toList := by
    rw [← takeWhile_kind hk hs, h, takeWhile_kind hl ht]
  refine ⟨String.toList_inj.mp hkind, ?_⟩
  rw [hkind] at h
  exact List.append_cancel_left h

/-! ## Lines -/

/-- Things are listed by a kind and by a body that tells which thing of the kind it is. -/
structure Listed {τ : Type} (kind : τ → String) (body : τ → List Char) : Prop where
  isKindChar : ∀ t, (kind t).toList.all isKindChar
  endsKind : ∀ t rest, EndsKind (body t ++ '\n' :: rest)
  body_inj : ∀ {t u r s}, kind t = kind u → body t ++ r = body u ++ s → t = u ∧ r = s

namespace Listed

variable {τ : Type} {kind : τ → String} {body : τ → List Char}

theorem prefixFree (h : Listed kind body) :
    PrefixFree fun t => (kind t).toList ++ body t ++ ['\n'] := by
  intro t u r s heq
  simp only [List.append_assoc, List.cons_append, List.nil_append] at heq
  obtain ⟨hkind, hbody⟩ := kind_append_inj (h.isKindChar t) (h.isKindChar u) (h.endsKind t r)
    (h.endsKind u s) heq
  obtain ⟨rfl, hend⟩ := h.body_inj hkind hbody
  exact ⟨rfl, (List.cons.inj hend).2⟩

/-- Lines one after the other tell the things that are listed. -/
theorem flatMap_inj (h : Listed kind body) {as bs : List τ} :
    (as.flatMap fun t => (kind t).toList ++ body t ++ ['\n']) =
      (bs.flatMap fun t => (kind t).toList ++ body t ++ ['\n']) ↔ as = bs := by
  constructor
  · intro heq
    refine (h.prefixFree.flatMap_append (s := []) (t := []) ?_ ?_ ?_).1
    · simp
    · simp
    · simpa using heq
  · rintro rfl
    rfl

end Listed

/-! ## Tokens -/

/-- What stands behind the kind of a token of a URL. -/
def Url.Token.body : Url.Token → List Char
  | scheme text | authority text | path (.segment text) | fragment text =>
    '(' :: Quoted.text text ++ [')']
  | param entry =>
    '(' :: Quoted.text entry.raw ++ ", name=".toList ++ Quoted.text entry.name ++
      ", value=".toList ++ Quoted.text entry.value ++ [')']
  | _ => []

theorem Url.Token.describe_eq (t : Url.Token) : t.describe = t.kind.toList ++ t.body := by
  rcases t with _ | _ | _ | (_ | _) | _ | _ | _ | _ | _ | _ <;>
    simp [describe, describeText, body]

theorem Url.Token.listed : Listed Url.Token.kind Url.Token.body where
  isKindChar t := by
    rcases t with _ | _ | _ | (_ | _) | _ | _ | _ | _ | _ | _ <;>
      simp only [kind] <;> decide
  endsKind t rest := by
    rcases t with _ | _ | _ | (_ | _) | _ | _ | _ | _ | _ | _ <;>
      exact ⟨_, rfl, rfl⟩
  body_inj := by
    intro t u r s hkind hbody
    rcases t with _ | _ | _ | (_ | _) | _ | ⟨_, _, _⟩ | _ | _ | _ | _ <;>
      rcases u with _ | _ | _ | (_ | _) | _ | ⟨_, _, _⟩ | _ | _ | _ | _ <;>
      simp_all [kind, body]

/-- What stands behind the kind of a token of a pattern. -/
def Pattern.Token.body : Pattern.Token → List Char
  | path (.matchSegment text) | query (.name text) | fragment (.matchFragment text) =>
    '(' :: Quoted.text text ++ [')']
  | _ => []

theorem Pattern.Token.describe_eq (t : Pattern.Token) :
    t.describe = t.kind.toList ++ t.body := by
  rcases t with (_ | _ | _ | _ | _) | (_ | _ | _ | _) | (_ | _) | _ <;>
    simp [describe, describeText, body]

theorem Pattern.Token.listed : Listed Pattern.Token.kind Pattern.Token.body where
  isKindChar t := by
    rcases t with (_ | _ | _ | _ | _) | (_ | _ | _ | _) | (_ | _) | _ <;>
      simp only [kind] <;> decide
  endsKind t rest := by
    rcases t with (_ | _ | _ | _ | _) | (_ | _ | _ | _) | (_ | _) | _ <;> exact ⟨_, rfl, rfl⟩
  body_inj := by
    intro t u r s hkind hbody
    rcases t with (_ | _ | _ | _ | _) | (_ | _ | _ | _) | (_ | _) | _ <;>
      rcases u with (_ | _ | _ | _ | _) | (_ | _ | _ | _) | (_ | _) | _ <;>
      simp_all [kind, body]

/-- Equal listings are listings of equal tokens, whatever texts these carry. -/
theorem describe_inj :
    (∀ a b : List Url.Token, Url.describe a = Url.describe b ↔ a = b) ∧
      ∀ a b : List Pattern.Token, Pattern.describe a = Pattern.describe b ↔ a = b := by
  constructor
  · intro a b
    simp only [Url.describe, Url.Token.describe_eq]
    exact Url.Token.listed.flatMap_inj
  · intro a b
    simp only [Pattern.describe, Pattern.Token.describe_eq]
    exact Pattern.Token.listed.flatMap_inj

end UrlTemplate
