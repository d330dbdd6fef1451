import UrlTemplate.Proofs.Apply.Forms
import UrlTemplate.Proofs.Url.Respelling
import UrlTemplate.Transform

/-!
# Normal URLs

Normalizing a URL is reading and writing it, so the spellings that reading does not tell
apart have the same normal URL.

* `normalize_respelled`: runs of slashes, the order of the query entries, empty entries and
  marks that nothing follows are not seen in the normal URL.
-/

namespace UrlTemplate

open Escape Url

theorem value_normalize (url : List Char) : (normalize url).value = write (read url) := by
  simp only [normalize, transformWith, urlTokens, applyOrNormalize, read_eq_ofText,
    Apply.apply_empty, Traced.value_bind, Traced.value_pure]

/-- Behind its origin a URL can be edited in each of the ways of `Respelling`, any number of
times and in any order, and its normal URL stays the same, if its path starts with a slash and
it does not end in an odd run of backslashes. -/
theorem normalize_respelled {url : List Char} (hurl : ¬ Dangles url)
    (hpath : (bodyOf url).path.head? = some (.bare '/')) :
    withBody url (bodyOf url) = url ∧
      ∀ b, Relation.ReflTransGen Respelling (bodyOf url) b →
        (normalize (withBody url b)).value = (normalize url).value := by
  refine ⟨withBody_bodyOf url, fun b h => ?_⟩
  have hparts := sameParts_of_respellings h hpath
  have hsound := (bodyOf_sound hurl hpath).of_sameParts hparts
  rw [value_normalize, value_normalize, read_withBody hurl hsound, hparts.form_eq hpath,
    ← read_eq_form]

/-- Two slashes for one, a slash behind the path, the entries the other way around with an
empty one between them, and a `#`. -/
theorem normalize_respelled_each :
    ¬ Dangles "http://h/a/b?y=2&x=1".toList ∧
      (bodyOf "http://h/a/b?y=2&x=1".toList).path.head? = some (.bare '/') ∧
      (normalize "http://h//a/b/?x=1&&y=2#".toList).value =
        (normalize "http://h/a/b?y=2&x=1".toList).value := by
  have hurl : ¬ Dangles "http://h/a/b?y=2&x=1".toList := by decide
  have hbody : bodyOf "http://h/a/b?y=2&x=1".toList =
      ⟨items "/a/b".toList, some (items "y=2&x=1".toList), none⟩ := by decide
  have hpath : (bodyOf "http://h/a/b?y=2&x=1".toList).path.head? = some (.bare '/') := by
    rw [hbody]
    rfl
  have hedits : Relation.ReflTransGen Respelling
      ⟨items "/a/b".toList, some (items "y=2&x=1".toList), none⟩
      ⟨items "//a/b/".toList, some (items "x=1&&y=2".toList), some []⟩ := by
    have hslash := Relation.ReflTransGen.single (Respelling.slash
      (b := ⟨items "/a/b".toList, some (items "y=2&x=1".toList), none⟩)
      [] (items "a/b".toList) (by decide))
    have htrailing := hslash.tail (.trailing _)
    have horder := htrailing.tail (.order (items "x=1&y=2".toList) rfl (by decide))
    have hblank := horder.tail (.blank (items "x=1&&y=2".toList) [items "x=1".toList]
      [items "y=2".toList] rfl (by decide) (by decide))
    exact hblank.tail (.hash rfl)
  have hwith : withBody "http://h/a/b?y=2&x=1".toList
      ⟨items "//a/b/".toList, some (items "x=1&&y=2".toList), some []⟩ =
        "http://h//a/b/?x=1&&y=2#".toList := by decide
  rw [← hbody] at hedits
  rw [← hwith]
  exact ⟨hurl, hpath, (normalize_respelled hurl hpath).2 _ hedits⟩

end UrlTemplate
