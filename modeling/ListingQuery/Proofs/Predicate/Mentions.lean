import ListingQuery.Predicate.Matches
import ListingQuery.Proofs.Document.Values
import ListingQuery.Proofs.Text.Blank

/-!
# Mentioned texts

A document mentions a text at a path if the text of some scalar there contains it, in lower case.  This
is what the test of a search asks, and the lists on the way may be given scopes of their own:

    (contains path needle).holds d ↔ d.Mentions path needle           (holds_contains_iff)
    d.Mentions (p ++ q) needle ↔ some element at p mentions it at q   (mentions_append_iff)
-/

namespace ListingQuery

open Predicate

/-! ## Texts -/

namespace Text

theorem hasInfix_iff (needle : List Char) : ∀ cs, hasInfix needle cs = true ↔ needle <:+: cs
  | [] => by simp [hasInfix]
  | c :: cs => by
    rw [hasInfix, Bool.or_eq_true, List.isPrefixOf_iff_prefix, hasInfix_iff needle cs,
      List.infix_cons_iff]

end Text

/-! ## Mentions -/

/-- Some scalar at the path has a text that contains the other, all in lower case. -/
def Json.Mentions (d : Json) (path : FieldPath) (needle : String) : Prop :=
  ∃ v, d.LiesAt path v ∧ ∃ e ∈ v.elements, ∃ text, e.scalarText? = some text ∧
    Text.lowerChars needle.toList <:+: Text.lowerChars text.toList

theorem holds_contains_iff (path : FieldPath) (needle : String) (d : Json) :
    (contains path needle).holds d = true ↔ d.Mentions path needle := by
  simp only [holds, anyContains, List.any_eq_true, Json.mem_elementsAt_iff, Json.Mentions]
  constructor
  · rintro ⟨e, ⟨v, hv, he⟩, hfound⟩
    split at hfound
    · next text htext => exact ⟨v, hv, e, he, text, htext, (Text.hasInfix_iff _ _).1 hfound⟩
    · cases hfound
  · rintro ⟨v, hv, e, he, text, htext, hinfix⟩
    refine ⟨e, ⟨v, hv, he⟩, ?_⟩
    rw [htext]
    exact (Text.hasInfix_iff _ _).2 hinfix

/-- A scope for a list on the way changes nothing. -/
theorem mentions_append_iff {d : Json} {p q : FieldPath} (hne : q ≠ []) (needle : String) :
    d.Mentions (p ++ q) needle ↔ ∃ e ∈ d.elementsAt p, e.Mentions q needle := by
  simp only [Json.Mentions, Json.liesAt_append_iff_exists_element hne]
  constructor
  · rintro ⟨v, ⟨e, he, hv⟩, htext⟩
    exact ⟨e, he, v, hv, htext⟩
  · rintro ⟨e, he, v, hv, htext⟩
    exact ⟨v, ⟨e, he, hv⟩, htext⟩

end ListingQuery
