import ListingQuery.Predicate.Matches
import ListingQuery.Proofs.Predicate.LikeText
import ListingQuery.Proofs.Text.Ascii

/-!
# Like tests as wildcard matches

On texts of ASCII a like test matches whole texts: a percent sign stands for any characters and every
other character for itself up to case, whatever it means in regular expressions.  There is one
exception.  A percent sign in the middle of a pattern does not stand for the end of a line, while one
at an end of the pattern does                                              (`holds_like_iff`).
-/

namespace ListingQuery.Predicate

open LikePattern (IsLike IsLikeByLines IsAnything IsInline SameFolded accepts endSign)

/-- Percent signs stand at the ends of the pattern only. -/
def HasWildEnds (p : List Char) : Prop :=
  ∃ opensFree endsFree body, p = endSign opensFree ++ (body ++ endSign endsFree) ∧ '%' ∉ body

/-- On texts of ASCII characters are compared up to the case of letters. -/
theorem accepts_iff_of_isAscii {pattern text : String} (hpattern : IsAscii pattern.toList)
    (htext : IsAscii text.toList) :
    accepts pattern text = true ↔ IsLikeByLines SameLetter pattern.toList text.toList := by
  have hsame (w : List Char) (hw : IsAscii w) :
      IsLike IsInline SameFolded pattern.toList w ↔
        IsLike IsInline SameLetter pattern.toList w := by
    have hiff : ∀ a ∈ pattern.toList, ∀ c ∈ w, SameFolded a c ↔ SameLetter a c :=
      fun a ha c hc => contains_folded_single_iff (hpattern a ha) (hw c hc)
    constructor
    · exact fun h => h.mono (fun _ _ hc => hc) fun a ha c hc => (hiff a ha c hc).1
    · exact fun h => h.mono (fun _ _ hc => hc) fun a ha c hc => (hiff a ha c hc).2
  rw [LikePattern.accepts_iff]
  unfold IsLikeByLines
  refine exists_congr fun u => exists_congr fun w => exists_congr fun v => ?_
  refine and_congr_right fun hcut => and_congr_right fun _ => and_congr_right fun _ => hsame w ?_
  rw [hcut] at htext
  exact (isAscii_append.1 (isAscii_append.1 htext).2).1

/-- Lines make no difference to a text of one line, nor to a pattern that is open at its ends only. -/
theorem isLikeByLines_iff_isLike {stands : Char → Char → Prop} {p t : List Char}
    (h : '\n' ∉ t ∨ HasWildEnds p) :
    IsLikeByLines stands p t ↔ IsLike IsAnything stands p t := by
  rcases h with hinline | ⟨opensFree, endsFree, body, hends, hbody⟩
  · refine LikePattern.isLikeByLines_iff_of_inline fun c hc hnewline => ?_
    rw [hnewline] at hc
    exact hinline hc
  · exact LikePattern.isLikeByLines_iff_of_ends hends hbody

theorem holds_like_iff_accepts {field : FieldPath} {pattern : String} {d : Json} :
    (like field pattern).holds d = true ↔
      ∃ s, .string s ∈ d.elementsAt field ∧ accepts pattern s = true := by
  show anyString _ _ = true ↔ _
  unfold anyString
  rw [List.any_eq_true]
  constructor
  · rintro ⟨v, hv, htest⟩
    cases v with
    | string s => exact ⟨s, hv, htest⟩
    | _ => cases htest
  · rintro ⟨s, hs, htest⟩
    exact ⟨.string s, hs, htest⟩

/-- A like test about texts of ASCII holds if one of them is like the pattern, where percent signs in
the middle stand for characters of one line.  If the texts are single lines, or the pattern has
percent signs at its ends only, this is so if one of them is like the pattern in full.  The texts are
those that the regular expression of the pattern is found in. -/
theorem holds_like_iff {field : FieldPath} {pattern : String} {d : Json}
    (hpattern : IsAscii pattern.toList)
    (htexts : ∀ s, .string s ∈ d.elementsAt field → IsAscii s.toList) :
    ((like field pattern).holds d = true ↔
      ∃ s, .string s ∈ d.elementsAt field ∧ IsLikeByLines SameLetter pattern.toList s.toList) ∧
    ((like field pattern).holds d = true →
      ∃ s, .string s ∈ d.elementsAt field ∧ IsLike IsAnything SameLetter pattern.toList s.toList) ∧
    ((∀ s, .string s ∈ d.elementsAt field → '\n' ∉ s.toList ∨ HasWildEnds pattern.toList) →
      ((like field pattern).holds d = true ↔
        ∃ s, .string s ∈ d.elementsAt field ∧
          IsLike IsAnything SameLetter pattern.toList s.toList)) ∧
    ∃ r, LikePattern.IsReadAs (LikePattern.regexText pattern) r ∧
      ((like field pattern).holds d = true ↔
        ∃ s, .string s ∈ d.elementsAt field ∧ r.search s = true) := by
  have hlines : (like field pattern).holds d = true ↔
      ∃ s, .string s ∈ d.elementsAt field ∧ IsLikeByLines SameLetter pattern.toList s.toList := by
    rw [holds_like_iff_accepts]
    refine exists_congr fun s => and_congr_right fun hs => ?_
    exact accepts_iff_of_isAscii hpattern (htexts s hs)
  refine ⟨hlines, fun h => ?_, fun hsimple => ?_, ?_⟩
  · obtain ⟨s, hs, hlike⟩ := hlines.1 h
    exact ⟨s, hs, hlike.isLike⟩
  · rw [hlines]
    refine exists_congr fun s => and_congr_right fun hs => ?_
    exact isLikeByLines_iff_isLike (hsimple s hs)
  · obtain ⟨r, hr, hsearch⟩ := LikePattern.regexText_reads pattern
    refine ⟨r, hr, ?_⟩
    rw [holds_like_iff_accepts]
    simp only [hsearch]

/-- A document with a name. -/
def named (name : String) : Json := .object [("name", .string name)]

theorem ada_like_signs :
    (like ["name"] "%\\_.(%").holds (named "Ada\n\\_.( Byron") = true ∧
      ∃ s, .string s ∈ (named "Ada\n\\_.( Byron").elementsAt ["name"] ∧
        IsLike IsAnything SameLetter "%\\_.(%".toList s.toList := by
  have htexts : ∀ s, .string s ∈ (named "Ada\n\\_.( Byron").elementsAt ["name"] →
      IsAscii s.toList := by
    intro s hs
    obtain rfl : s = "Ada\n\\_.( Byron" := by simpa using List.mem_singleton.1 hs
    decide
  have hpattern : IsAscii "%\\_.(%".toList := by decide
  have hends : HasWildEnds "%\\_.(%".toList := ⟨true, true, "\\_.(".toList, rfl, by decide⟩
  have hholds : (like ["name"] "%\\_.(%").holds (named "Ada\n\\_.( Byron") = true := by
    decide +kernel
  obtain ⟨-, -, hlike, -⟩ := holds_like_iff hpattern htexts
  exact ⟨hholds, (hlike fun _ _ => .inr hends).1 hholds⟩

/-- A percent sign between two letters does not reach over the end of a line. -/
theorem twoLines_not_like :
    (like ["name"] "a%b").holds (named "a\nb") = false ∧
      (named "a\nb").elementsAt ["name"] = [.string "a\nb"] ∧
      IsAscii "a%b".toList ∧ IsAscii "a\nb".toList ∧
      IsLike IsAnything SameLetter "a%b".toList "a\nb".toList := by
  refine ⟨by decide +kernel, rfl, by decide, by decide, ?_⟩
  refine .letter (by decide) rfl (.percent ['\n'] (fun _ _ => trivial) ?_)
  exact .letter (by decide) rfl .nil

end ListingQuery.Predicate
