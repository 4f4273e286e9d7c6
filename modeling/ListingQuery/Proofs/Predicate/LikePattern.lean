import ListingQuery.Predicate.LikePattern
import ListingQuery.Proofs.Regex.Meaning

/-!
# What like patterns accept

A text is like a pattern if it falls into what the characters of the pattern stand for, one after the
other.  The regular expression of a pattern is searched for, not matched as a whole, so a percent
sign at either end stands for any characters at all.  Those in between stand for characters of one
line                                                                       (`accepts_iff`).
-/

namespace ListingQuery.LikePattern

open Regex (Pattern anyCase anyWithinLine)
open Regex.Pattern (lastOf firstOf)
open Text (splitOn)

/-! ## Likeness -/

/-- The text is like the pattern: a percent sign stands for any characters that `skips` holds of,
every other character for one that it `stands` for. -/
inductive IsLike (skips : Char → Prop) (stands : Char → Char → Prop) :
    (pattern text : List Char) → Prop
  | nil : IsLike skips stands [] []
  | letter {a c : Char} {p t : List Char} (hletter : a ≠ '%') (hstands : stands a c)
      (hrest : IsLike skips stands p t) : IsLike skips stands (a :: p) (c :: t)
  | percent {p t : List Char} (skipped : List Char) (hskips : ∀ c ∈ skipped, skips c)
      (hrest : IsLike skips stands p t) : IsLike skips stands ('%' :: p) (skipped ++ t)

variable {skips : Char → Prop} {stands : Char → Char → Prop} {a : Char} {p q t : List Char}

theorem isLike_nil_iff : IsLike skips stands [] t ↔ t = [] := by
  constructor
  · rintro ⟨⟩
    rfl
  · rintro rfl
    exact .nil

theorem isLike_letter_iff (ha : a ≠ '%') : IsLike skips stands (a :: p) t ↔
    ∃ c s, t = c :: s ∧ stands a c ∧ IsLike skips stands p s := by
  constructor
  · intro h
    cases h with
    | letter _ hstands hrest => exact ⟨_, _, rfl, hstands, hrest⟩
    | percent => exact absurd rfl ha
  · rintro ⟨c, s, rfl, hstands, hrest⟩
    exact .letter ha hstands hrest

theorem isLike_percent_iff : IsLike skips stands ('%' :: p) t ↔
    ∃ u v, t = u ++ v ∧ (∀ c ∈ u, skips c) ∧ IsLike skips stands p v := by
  constructor
  · intro h
    cases h with
    | letter hletter => exact absurd rfl hletter
    | percent u hskips hrest => exact ⟨u, _, rfl, hskips, hrest⟩
  · rintro ⟨u, v, rfl, hskips, hrest⟩
    exact .percent u hskips hrest

theorem isLike_append_iff : IsLike skips stands (p ++ q) t ↔
    ∃ u v, t = u ++ v ∧ IsLike skips stands p u ∧ IsLike skips stands q v := by
  constructor
  · intro h
    induction p generalizing t with
    | nil => exact ⟨[], t, rfl, .nil, h⟩
    | cons a p ih =>
      by_cases ha : a = '%'
      · subst ha
        obtain ⟨u, _, rfl, hskips, hrest⟩ := isLike_percent_iff.1 h
        obtain ⟨v, w, rfl, hv, hw⟩ := ih hrest
        exact ⟨u ++ v, w, (List.append_assoc u v w).symm, .percent u hskips hv, hw⟩
      · obtain ⟨c, _, rfl, hstands, hrest⟩ := (isLike_letter_iff ha).1 h
        obtain ⟨v, w, rfl, hv, hw⟩ := ih hrest
        exact ⟨c :: v, w, rfl, .letter ha hstands hv, hw⟩
  · rintro ⟨u, v, rfl, hu, hv⟩
    induction hu with
    | nil => exact hv
    | letter ha hstands _ ih => exact .letter ha hstands ih
    | percent u hskips _ ih =>
      rw [List.append_assoc]
      exact .percent u hskips ih

/-- What is like a pattern stays so if the pattern is read more widely, where this concerns the
characters of the text. -/
theorem IsLike.mono {skips' : Char → Prop} {stands' : Char → Char → Prop}
    (h : IsLike skips stands p t) (hskips : ∀ c ∈ t, skips c → skips' c)
    (hstands : ∀ a ∈ p, ∀ c ∈ t, stands a c → stands' a c) : IsLike skips' stands' p t := by
  induction h with
  | nil => exact .nil
  | letter ha hac _ ih =>
    refine .letter ha (hstands _ List.mem_cons_self _ List.mem_cons_self hac) (ih ?_ ?_)
    · exact fun c hc => hskips c (List.mem_cons_of_mem _ hc)
    · exact fun b hb c hc => hstands b (List.mem_cons_of_mem _ hb) c (List.mem_cons_of_mem _ hc)
  | percent u hu _ ih =>
    refine .percent u (fun c hc => hskips c (List.mem_append_left _ hc) (hu c hc)) (ih ?_ ?_)
    · exact fun c hc => hskips c (List.mem_append_right _ hc)
    · exact fun b hb c hc => hstands b (List.mem_cons_of_mem _ hb) c (List.mem_append_right _ hc)

/-- Without percent signs nothing is skipped. -/
theorem IsLike.of_notMem (h : IsLike skips stands p t) (hp : '%' ∉ p) (skips' : Char → Prop) :
    IsLike skips' stands p t := by
  induction h with
  | nil => exact .nil
  | letter ha hac _ ih => exact .letter ha hac (ih (List.not_mem_of_not_mem_cons hp))
  | percent => exact absurd List.mem_cons_self hp

/-! ## The regular expression -/

/-- The characters are the same up to case. -/
def SameFolded (a c : Char) : Prop := (Regex.CharSet.folded (.single a)).contains c.toNat = true

/-- The character belongs to a line, which its end does not. -/
def IsInline (c : Char) : Prop := c ≠ '\n'

/-- Any character at all. -/
def IsAnything (_ : Char) : Prop := True

/-- The regular expression for a character of a pattern. -/
def charRegex (a : Char) : Pattern := if a = '%' then anyWithinLine else anyCase a

theorem matches_anyWithinLine {before after : Option Char} {s : List Char} :
    anyWithinLine.Matches before s after ↔ ∀ c ∈ s, IsInline c := by
  unfold anyWithinLine
  rw [Pattern.matches_rep_chars]
  refine forall₂_congr fun c _ => ?_
  have hnewline : c = '\n' ↔ c.toNat = 10 := by
    rw [← Char.toNat_inj]
    rfl
  have hcontains : (Regex.CharSet.complement (.single '\n')).contains c.toNat =
      !(decide (10 ≤ c.toNat) && decide (c.toNat ≤ 10)) := rfl
  rw [hcontains, IsInline, Ne, hnewline, Bool.not_eq_true', Bool.and_eq_false_iff,
    decide_eq_false_iff_not, decide_eq_false_iff_not]
  omega

/-- A pattern is like the texts that the regular expressions of its characters match. -/
theorem matches_charRegex_iff {before after : Option Char} :
    (Pattern.sequence (p.map charRegex)).Matches before t after ↔
      IsLike IsInline SameFolded p t := by
  induction p generalizing before t with
  | nil => exact isLike_nil_iff.symm
  | cons a p ih =>
    rw [List.map_cons, Pattern.same_sequence_cons, Pattern.matches_seq]
    by_cases ha : a = '%'
    · subst ha
      rw [isLike_percent_iff]
      refine exists₂_congr fun u v => and_congr_right fun _ => and_congr ?_ ih
      exact matches_anyWithinLine
    · rw [isLike_letter_iff ha, charRegex, if_neg ha]
      constructor
      · rintro ⟨_, v, rfl, ⟨c, rfl, hc⟩, hv⟩
        exact ⟨c, v, rfl, hc, ih.1 hv⟩
      · rintro ⟨c, v, rfl, hc, hv⟩
        exact ⟨[c], v, rfl, ⟨c, rfl, hc⟩, ih.2 hv⟩

/-- The parts of a pattern are matched like its characters. -/
theorem same_partsRegex (p : List Char) :
    (partsRegex (splitOn '%' p)).Same (Pattern.sequence (p.map charRegex)) := by
  induction p with
  | nil => exact .refl _
  | cons a p ih =>
    rw [List.map_cons]
    refine Pattern.Same.trans ?_ (Pattern.same_sequence_cons (charRegex a) _).symm
    obtain ⟨part, parts, hparts⟩ := List.exists_cons_of_ne_nil (Text.splitOn_ne_nil '%' p)
    rw [hparts] at ih
    by_cases ha : a = '%'
    · subst ha
      rw [splitOn, if_pos rfl, hparts]
      exact (Pattern.same_empty_seq _).trans ((Pattern.Same.refl anyWithinLine).seq ih)
    · have hpart : (partRegex (a :: part)).Same (.seq (anyCase a) (partRegex part)) :=
        Pattern.same_sequence_cons _ _
      have hcons : (partsRegex ((a :: part) :: parts)).Same
          (.seq (anyCase a) (partsRegex (part :: parts))) := by
        cases parts with
        | nil => exact hpart
        | cons next parts => exact (hpart.seq (.refl _)).trans (Pattern.same_seq_assoc _ _ _)
      rw [splitOn, if_neg ha, hparts, charRegex, if_neg ha]
      exact hcons.trans ((Pattern.Same.refl (anyCase a)).seq ih)

/-! ## Ends -/

/-- The percent sign at an end that is open. -/
def endSign (isFree : Bool) : List Char := if isFree then ['%'] else []

theorem cutEnd?_eq (cs : List Char) :
    (∃ body, cs = body ++ ['%'] ∧ cutEnd? cs = some body) ∨
      (cs.getLast? ≠ some '%' ∧ cutEnd? cs = none) := by
  unfold cutEnd?
  by_cases hlast : cs.getLast? = some '%'
  · refine .inl ⟨cs.dropLast, (List.dropLast_append_getLast? '%' hlast).symm, ?_⟩
    simp only [hlast]
  · refine .inr ⟨hlast, ?_⟩
    split
    · next h => exact absurd h hlast
    · rfl

theorem ofChars_of_head?_ne {cs : List Char} (h : cs.head? ≠ some '%') :
    ofChars cs = ((cutEnd? cs).map fun body => ⟨false, true, splitOn '%' body⟩).getD
      ⟨false, false, splitOn '%' cs⟩ := by
  unfold ofChars
  split
  next heq =>
    split at heq
    · exact absurd rfl h
    · cases heq
      cases cutEnd? cs <;> rfl

/-- A pattern is put together again from its ends and its parts.  Only of a single percent sign is the
end not open. -/
theorem ofChars_eq (cs : List Char) : ∃ opensFree endsFree body,
    ofChars cs = ⟨opensFree, endsFree, splitOn '%' body⟩ ∧
    cs = endSign opensFree ++ (body ++ endSign endsFree) ∧
    (cs.head? = some '%' ↔ opensFree = true) ∧
    (cs ≠ ['%'] → (cs.getLast? = some '%' ↔ endsFree = true)) := by
  by_cases hfirst : cs.head? = some '%'
  · obtain ⟨rest, rfl⟩ : ∃ rest, cs = '%' :: rest := List.head?_eq_some_iff.1 hfirst
    rcases cutEnd?_eq rest with ⟨body, rfl, hcut⟩ | ⟨hlast, hcut⟩
    · have hlast : ('%' :: (body ++ ['%'])).getLast? = some '%' := by
        rw [← List.cons_append, List.getLast?_concat]
      refine ⟨true, true, body, ?_, rfl, by simp, by simp only [hlast, implies_true]⟩
      simp only [ofChars, hcut]
    · refine ⟨true, false, rest, ?_, by simp [endSign], by simp, fun hne => ?_⟩
      · simp only [ofChars, hcut]
      · have hrest : rest ≠ [] := fun h => hne (by rw [h])
        rw [List.getLast?_cons_of_ne_nil hrest]
        simp [hlast]
  · rcases cutEnd?_eq cs with ⟨body, hcs, hcut⟩ | ⟨hlast, hcut⟩
    · refine ⟨false, true, body, ?_, hcs, by simpa using hfirst, by simp [hcs]⟩
      rw [ofChars_of_head?_ne hfirst, hcut]
      rfl
    · refine ⟨false, false, cs, ?_, by simp [endSign], by simpa using hfirst, by simp [hlast]⟩
      rw [ofChars_of_head?_ne hfirst, hcut]
      rfl

/-- The pattern for an end of a text. -/
def endRegex (isFree : Bool) (a : Regex.Anchor) : Pattern :=
  if isFree then anyWithinLine else .anchor a

theorem matches_endRegex_iff {isFree : Bool} {anchor : Regex.Anchor} {before after : Option Char} :
    (endRegex isFree anchor).Matches before t after ↔
      IsLike IsInline SameFolded (endSign isFree) t ∧
        (isFree = false → anchor.holds before after = true) := by
  cases isFree with
  | true =>
    show anyWithinLine.Matches before t after ↔ IsLike IsInline SameFolded ['%'] t ∧ _
    rw [matches_anyWithinLine, isLike_percent_iff]
    simp [isLike_nil_iff]
  | false =>
    show (Pattern.anchor anchor).Matches before t after ↔ IsLike IsInline SameFolded [] t ∧ _
    rw [Pattern.matches_anchor, isLike_nil_iff]
    simp

/-- The text is like the pattern, where percent signs at the ends stand for any characters and those
in between for characters of one line. -/
def IsLikeByLines (stands : Char → Char → Prop) (p t : List Char) : Prop :=
  ∃ u w v, t = u ++ (w ++ v) ∧ (u ≠ [] → p.head? = some '%') ∧ (v ≠ [] → p.getLast? = some '%') ∧
    IsLike IsInline stands p w

theorem lastOf_none_eq_none_iff {s : List Char} : lastOf none s = none ↔ s = [] := by
  have hsome (c : Char) (s : List Char) : lastOf (some c) s ≠ none := by
    induction s generalizing c with
    | nil => simp
    | cons d s ih => exact ih d
  cases s with
  | nil => simp
  | cons c s => simp [hsome]

theorem firstOf_none_eq_none_iff {s : List Char} : firstOf s none = none ↔ s = [] := by
  cases s <;> simp

theorem isBounded_anyWithinLine : anyWithinLine.IsBounded := ⟨trivial, by simp⟩

theorem isBounded_partsRegex : ∀ parts, (partsRegex parts).IsBounded := by
  have hpart (part : List Char) : (partRegex part).IsBounded := by
    refine Pattern.isBounded_sequence fun p hp => ?_
    obtain ⟨c, -, rfl⟩ := List.mem_map.1 hp
    trivial
  intro parts
  induction parts with
  | nil => trivial
  | cons part parts ih =>
    cases parts with
    | nil => exact hpart part
    | cons next parts => exact ⟨hpart part, isBounded_anyWithinLine, ih⟩

theorem isBounded_endRegex (isFree : Bool) (a : Regex.Anchor) : (endRegex isFree a).IsBounded := by
  cases isFree with
  | true => exact isBounded_anyWithinLine
  | false => trivial

theorem isBounded_charRegex (a : Char) : (charRegex a).IsBounded := by
  unfold charRegex
  split
  · exact isBounded_anyWithinLine
  · trivial

theorem isBounded_regex (pattern : String) : (regex pattern).IsBounded :=
  ⟨isBounded_endRegex _ _, isBounded_partsRegex _, isBounded_endRegex _ _⟩

theorem regex_eq {pattern : String} {opensFree endsFree : Bool} {body : List Char}
    (h : ofChars pattern.toList = ⟨opensFree, endsFree, splitOn '%' body⟩) :
    regex pattern = .seq (endRegex opensFree .textStart)
      (.seq (partsRegex (splitOn '%' body)) (endRegex endsFree .textEnd)) := by
  unfold regex
  rw [h]
  rfl

/-- What a pattern accepts. -/
theorem accepts_iff (pattern text : String) :
    accepts pattern text = true ↔ IsLikeByLines SameFolded pattern.toList text.toList := by
  obtain ⟨opensFree, endsFree, body, hparts, hpattern, hopens, hends⟩ := ofChars_eq pattern.toList
  have hmatches (before after : Option Char) (w : List Char) :
      (regex pattern).Matches before w after ↔ IsLike IsInline SameFolded pattern.toList w ∧
        (opensFree = false → before = none) ∧ (endsFree = false → after = none) := by
    rw [regex_eq hparts, hpattern, isLike_append_iff]
    simp only [Pattern.matches_seq, matches_endRegex_iff, same_partsRegex body _ _ _,
      matches_charRegex_iff, isLike_append_iff (p := body), Regex.Anchor.holds,
      Option.isNone_iff_eq_none]
    constructor
    · rintro ⟨u, _, rfl, ⟨hu, hbefore⟩, v, x, rfl, hv, hx, hafter⟩
      exact ⟨⟨u, v ++ x, rfl, hu, v, x, rfl, hv, hx⟩, hbefore, hafter⟩
    · rintro ⟨⟨u, _, rfl, hu, v, x, rfl, hv, hx⟩, hbefore, hafter⟩
      exact ⟨u, v ++ x, rfl, ⟨hu, hbefore⟩, v, x, rfl, hv, hx, hafter⟩
  unfold accepts
  rw [Pattern.search_iff (isBounded_regex pattern)]
  simp only [hmatches]
  by_cases hsingle : pattern.toList = ['%']
  · -- a single percent sign accepts every text, from its end
    have hopen : opensFree = true := hopens.1 (by rw [hsingle]; rfl)
    have hnothing : IsLike IsInline SameFolded ['%'] [] := .percent [] (by simp) .nil
    rw [hsingle]
    refine iff_of_true ⟨text.toList, [], [], by simp, hnothing, by simp [hopen], by simp⟩ ?_
    exact ⟨text.toList, [], [], by simp, by simp, by simp, hnothing⟩
  · have hfree {isFree : Bool} {P Q : Prop} (h : P ↔ isFree = true) :
        (isFree = false → Q) ↔ (¬Q → P) := by
      rw [h]
      cases isFree <;> simp
    unfold IsLikeByLines
    simp only [hfree hopens, hfree (hends hsingle), lastOf_none_eq_none_iff,
      firstOf_none_eq_none_iff]
    refine exists_congr fun u => exists_congr fun w => exists_congr fun v => ?_
    constructor
    · exact fun ⟨htext, hlike, hu, hv⟩ => ⟨htext, hu, hv, hlike⟩
    · exact fun ⟨htext, hu, hv, hlike⟩ => ⟨htext, hlike, hu, hv⟩

/-! ## Lines -/

/-- Reading percent signs by lines is narrower than reading them as any characters. -/
theorem IsLikeByLines.isLike (h : IsLikeByLines stands p t) : IsLike IsAnything stands p t := by
  obtain ⟨u, w, v, rfl, hu, hv, hlike⟩ := h
  have hw : IsLike IsAnything stands p w :=
    hlike.mono (fun _ _ _ => trivial) fun _ _ _ _ hac => hac
  have hwv : IsLike IsAnything stands p (w ++ v) := by
    by_cases hempty : v = []
    · rw [hempty, List.append_nil]
      exact hw
    · obtain ⟨q, rfl⟩ := List.getLast?_eq_some_iff.1 (hv hempty)
      obtain ⟨x, y, rfl, hx, hy⟩ := isLike_append_iff.1 hw
      refine isLike_append_iff.2 ⟨x, y ++ v, List.append_assoc x y v, hx, ?_⟩
      exact isLike_percent_iff.2 ⟨y ++ v, [], by simp, fun _ _ => trivial, .nil⟩
  by_cases hempty : u = []
  · rw [hempty]
    exact hwv
  · obtain ⟨q, rfl⟩ := List.head?_eq_some_iff.1 (hu hempty)
    obtain ⟨x, y, hcut, -, hy⟩ := isLike_percent_iff.1 hwv
    rw [hcut]
    exact isLike_percent_iff.2 ⟨u ++ x, y, by simp, fun _ _ => trivial, hy⟩

/-- On one line the two readings are the same. -/
theorem isLikeByLines_iff_of_inline (ht : ∀ c ∈ t, IsInline c) :
    IsLikeByLines stands p t ↔ IsLike IsAnything stands p t := by
  refine ⟨IsLikeByLines.isLike, fun h => ?_⟩
  have hlike : IsLike IsInline stands p t :=
    h.mono (fun c hc _ => ht c hc) fun _ _ _ _ hac => hac
  exact ⟨[], t, [], by simp, by simp, by simp, hlike⟩

/-- For a pattern with percent signs at its ends only the two readings are the same. -/
theorem isLikeByLines_iff_of_ends {opensFree endsFree : Bool} {body : List Char}
    (hp : p = endSign opensFree ++ (body ++ endSign endsFree)) (hbody : '%' ∉ body) :
    IsLikeByLines stands p t ↔ IsLike IsAnything stands p t := by
  have hnothing (isFree : Bool) : IsLike IsInline stands (endSign isFree) [] := by
    cases isFree with
    | true => exact .percent [] (by simp) .nil
    | false => exact .nil
  have hclosed {isFree : Bool} {s : List Char} (h : IsLike IsAnything stands (endSign isFree) s)
      (hs : s ≠ []) : isFree = true := by
    cases isFree with
    | true => rfl
    | false => exact absurd (isLike_nil_iff.1 h) hs
  refine ⟨IsLikeByLines.isLike, fun h => ?_⟩
  rw [hp, isLike_append_iff] at h
  obtain ⟨u, _, rfl, hu, h⟩ := h
  obtain ⟨w, v, rfl, hw, hv⟩ := isLike_append_iff.1 h
  have hlike : IsLike IsInline stands p w := by
    rw [hp, isLike_append_iff]
    refine ⟨[], w, rfl, hnothing opensFree, isLike_append_iff.2 ⟨w, [], by simp, ?_, ?_⟩⟩
    · exact hw.of_notMem hbody _
    · exact hnothing endsFree
  refine ⟨u, w, v, rfl, fun hne => ?_, fun hne => ?_, hlike⟩
  · rw [hp, hclosed hu hne]
    rfl
  · rw [hp, hclosed hv hne, ← List.append_assoc]
    exact List.getLast?_concat

end ListingQuery.LikePattern
