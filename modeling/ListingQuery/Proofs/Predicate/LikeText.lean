import ListingQuery.Proofs.Predicate.LikePattern
import ListingQuery.Regex.Parser

/-!
# Like patterns as text

The regular expression that a like pattern is written as is read back, token by token, with the flag
for ignoring case set.  Characters with a meaning of their own are escaped, so each is read as itself,
and what is read finds the texts that the pattern accepts                  (`regexText_reads`).
-/

namespace ListingQuery.Regex

open Pattern (lastOf firstOf)

/-! ## Reading tokens -/

/-- Reading with this state comes to the end of the text in that state. -/
def ReadsTo (st : Progress) (cs : List Char) (st' : Progress) : Prop :=
  ∀ fuel, cs.length < fuel → readTokens fuel st cs = some st'

/-- The flags of matching that ignores case. -/
def caseless : Flags := { ignoreCase := true }

/-- Add a piece that may be repeated to the innermost group. -/
def Progress.push (st : Progress) (p : Pattern) (height : Nat) : Progress :=
  { st with group := st.group.add ⟨p, height, true⟩ }

variable {st st' : Progress} {c : Char} {cs rest : List Char}

theorem readsTo_nil (h : st.flags = caseless) : ReadsTo st [] st := by
  intro fuel hfuel
  obtain ⟨fuel, rfl⟩ : ∃ n, fuel = n + 1 := ⟨fuel - 1, by omega⟩
  unfold readTokens
  rw [h]
  rfl

theorem readsTo_cons {next : Progress} (h : st.flags = caseless)
    (htoken : readToken st c cs = some (next, rest)) (hrest : rest.length ≤ cs.length)
    (hnext : ReadsTo next rest st') : ReadsTo st (c :: cs) st' := by
  intro fuel hfuel
  obtain ⟨fuel, rfl⟩ : ∃ n, fuel = n + 1 := ⟨fuel - 1, by omega⟩
  have hskip : Spacing.skip st.flags.spaced (c :: cs) = c :: cs := by
    rw [h]
    rfl
  have hlater := hnext fuel (by simp at hfuel; omega)
  unfold readTokens
  rw [hskip]
  simp only [htoken]
  exact hlater

/-! ## Tokens of a like pattern -/

/-- What is read as an atom is a token of its own, unless it begins like a group, a class, a bar or a
repetition. -/
theorem readToken_atom {p : Pattern} (hatom : readAtom st.flags (c :: cs) = some (p, rest))
    (hc : c ∉ "()|[?*+\x7b".toList) : readToken st c cs = some (st.push p 0, rest) := by
  unfold readToken
  split
  all_goals first | (exact absurd (by decide) hc) | skip
  rw [hatom]
  rfl

theorem readAtom_plain (hc : isMeta c = false) :
    readAtom caseless (c :: cs) = some (anyCase c, cs) := by
  have hmeta {d : Char} (hd : isMeta d = true) : c ≠ d := by
    rintro rfl
    rw [hc] at hd
    cases hd
  unfold readAtom
  split
  · next heq => cases heq
  · next heq => exact absurd (List.cons.inj heq).1 (hmeta (by decide))
  · next heq => exact absurd (List.cons.inj heq).1 (hmeta (by decide))
  · next heq => exact absurd (List.cons.inj heq).1 (hmeta (by decide))
  · next heq => exact absurd (List.cons.inj heq).1 (hmeta (by decide))
  · next heq =>
    cases heq
    rfl

theorem readToken_plain (h : st.flags = caseless) (hc : isMeta c = false) :
    readToken st c cs = some (st.push (anyCase c) 0, cs) := by
  refine readToken_atom (h ▸ readAtom_plain hc) fun hmem => ?_
  have hmeta : "()|[?*+\x7b".toList.all isMeta = true := by decide
  rw [List.all_eq_true.1 hmeta c hmem] at hc
  cases hc

theorem readEscape_of_isMeta (hc : isMeta c = true) :
    readEscape caseless (c :: cs) = some (.char c false, cs) := by
  have hletter : ∀ d ∈ "xuUpPdswDSW".toList, c ≠ d := by
    have hplain : "xuUpPdswDSW".toList.all (!isMeta ·) = true := by decide
    rintro d hd rfl
    have hnot := List.all_eq_true.1 hplain c hd
    rw [hc] at hnot
    cases hnot
  have hescapable : isEscapable c = true := by
    unfold isEscapable
    rw [hc, Bool.true_or]
  simp only [readEscape, hletter 'x' (by decide), hletter 'u' (by decide), hletter 'U' (by decide),
    hletter 'p' (by decide), hletter 'P' (by decide), hletter 'd' (by decide),
    hletter 's' (by decide), hletter 'w' (by decide), hletter 'D' (by decide),
    hletter 'S' (by decide), hletter 'W' (by decide), hescapable, or_self, if_false, if_true]

theorem readToken_escaped (h : st.flags = caseless) (hc : isMeta c = true) :
    readToken st '\\' (c :: cs) = some (st.push (anyCase c) 0, cs) := by
  refine readToken_atom ?_ (by decide)
  rw [h]
  simp only [readAtom, readEscape_of_isMeta hc]
  rfl

theorem readToken_textStart (h : st.flags = caseless) :
    readToken st '^' cs = some (st.push (.anchor .textStart) 0, cs) :=
  readToken_atom (by rw [h]; rfl) (by decide)

theorem readToken_textEnd (h : st.flags = caseless) :
    readToken st '$' cs = some (st.push (.anchor .textEnd) 0, cs) :=
  readToken_atom (by rw [h]; rfl) (by decide)

/-- Any characters of a line take two tokens; what follows must not make them lazy. -/
theorem readsTo_anyText (h : st.flags = caseless) (hlazy : cs.head? ≠ some '?')
    (hrest : ReadsTo (st.push anyWithinLine 1) cs st') :
    ReadsTo st (LikePattern.anyText ++ cs) st' := by
  have hdot : readToken st '.' ('*' :: cs) =
      some (st.push (.chars (.complement (.single '\n'))) 0, '*' :: cs) :=
    readToken_atom (by rw [h]; rfl) (by decide)
  have hskip : skipLazy cs = cs := by
    unfold skipLazy
    split
    · exact absurd rfl hlazy
    · rfl
  have hstar : readToken (st.push (.chars (.complement (.single '\n'))) 0) '*' cs =
      some (st.push anyWithinLine 1, cs) := by
    show some (_, skipLazy cs) = _
    rw [hskip]
    rfl
  exact readsTo_cons h hdot (Nat.le_refl _) (readsTo_cons h hstar (Nat.le_refl _) hrest)

end ListingQuery.Regex

namespace ListingQuery.LikePattern

open Regex (Pattern Progress caseless ReadsTo isMeta)
open Text (splitOn)

/-- How a character of a pattern is written. -/
def charText (a : Char) : List Char :=
  if a = '%' then anyText else if isMeta a then ['\\', a] else [a]

/-- The height of the piece for a character of a pattern. -/
def charHeight (a : Char) : Nat := if a = '%' then 1 else 0

theorem joinParts_escaped (p : List Char) :
    joinParts anyText ((splitOn '%' p).map Regex.escaped) = p.flatMap charText := by
  have hcons (part : List Char) (parts : List (List Char)) (front : List Char) :
      joinParts anyText ((front ++ part) :: parts) = front ++ joinParts anyText (part :: parts) := by
    cases parts <;> simp [joinParts]
  induction p with
  | nil => rfl
  | cons a p ih =>
    obtain ⟨part, parts, hparts⟩ := List.exists_cons_of_ne_nil (Text.splitOn_ne_nil '%' p)
    rw [hparts, List.map_cons] at ih
    rw [List.flatMap_cons, ← ih]
    by_cases ha : a = '%'
    · subst ha
      rw [splitOn, if_pos rfl, hparts]
      rfl
    · rw [splitOn, if_neg ha, hparts, charText, if_neg ha, List.map_cons, ← hcons]
      rfl

theorem head?_charText_ne (a : Char) (rest : List Char) :
    (charText a ++ rest).head? ≠ some '?' := by
  unfold charText
  split
  · exact fun h => absurd (Option.some.inj h) (by decide)
  · split
    · exact fun h => absurd (Option.some.inj h) (by decide)
    · next hmeta =>
      intro h
      obtain rfl : a = '?' := Option.some.inj h
      exact hmeta (by decide)

/-- The state once the characters of a pattern have been read. -/
def pushAll (st : Progress) (p : List Char) : Progress :=
  p.foldl (fun st a => st.push (charRegex a) (charHeight a)) st

theorem readsTo_charText {st st' : Progress} {p rest : List Char} (h : st.flags = caseless)
    (hlazy : rest.head? ≠ some '?') (hrest : ReadsTo (pushAll st p) rest st') :
    ReadsTo st (p.flatMap charText ++ rest) st' := by
  induction p generalizing st with
  | nil => exact hrest
  | cons a p ih =>
    have hnext : ReadsTo (st.push (charRegex a) (charHeight a)) (p.flatMap charText ++ rest) st' :=
      ih h hrest
    rw [List.flatMap_cons, List.append_assoc]
    by_cases ha : a = '%'
    · subst ha
      refine Regex.readsTo_anyText h ?_ hnext
      cases p with
      | nil => exact hlazy
      | cons b p =>
        rw [List.flatMap_cons, List.append_assoc]
        exact head?_charText_ne b _
    · rw [charRegex, if_neg ha, charHeight, if_neg ha] at hnext
      rw [charText, if_neg ha]
      by_cases hmeta : isMeta a = true
      · rw [if_pos hmeta]
        exact Regex.readsTo_cons h (Regex.readToken_escaped h hmeta) (Nat.le_succ _) hnext
      · rw [if_neg hmeta]
        exact Regex.readsTo_cons h (Regex.readToken_plain h (Bool.eq_false_iff.2 hmeta))
          (Nat.le_refl _) hnext

/-- How an end of a pattern is written. -/
def endText (isFree : Bool) (sign : Char) : List Char := if isFree then anyText else [sign]

theorem regexText_eq {pattern : String} {opensFree endsFree : Bool} {body : List Char}
    (h : ofChars pattern.toList = ⟨opensFree, endsFree, splitOn '%' body⟩) :
    (regexText pattern).toList =
      endText opensFree '^' ++ (body.flatMap charText ++ endText endsFree '$') := by
  unfold regexText
  rw [h, String.toList_ofList, joinParts_escaped, List.append_assoc]
  rfl

theorem readsTo_endText {st st' : Progress} {rest : List Char} {isFree : Bool} {sign : Char}
    {anchor : Regex.Anchor} (h : st.flags = caseless) (hlazy : rest.head? ≠ some '?')
    (hsign : Regex.readToken st sign rest = some (st.push (.anchor anchor) 0, rest))
    (hrest : ReadsTo (st.push (endRegex isFree anchor) isFree.toNat) rest st') :
    ReadsTo st (endText isFree sign ++ rest) st' := by
  cases isFree with
  | true => exact Regex.readsTo_anyText h hlazy hrest
  | false => exact Regex.readsTo_cons h hsign (Nat.le_refl _) hrest

/-- The piece for a character of a pattern. -/
def charPiece (a : Char) : Regex.Piece := ⟨charRegex a, charHeight a, true⟩

/-- Nothing but the parts of the innermost group has changed. -/
theorem pushAll_eq (st : Progress) (p : List Char) : pushAll st p =
    { st with
      group := { st.group with parts := (p.map charPiece).reverse ++ st.group.parts } } := by
  induction p generalizing st with
  | nil => rfl
  | cons a p ih =>
    rw [List.map_cons, List.reverse_cons, List.append_assoc]
    exact ih (st.push (charRegex a) (charHeight a))

/-- The state before anything has been read. -/
def start : Progress := { flags := caseless }

/-- The text is read as the pattern, with case ignored and up to the limit on its size. -/
def IsReadAs (text : String) (r : Pattern) : Prop :=
  ∃ st, Regex.readTokens (text.toList.length + 1) start text.toList = some st ∧
    st.outer = [] ∧ st.group.contents.height ≤ Regex.heightLimit ∧ st.group.contents.pattern = r

/-- A regular expression without groups is read as its parts in a row. -/
theorem isReadAs_of_readsTo {text : String} {st : Progress} {ps : List Pattern}
    (h : ReadsTo start text.toList st) (houter : st.outer = []) (hbars : st.group.alternatives = [])
    (hparts : st.group.parts.reverse.map (·.pattern) = ps) (hmany : 2 ≤ st.group.parts.length)
    (hflat : ∀ piece ∈ st.group.parts, piece.height ≤ 1) :
    IsReadAs text (Pattern.sequence ps) := by
  have hcontents : st.group.contents =
      ⟨Pattern.sequence ps, Regex.Piece.heightAround st.group.parts, true⟩ := by
    unfold Regex.OpenGroup.contents
    rw [hbars, ← hparts]
    show Regex.Piece.sequence st.group.parts = _
    unfold Regex.Piece.sequence
    split
    · next hnone =>
      rw [hnone] at hmany
      simp at hmany
    · next hone =>
      rw [hone] at hmany
      simp at hmany
    · rfl
  have hheight : Regex.Piece.heightAround st.group.parts ≤ 2 := by
    have hmax : ∀ (ps : List Regex.Piece) (n : Nat), n ≤ 1 → (∀ piece ∈ ps, piece.height ≤ 1) →
        (ps.map (·.height)).foldl max n ≤ 1 := by
      intro ps
      induction ps with
      | nil => exact fun n hn _ => hn
      | cons piece ps ih =>
        intro n hn hps
        obtain ⟨hpiece, hps⟩ := List.forall_mem_cons.1 hps
        exact ih _ (Nat.max_le.2 ⟨hn, hpiece⟩) hps
    exact Nat.succ_le_succ (hmax _ 0 (Nat.zero_le 1) hflat)
  refine ⟨st, h _ (Nat.lt_succ_self _), houter, ?_, by rw [hcontents]⟩
  rw [hcontents]
  exact Nat.le_trans hheight (by decide)

theorem head?_endText_ne {isFree : Bool} {sign : Char} (hsign : sign ≠ '?') :
    (endText isFree sign).head? ≠ some '?' := by
  cases isFree with
  | true => exact fun h => absurd (Option.some.inj h) (by decide)
  | false => exact fun h => hsign (Option.some.inj h)

/-- The pieces that the text of a pattern is read as. -/
def pieces (opensFree endsFree : Bool) (body : List Char) : List Pattern :=
  endRegex opensFree .textStart :: (body.map charRegex ++ [endRegex endsFree .textEnd])

theorem same_pieces {pattern : String} {opensFree endsFree : Bool} {body : List Char}
    (h : ofChars pattern.toList = ⟨opensFree, endsFree, splitOn '%' body⟩) :
    (Pattern.sequence (pieces opensFree endsFree body)).Same (regex pattern) := by
  have hbody : (Pattern.sequence (body.map charRegex ++ [endRegex endsFree .textEnd])).Same
      (.seq (partsRegex (splitOn '%' body)) (endRegex endsFree .textEnd)) :=
    (Pattern.same_sequence_append _ _).trans ((same_partsRegex body).symm.seq (.refl _))
  rw [regex_eq h]
  exact (Pattern.same_sequence_cons _ _).trans ((Pattern.Same.refl _).seq hbody)

theorem isBounded_pieces (opensFree endsFree : Bool) (body : List Char) :
    (Pattern.sequence (pieces opensFree endsFree body)).IsBounded := by
  refine Pattern.isBounded_sequence fun p hp => ?_
  simp only [pieces, List.mem_cons, List.mem_append, List.mem_map] at hp
  rcases hp with rfl | ⟨a, -, rfl⟩ | rfl | h
  · exact isBounded_endRegex opensFree _
  · exact isBounded_charRegex a
  · exact isBounded_endRegex endsFree _
  · cases h

/-- The text of a pattern is a regular expression that finds the texts which the pattern accepts. -/
theorem regexText_reads (pattern : String) :
    ∃ r, IsReadAs (regexText pattern) r ∧ ∀ text, r.search text = accepts pattern text := by
  obtain ⟨opensFree, endsFree, body, hchars, -⟩ := ofChars_eq pattern.toList
  let opened := start.push (endRegex opensFree .textStart) opensFree.toNat
  let read := pushAll opened body
  let closed := read.push (endRegex endsFree .textEnd) endsFree.toNat
  have hread : read = { opened with
      group := { opened.group with parts := (body.map charPiece).reverse ++ opened.group.parts } } :=
    pushAll_eq opened body
  have hflags : read.flags = caseless := by rw [hread]; rfl
  have hreads : ReadsTo start (regexText pattern).toList closed := by
    have hlast : (endText endsFree '$').head? ≠ some '?' := head?_endText_ne (by decide)
    have hend : ReadsTo read (endText endsFree '$') closed := by
      rw [← List.append_nil (endText endsFree '$')]
      exact readsTo_endText hflags (by simp) (Regex.readToken_textEnd hflags)
        (Regex.readsTo_nil hflags)
    have hbody : (body.flatMap charText ++ endText endsFree '$').head? ≠ some '?' := by
      cases body with
      | nil => exact hlast
      | cons a body =>
        rw [List.flatMap_cons, List.append_assoc]
        exact head?_charText_ne a _
    rw [regexText_eq hchars]
    exact readsTo_endText rfl hbody (Regex.readToken_textStart rfl)
      (readsTo_charText rfl hlast hend)
  have hparts : closed.group.parts = ⟨endRegex endsFree .textEnd, endsFree.toNat, true⟩ ::
      ((body.map charPiece).reverse ++
        [⟨endRegex opensFree .textStart, opensFree.toNat, true⟩]) := by
    show _ :: read.group.parts = _
    rw [hread]
    rfl
  refine ⟨Pattern.sequence (pieces opensFree endsFree body), ?_, fun text => ?_⟩
  · refine isReadAs_of_readsTo hreads ?_ ?_ ?_ ?_ ?_
    · show read.outer = []
      rw [hread]
      rfl
    · show read.group.alternatives = []
      rw [hread]
      rfl
    · rw [hparts]
      simp [pieces, charPiece, Function.comp_def]
    · rw [hparts]
      simp
    · have hbool (b : Bool) : b.toNat ≤ 1 := by cases b <;> decide
      have hchar (a : Char) : charHeight a ≤ 1 := by
        unfold charHeight
        split <;> decide
      rw [hparts]
      simp only [List.mem_cons, List.mem_append, List.mem_reverse, List.mem_map]
      rintro piece (rfl | ⟨a, -, rfl⟩ | rfl | h)
      · exact hbool endsFree
      · exact hchar a
      · exact hbool opensFree
      · cases h
  · exact (same_pieces hchars).search_eq (isBounded_pieces opensFree endsFree body)
      (isBounded_regex pattern) text

end ListingQuery.LikePattern
