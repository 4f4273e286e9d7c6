import ListingQuery.Proofs.Predicate.Mentions

/-!
# Literal occurrences

A needle that occurs in a text is found if lower-casing changes both in the same way.  It does, but
for capital sigma, whose small letter depends on what stands around it.  A sigma of the needle is
settled if the needle itself shows whether it ends a word, so that no text around the needle can
change it.

    every text with the needle in it is found ↔ every sigma of the needle is settled
                                                              (contains_finds_occurrences_iff)

So needles without capital sigma are always found.  One with a sigma at its end, such as the start
of a word that goes on, is not.
-/

namespace ListingQuery

namespace Text

open Unicode

/-! ## Sigmas -/

/-- Whether a sigma between the two texts ends a word; `before` has the nearest character first. -/
def isFinal (before after : List Char) : Bool := startsCased before && !startsCased after

/-- The text decides nothing about a letter beside it, which depends on what is farther away. -/
def IsIgnored (cs : List Char) : Prop := ∀ c ∈ cs, isCaseIgnorable c = true

/-- Whether a sigma between the two texts ends a word does not depend on what is farther away: no
letter is before it, or one behind it, or one before it and none behind it. -/
def SettlesSigma (before after : List Char) : Prop :=
  ¬IsIgnored before ∧ startsCased before = false ∨ startsCased after = true ∨
    startsCased before = true ∧ ¬IsIgnored after

/-- Every capital sigma of the text is settled by the text itself. -/
def AreSigmasSettled (cs : List Char) : Prop :=
  ∀ xs ys, cs = xs ++ 'Σ' :: ys → SettlesSigma xs.reverse ys

theorem startsCased_append_of_isIgnored {cs : List Char} (h : IsIgnored cs) (more : List Char) :
    startsCased (cs ++ more) = startsCased more := by
  rw [startsCased, List.dropWhile_append_of_pos h, startsCased]

theorem startsCased_append {cs : List Char} (h : ¬IsIgnored cs) (more : List Char) :
    startsCased (cs ++ more) = startsCased cs := by
  have hne : cs.dropWhile isCaseIgnorable ≠ [] := fun hnil => h (List.dropWhile_eq_nil_iff.1 hnil)
  obtain ⟨c, rest, hrest⟩ := List.exists_cons_of_ne_nil hne
  rw [startsCased, List.dropWhile_append, hrest, startsCased, hrest]
  rfl

theorem startsCased_of_isIgnored {cs : List Char} (h : IsIgnored cs) : startsCased cs = false := by
  rw [startsCased, List.dropWhile_eq_nil_iff.2 h]

/-- What is farther away changes nothing about a settled sigma. -/
theorem SettlesSigma.isFinal_append {before after : List Char} (h : SettlesSigma before after)
    (farBefore farAfter : List Char) :
    isFinal (before ++ farBefore) (after ++ farAfter) = isFinal before after := by
  have seen {cs : List Char} (hcs : startsCased cs = true) : ¬IsIgnored cs := fun hignored => by
    rw [startsCased_of_isIgnored hignored] at hcs
    cases hcs
  rw [isFinal, isFinal]
  rcases h with ⟨hbefore, hcased⟩ | hcased | ⟨hcased, hafter⟩
  · rw [startsCased_append hbefore, hcased, Bool.false_and, Bool.false_and]
  · rw [startsCased_append (seen hcased), hcased, Bool.not_true, Bool.and_false, Bool.and_false]
  · rw [startsCased_append (seen hcased), startsCased_append hafter]

/-- A sigma that is not settled is changed by a letter on one side. -/
theorem isFinal_ne_of_not_settlesSigma {before after : List Char}
    (h : ¬SettlesSigma before after) :
    (∀ c, startsCased [c] = true → isFinal before (after ++ [c]) ≠ isFinal before after) ∨
      ∀ c, startsCased [c] = true → isFinal (before ++ [c]) after ≠ isFinal before after := by
  simp only [SettlesSigma, not_or, not_and, not_not, Bool.not_eq_true] at h
  obtain ⟨hbefore, hafter, hopen⟩ := h
  cases hstart : startsCased before with
  | true =>
    left
    intro c hletter
    rw [isFinal, isFinal, startsCased_append_of_isIgnored (hopen hstart), hletter, hstart, hafter]
    decide
  | false =>
    right
    have hignored : IsIgnored before := by
      by_contra hnot
      exact hbefore hnot hstart
    intro c hletter
    rw [isFinal, isFinal, startsCased_append_of_isIgnored hignored, hletter, hstart, hafter]
    decide

/-! ## Letters -/

/-- Some capital letters, Latin and Greek. -/
def capitals : List Char := ['A', 'B', 'Α', 'Ε', 'Σ', 'Υ']

theorem isCased_of_mem_capitals : ∀ c ∈ capitals, isCased c = true := by
  simp only [isCased, Property.holds, Property.inTable, binaryTables, List.lookup_cons,
    String.reduceBEq, RangeTable.ofGaps, List.flatMap_cons, List.flatMap_nil]
  -- the kernel takes long to read characters off a string; off a list it does not
  repeat rw [String.toList_ofList]
  rw [← List.all_eq_true]
  decide +kernel

theorem not_isCaseIgnorable_of_mem_capitals : ∀ c ∈ capitals, isCaseIgnorable c = false := by
  simp only [isCaseIgnorable, Property.holds, Property.inTable, binaryTables, List.lookup_cons,
    String.reduceBEq, RangeTable.ofGaps, List.flatMap_cons, List.flatMap_nil]
  repeat rw [String.toList_ofList]
  simp only [← Bool.not_eq_true']
  rw [← List.all_eq_true]
  decide +kernel

theorem startsCased_of_mem_capitals {c : Char} (h : c ∈ capitals) (cs : List Char) :
    startsCased (c :: cs) = true := by
  have hseen : ¬isCaseIgnorable c = true := by simp [not_isCaseIgnorable_of_mem_capitals c h]
  rw [startsCased, List.dropWhile_cons_of_neg hseen]
  exact isCased_of_mem_capitals c h

/-! ## Parts of a text in lower case -/

/-- Lower-case a text that stands between two others; `before` is in reverse. -/
def lowerBetween : (before cs after : List Char) → List Char
  | _, [], _ => []
  | before, c :: cs, after => lowerAt before c (cs ++ after) ++ lowerBetween (c :: before) cs after

theorem lowerBehind_append (before xs ys : List Char) : lowerBehind before (xs ++ ys) =
    lowerBetween before xs ys ++ lowerBehind (xs.reverse ++ before) ys := by
  induction xs generalizing before with
  | nil => rfl
  | cons x xs ih =>
    rw [List.cons_append, lowerBehind, lowerBetween, ih, List.append_assoc, List.reverse_cons,
      List.append_assoc]
    rfl

theorem lowerBetween_append (before xs ys after : List Char) :
    lowerBetween before (xs ++ ys) after =
      lowerBetween before xs (ys ++ after) ++ lowerBetween (xs.reverse ++ before) ys after := by
  induction xs generalizing before with
  | nil => rfl
  | cons x xs ih =>
    rw [List.cons_append, lowerBetween, lowerBetween, ih, List.append_assoc, List.append_assoc,
      List.reverse_cons, List.append_assoc]
    rfl

theorem lowerChars_eq_lowerBetween (cs : List Char) : lowerChars cs = lowerBetween [] cs [] := by
  have h := lowerBehind_append [] cs []
  rwa [List.append_nil, lowerBehind, List.append_nil] at h

theorem lowerAt_sigma (before after : List Char) :
    lowerAt before 'Σ' after = [if isFinal before after then 'ς' else 'σ'] := by
  rw [lowerAt, if_pos rfl, isFinal]
  split <;> rfl

theorem eq_of_sigma_eq {b b' : Bool} (h : (if b then 'ς' else 'σ') = if b' then 'ς' else 'σ') :
    b = b' := by
  revert h
  cases b <;> cases b' <;> decide

/-- But for capital sigma, a character does not depend on what stands around it. -/
theorem lowerAt_of_ne {c : Char} (h : c ≠ 'Σ') (before after before' after' : List Char) :
    lowerAt before c after = lowerAt before' c after' := by
  rw [lowerAt, lowerAt, if_neg h, if_neg h]

theorem length_lowerAt (c : Char) (before after before' after' : List Char) :
    (lowerAt before c after).length = (lowerAt before' c after').length := by
  by_cases h : c = 'Σ'
  · subst h
    rw [lowerAt_sigma, lowerAt_sigma]
    rfl
  · rw [lowerAt_of_ne h]

theorem length_lowerBetween (cs before after before' after' : List Char) :
    (lowerBetween before cs after).length = (lowerBetween before' cs after').length := by
  induction cs generalizing before before' with
  | nil => rfl
  | cons c cs ih =>
    rw [lowerBetween, lowerBetween, List.length_append, List.length_append, ih,
      length_lowerAt c _ _ before' (cs ++ after')]

/-- A text is lower-cased in the same way wherever its sigmas are. -/
theorem lowerBetween_eq_iff {cs before after before' after' : List Char} :
    lowerBetween before cs after = lowerBetween before' cs after' ↔
      ∀ xs ys, cs = xs ++ 'Σ' :: ys → isFinal (xs.reverse ++ before) (ys ++ after) =
        isFinal (xs.reverse ++ before') (ys ++ after') := by
  constructor
  · rintro h xs ys rfl
    rw [lowerBetween_append, lowerBetween_append] at h
    have htail := (List.append_inj h (length_lowerBetween ..)).2
    rw [lowerBetween, lowerBetween, lowerAt_sigma, lowerAt_sigma] at htail
    exact eq_of_sigma_eq (List.cons.inj htail).1
  · intro h
    induction cs generalizing before before' with
    | nil => rfl
    | cons c cs ih =>
      have htail : lowerBetween (c :: before) cs after = lowerBetween (c :: before') cs after' := by
        refine ih fun xs ys hcs => ?_
        have hsigma := h (c :: xs) ys (by rw [hcs, List.cons_append])
        simpa using hsigma
      rw [lowerBetween, lowerBetween, htail]
      refine congrArg (· ++ _) ?_
      by_cases hc : c = 'Σ'
      · subst hc
        rw [lowerAt_sigma, lowerAt_sigma]
        have hsigma := h [] cs rfl
        rw [List.reverse_nil, List.nil_append, List.nil_append] at hsigma
        rw [hsigma]
      · exact lowerAt_of_ne hc ..

/-! ## Occurrences -/

/-- A letter whose small form is not this character. -/
theorem exists_letter (avoided : Option Char) : ∃ c small, startsCased [c] = true ∧
    avoided ≠ some small ∧ ∀ before after, lowerAt before c after = [small] := by
  by_cases h : avoided = some 'a'
  · exact ⟨'B', 'b', startsCased_of_mem_capitals (by decide) [], by simp [h], fun _ _ => rfl⟩
  · exact ⟨'A', 'a', startsCased_of_mem_capitals (by decide) [], h, fun _ _ => rfl⟩

/-- One more character at the end makes room for a text of the same length only at the end. -/
theorem not_infix_concat {l l' : List Char} {c : Char} (hlength : l.length = l'.length)
    (hne : l ≠ l') (hlast : l.getLast? ≠ some c) : ¬l <:+: l' ++ [c] := by
  rw [List.infix_concat_iff, List.suffix_concat_iff]
  rintro ((rfl | ⟨t, rfl, -⟩) | hocc)
  · exact hne (List.length_eq_zero_iff.1 hlength.symm).symm
  · exact hlast (by simp)
  · exact hne (hocc.eq_of_length hlength)

theorem not_infix_cons {l l' : List Char} {c : Char} (hlength : l.length = l'.length)
    (hne : l ≠ l') (hhead : l.head? ≠ some c) : ¬l <:+: c :: l' := by
  rw [List.infix_cons_iff, List.prefix_cons_iff]
  rintro ((rfl | ⟨t, rfl, -⟩) | hocc)
  · exact hne (List.length_eq_zero_iff.1 hlength.symm).symm
  · exact hhead rfl
  · exact hne (hocc.eq_of_length hlength)

/-- A text occurs in lower case wherever it occurs, if its sigmas are settled. -/
theorem lowerChars_infix {needle text : List Char} (h : AreSigmasSettled needle)
    (hocc : needle <:+: text) : lowerChars needle <:+: lowerChars text := by
  obtain ⟨before, after, rfl⟩ := hocc
  have hsame : lowerBetween [] needle [] = lowerBetween before.reverse needle after :=
    lowerBetween_eq_iff.2 fun xs ys hneedle => by
      rw [List.append_nil, List.append_nil, (h xs ys hneedle).isFinal_append]
  refine ⟨lowerBetween [] before (needle ++ after),
    lowerBehind (needle.reverse ++ before.reverse) after, ?_⟩
  rw [lowerChars_eq_lowerBetween needle, hsame, lowerChars, List.append_assoc, List.append_assoc,
    lowerBehind_append, lowerBehind_append, List.append_nil]

/-- If some sigma is not settled, there is an occurrence that is lost: a letter is enough, behind
the needle or in front of it. -/
theorem exists_lost_occurrence {needle : List Char} (h : ¬AreSigmasSettled needle) :
    ∃ text, needle <:+: text ∧ ¬lowerChars needle <:+: lowerChars text := by
  simp only [AreSigmasSettled, not_forall] at h
  obtain ⟨xs, ys, hneedle, hsigma⟩ := h
  have hne {before after : List Char} (hfinal : isFinal (xs.reverse ++ before) (ys ++ after) ≠
      isFinal xs.reverse ys) : lowerChars needle ≠ lowerBetween before needle after := by
    rw [lowerChars_eq_lowerBetween]
    intro heq
    have hsame := lowerBetween_eq_iff.1 heq xs ys hneedle
    rw [List.append_nil, List.append_nil] at hsame
    exact hfinal hsame.symm
  have hlength (before after : List Char) :
      (lowerChars needle).length = (lowerBetween before needle after).length := by
    rw [lowerChars_eq_lowerBetween]
    exact length_lowerBetween ..
  rcases isFinal_ne_of_not_settlesSigma hsigma with hbehind | hbefore
  · obtain ⟨c, small, hletter, hlast, hlower⟩ := exists_letter (lowerChars needle).getLast?
    have htext : lowerChars (needle ++ [c]) = lowerBetween [] needle [c] ++ [small] := by
      rw [lowerChars, lowerBehind_append, lowerBehind, hlower, lowerBehind, List.append_nil]
    refine ⟨needle ++ [c], List.infix_append' [] needle [c], ?_⟩
    rw [htext]
    refine not_infix_concat (hlength _ _) (hne ?_) hlast
    rw [List.append_nil]
    exact hbehind c hletter
  · obtain ⟨c, small, hletter, hhead, hlower⟩ := exists_letter (lowerChars needle).head?
    have htext : lowerChars (c :: needle) = small :: lowerBetween [c] needle [] := by
      have hbehind := lowerBehind_append [c] needle []
      rw [List.append_nil, lowerBehind, List.append_nil] at hbehind
      rw [lowerChars, lowerBehind, hlower, hbehind, List.singleton_append]
    refine ⟨c :: needle, List.infix_cons needle.infix_rfl, ?_⟩
    rw [htext]
    refine not_infix_cons (hlength _ _) (hne ?_) hhead
    rw [List.append_nil]
    exact hbefore c hletter

/-- A needle without capital sigma is settled. -/
theorem areSigmasSettled_of_notMem {cs : List Char} (h : 'Σ' ∉ cs) : AreSigmasSettled cs := by
  rintro xs ys rfl
  exact absurd (by simp) h

end Text

/-! ## Tests -/

/-- The document in which a path leads to this value alone. -/
def Json.ofPath (path : FieldPath) (v : Json) : Json :=
  path.foldr (fun key d => .object [(key, d)]) v

theorem Json.elementsAt_ofPath_string (path : FieldPath) (text : String) :
    (ofPath path (.string text)).elementsAt path = [.string text] := by
  induction path with
  | nil => rfl
  | cons key path ih =>
    have hstep : (ofPath (key :: path) (.string text)).elementsAt (key :: path) =
        (ofPath path (.string text)).elementsAt path := by
      show (Json.valuesAtKey [(key, _)] key path).flatMap elements = _
      rw [valuesAtKey, if_pos rfl, elementsAt, ofPath]
    rw [hstep, ih]

namespace Predicate

open Text

theorem holds_contains_ofPath_iff (path : FieldPath) (needle text : String) :
    (contains path needle).holds (Json.ofPath path (.string text)) = true ↔
      lowerChars needle.toList <:+: lowerChars text.toList := by
  have hvalue (e : Json) : (∃ v, (Json.ofPath path (.string text)).LiesAt path v ∧
      e ∈ v.elements) ↔ e = .string text := by
    rw [← Json.mem_elementsAt_iff, Json.elementsAt_ofPath_string, List.mem_singleton]
  rw [holds_contains_iff]
  constructor
  · rintro ⟨v, hv, e, he, t, ht, hmention⟩
    obtain rfl := (hvalue e).1 ⟨v, hv, he⟩
    cases ht
    exact hmention
  · intro hmention
    obtain ⟨v, hv, he⟩ := (hvalue _).2 rfl
    exact ⟨v, hv, _, he, text, rfl, hmention⟩

/-- A text at the path with the needle in it, character for character, is always found exactly if
every sigma of the needle is settled.  Those of a needle without capital sigma are. -/
theorem contains_finds_occurrences_iff (path : FieldPath) (needle : String) :
    ((∀ (d : Json) (text : String), .string text ∈ d.elementsAt path →
        needle.toList <:+: text.toList → (contains path needle).holds d = true) ↔
      AreSigmasSettled needle.toList) ∧
    ('Σ' ∉ needle.toList → AreSigmasSettled needle.toList) := by
  refine ⟨⟨fun hfound => ?_, fun hsettled d text htext hocc => ?_⟩, areSigmasSettled_of_notMem⟩
  · by_contra hnot
    obtain ⟨text, hocc, hlost⟩ := exists_lost_occurrence hnot
    have hmem : Json.string (String.ofList text) ∈
        (Json.ofPath path (.string (String.ofList text))).elementsAt path := by
      rw [Json.elementsAt_ofPath_string]
      exact List.mem_singleton_self _
    have hholds := hfound _ _ hmem (by rwa [String.toList_ofList])
    rw [holds_contains_ofPath_iff, String.toList_ofList] at hholds
    exact hlost hholds
  · obtain ⟨v, hv, he⟩ := Json.mem_elementsAt_iff.1 htext
    exact (holds_contains_iff _ _ _).2
      ⟨v, hv, _, he, text, rfl, lowerChars_infix hsettled hocc⟩

/-- A traveller, by name. -/
def odysseus : Json := .ofPath ["name"] (.string "ΟΔΥΣΣΕΑΣ")

theorem middleOfName_found :
    (AreSigmasSettled "ΣΣΕ".toList ∧ .string "ΟΔΥΣΣΕΑΣ" ∈ odysseus.elementsAt ["name"] ∧
      "ΣΣΕ".toList <:+: "ΟΔΥΣΣΕΑΣ".toList) ∧
    (contains ["name"] "ΣΣΕ").holds odysseus = true := by
  have hcased {c : Char} (h : c ∈ capitals) := startsCased_of_mem_capitals h
  have hsettled : AreSigmasSettled "ΣΣΕ".toList := by
    rintro xs ys h
    -- behind either sigma stands a letter
    rcases xs with _ | ⟨x, _ | ⟨x', xs⟩⟩
    · obtain rfl : ['Σ', 'Ε'] = ys := (List.cons.inj h).2
      exact .inr (.inl (hcased (by decide) _))
    · obtain rfl : ['Ε'] = ys := (List.cons.inj (List.cons.inj h).2).2
      exact .inr (.inl (hcased (by decide) _))
    · have hlast : ['Ε'] = xs ++ 'Σ' :: ys := (List.cons.inj (List.cons.inj h).2).2
      cases xs with
      | nil => exact absurd (List.cons.inj hlast).1 (by decide)
      | cons x'' xs => exact absurd (List.cons.inj hlast).2 (by simp)
  have hmem : .string "ΟΔΥΣΣΕΑΣ" ∈ odysseus.elementsAt ["name"] := List.mem_singleton_self _
  have hocc : "ΣΣΕ".toList <:+: "ΟΔΥΣΣΕΑΣ".toList :=
    ⟨"ΟΔΥ".toList, "ΑΣ".toList, by decide⟩
  exact ⟨⟨hsettled, hmem, hocc⟩,
    (contains_finds_occurrences_iff ["name"] "ΣΣΕ").1.2 hsettled _ _ hmem hocc⟩

/-- The start of a name ends in a sigma that takes its final form there, and not in the name. -/
theorem startOfName_not_found :
    .string "ΟΔΥΣΣΕΑΣ" ∈ odysseus.elementsAt ["name"] ∧ "ΟΔΥΣ" ≠ "" ∧
      "ΟΔΥΣ".toList <:+: "ΟΔΥΣΣΕΑΣ".toList ∧ (contains ["name"] "ΟΔΥΣ").holds odysseus = false := by
  have hname : lowerChars "ΟΔΥΣΣΕΑΣ".toList = "οδυσσεας".toList := by
    simp (disch := decide) [lowerChars, lowerBehind, lowerAt, startsCased_of_mem_capitals]
    decide
  have hstart : lowerChars "ΟΔΥΣ".toList = "οδυς".toList := by
    simp (disch := decide) [lowerChars, lowerBehind, lowerAt, startsCased_of_mem_capitals]
    decide
  refine ⟨List.mem_singleton_self _, by decide, ⟨[], "ΣΕΑΣ".toList, by decide⟩, ?_⟩
  rw [odysseus, ← Bool.not_eq_true, holds_contains_ofPath_iff, hname, hstart]
  rw [← hasInfix_iff]
  decide

end Predicate

end ListingQuery
