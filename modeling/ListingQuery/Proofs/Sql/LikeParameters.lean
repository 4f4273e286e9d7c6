import ListingQuery.Proofs.Predicate.Mentions
import ListingQuery.Proofs.Predicate.Wildcards
import ListingQuery.Proofs.Sql.Parameters

/-!
# Bound patterns

SQL reads a bound pattern character by character: a percent sign is any text, an underscore any one
character, and what follows a backslash is itself.  The patterns bound for like tests and for tests of
contained texts select the same texts, in lower case, as the tests on documents
(`bound_patterns_agree`), and none ends in a backslash that escapes nothing.
-/

namespace ListingQuery.Sql

open LikePattern (IsLike IsAnything)
open Text (lowerChars lowerAt lowerBehind)

/-! ## Patterns as SQL reads them -/

/-- The text is like the pattern in SQL, where a backslash escapes. -/
inductive IsSqlLike : (text pattern : List Char) → Prop
  | nil : IsSqlLike [] []
  | percent {t q : List Char} (skipped : List Char) (hrest : IsSqlLike t q) :
      IsSqlLike (skipped ++ t) ('%' :: q)
  | underscore {t q : List Char} (c : Char) (hrest : IsSqlLike t q) : IsSqlLike (c :: t) ('_' :: q)
  | escaped {t q : List Char} (c : Char) (hrest : IsSqlLike t q) :
      IsSqlLike (c :: t) ('\\' :: c :: q)
  | letter {c : Char} {t q : List Char} (hpercent : c ≠ '%') (hunderscore : c ≠ '_')
      (hbackslash : c ≠ '\\') (hrest : IsSqlLike t q) : IsSqlLike (c :: t) (c :: q)

/-- The pattern ends in a backslash that escapes nothing; `escaping` says whether one stands before
it. -/
def IsDangling : (escaping : Bool) → (pattern : List Char) → Prop
  | escaping, [] => escaping = true
  | escaping, c :: q => IsDangling (!escaping && c == '\\') q

variable {t q m : List Char} {c : Char}

theorem isSqlLike_nil_iff : IsSqlLike t [] ↔ t = [] := by
  constructor
  · rintro ⟨⟩
    rfl
  · rintro rfl
    exact .nil

theorem isSqlLike_percent_iff : IsSqlLike t ('%' :: q) ↔ ∃ u v, t = u ++ v ∧ IsSqlLike v q := by
  constructor
  · intro h
    cases h with
    | percent u hrest => exact ⟨u, _, rfl, hrest⟩
    | letter hpercent => exact absurd rfl hpercent
  · rintro ⟨u, v, rfl, hrest⟩
    exact .percent u hrest

theorem isSqlLike_escaped_iff :
    IsSqlLike t ('\\' :: c :: q) ↔ ∃ s, t = c :: s ∧ IsSqlLike s q := by
  constructor
  · intro h
    cases h with
    | escaped _ hrest => exact ⟨_, rfl, hrest⟩
    | letter _ _ hbackslash => exact absurd rfl hbackslash
  · rintro ⟨s, rfl, hrest⟩
    exact .escaped c hrest

theorem isSqlLike_letter_iff (hpercent : c ≠ '%') (hunderscore : c ≠ '_') (hbackslash : c ≠ '\\') :
    IsSqlLike t (c :: q) ↔ ∃ s, t = c :: s ∧ IsSqlLike s q := by
  constructor
  · intro h
    cases h with
    | percent => exact absurd rfl hpercent
    | underscore => exact absurd rfl hunderscore
    | escaped => exact absurd rfl hbackslash
    | letter _ _ _ hrest => exact ⟨_, rfl, hrest⟩
  · rintro ⟨s, rfl, hrest⟩
    exact .letter hpercent hunderscore hbackslash hrest

/-! ## Escaped signs -/

/-- A sign, with a backslash before it if it is special. -/
def escapedSign (isSpecial : Char → Bool) (c : Char) : List Char :=
  if isSpecial c then ['\\', c] else [c]

/-- The signs that are escaped in a like pattern. -/
def isLikeSign (c : Char) : Bool := c == '_' || c == '\\'

/-- The signs that are escaped in a text to be contained. -/
def isContainsSign (c : Char) : Bool := isLikeSign c || c == '%'

theorem escapeLike_eq (cs : List Char) : escapeLike cs = cs.flatMap (escapedSign isLikeSign) := by
  unfold escapeLike escapedSign isLikeSign
  simp

theorem replaceChar_escapeLike (cs : List Char) :
    Text.replaceChar '%' ['\\', '%'] (escapeLike cs) = cs.flatMap (escapedSign isContainsSign) := by
  unfold Text.replaceChar escapeLike
  rw [List.flatMap_assoc]
  refine congrArg (cs.flatMap ·) (funext fun c => ?_)
  by_cases hunderscore : c = '_'
  · subst hunderscore
    rfl
  by_cases hbackslash : c = '\\'
  · subst hbackslash
    rfl
  by_cases hpercent : c = '%'
  · subst hpercent
    rfl
  simp [escapedSign, isContainsSign, isLikeSign, hunderscore, hbackslash, hpercent]

/-- A sign that is escaped where SQL would read more into it stands for itself. -/
theorem isSqlLike_escapedSign_iff {isSpecial : Char → Bool}
    (hspecial : isSpecial c = false → c ≠ '%' ∧ c ≠ '_' ∧ c ≠ '\\') :
    IsSqlLike t (escapedSign isSpecial c ++ q) ↔ ∃ s, t = c :: s ∧ IsSqlLike s q := by
  unfold escapedSign
  by_cases h : isSpecial c = true
  · rw [if_pos h]
    exact isSqlLike_escaped_iff
  · obtain ⟨hpercent, hunderscore, hbackslash⟩ := hspecial (Bool.eq_false_iff.2 h)
    rw [if_neg h]
    exact isSqlLike_letter_iff hpercent hunderscore hbackslash

/-- An escaped text between percent signs is that of the texts which contain it. -/
theorem isSqlLike_contains_iff :
    IsSqlLike t ('%' :: (m.flatMap (escapedSign isContainsSign) ++ ['%'])) ↔ m <:+: t := by
  have hplain (c : Char) (h : isContainsSign c = false) : c ≠ '%' ∧ c ≠ '_' ∧ c ≠ '\\' := by
    simp only [isContainsSign, isLikeSign, Bool.or_eq_false_iff, beq_eq_false_iff_ne] at h
    exact ⟨h.2, h.1.1, h.1.2⟩
  have hfront (v : List Char) :
      IsSqlLike v (m.flatMap (escapedSign isContainsSign) ++ ['%']) ↔ m <+: v := by
    induction m generalizing v with
    | nil =>
      refine iff_of_true ?_ List.nil_prefix
      exact isSqlLike_percent_iff.2 ⟨v, [], by simp, .nil⟩
    | cons c m ih =>
      rw [List.flatMap_cons, List.append_assoc, isSqlLike_escapedSign_iff (hplain c)]
      constructor
      · rintro ⟨s, rfl, hrest⟩
        exact List.cons_prefix_cons.2 ⟨rfl, (ih s).1 hrest⟩
      · rintro ⟨s, rfl⟩
        exact ⟨m ++ s, rfl, (ih _).2 (List.prefix_append m s)⟩
  rw [isSqlLike_percent_iff]
  constructor
  · rintro ⟨u, v, rfl, hrest⟩
    obtain ⟨s, rfl⟩ := (hfront v).1 hrest
    exact ⟨u, s, List.append_assoc u m s⟩
  · rintro ⟨u, s, rfl⟩
    exact ⟨u, m ++ s, List.append_assoc u m s, (hfront _).2 (List.prefix_append m s)⟩

/-! ## Lower case -/

/-- Small letters are not special, so a text of ASCII may be lower-cased before it is escaped. -/
theorem lowerChars_escaped {isSpecial : Char → Bool} (hm : IsAscii m)
    (hspecial : ∀ c, isSpecial c.toLower = isSpecial c) :
    lowerChars (m.flatMap (escapedSign isSpecial)) =
      (m.map Char.toLower).flatMap (escapedSign isSpecial) := by
  have hascii : IsAscii (m.flatMap (escapedSign isSpecial)) := by
    intro c hc
    obtain ⟨d, hd, hc⟩ := List.mem_flatMap.1 hc
    unfold escapedSign at hc
    split at hc
    · rcases List.mem_cons.1 hc with rfl | hc
      · decide
      · rw [List.mem_singleton.1 hc]
        exact hm d hd
    · rw [List.mem_singleton.1 hc]
      exact hm d hd
  rw [Text.lowerChars_of_isAscii hascii, List.map_flatMap, List.flatMap_map]
  refine congrArg (m.flatMap ·) (funext fun c => ?_)
  unfold escapedSign
  rw [hspecial]
  by_cases h : isSpecial c = true
  · rw [if_pos h, if_pos h]
    rfl
  · rw [if_neg h, if_neg h]
    rfl

theorem isLikeSign_toLower (c : Char) : isLikeSign c.toLower = isLikeSign c := by
  have hunderscore : c.toLower = '_' ↔ c = '_' := toLower_eq_iff (by decide) (by decide)
  have hbackslash : c.toLower = '\\' ↔ c = '\\' := toLower_eq_iff (by decide) (by decide)
  rw [Bool.eq_iff_iff]
  simp [isLikeSign, hunderscore, hbackslash]

theorem isContainsSign_toLower (c : Char) : isContainsSign c.toLower = isContainsSign c := by
  have hpercent : c.toLower = '%' ↔ c = '%' := toLower_eq_iff (by decide) (by decide)
  unfold isContainsSign
  rw [isLikeSign_toLower, Bool.eq_iff_iff]
  simp [hpercent]

/-- In lower case a text is like the bound pattern exactly if it is like the pattern up to case. -/
theorem isSqlLike_toLower_iff {p : List Char} :
    IsSqlLike (t.map Char.toLower) ((p.map Char.toLower).flatMap (escapedSign isLikeSign)) ↔
      IsLike IsAnything SameLetter p t := by
  induction p generalizing t with
  | nil =>
    rw [LikePattern.isLike_nil_iff]
    exact isSqlLike_nil_iff.trans List.map_eq_nil_iff
  | cons a p ih =>
    rw [List.map_cons, List.flatMap_cons]
    by_cases ha : a = '%'
    · subst ha
      rw [LikePattern.isLike_percent_iff]
      refine isSqlLike_percent_iff.trans ?_
      constructor
      · rintro ⟨_, _, hcut, hrest⟩
        obtain ⟨u, v, rfl, rfl, rfl⟩ := List.map_eq_append_iff.1 hcut
        exact ⟨u, v, rfl, fun _ _ => trivial, ih.1 hrest⟩
      · rintro ⟨u, v, rfl, -, hrest⟩
        exact ⟨_, _, List.map_append, ih.2 hrest⟩
    · have hplain (h : isLikeSign a.toLower = false) :
          a.toLower ≠ '%' ∧ a.toLower ≠ '_' ∧ a.toLower ≠ '\\' := by
        have hpercent : a.toLower = '%' ↔ a = '%' := toLower_eq_iff (by decide) (by decide)
        simp only [isLikeSign, Bool.or_eq_false_iff, beq_eq_false_iff_ne] at h
        exact ⟨mt hpercent.1 ha, h⟩
      rw [isSqlLike_escapedSign_iff hplain, LikePattern.isLike_letter_iff ha]
      constructor
      · rintro ⟨_, hcons, hrest⟩
        obtain ⟨c, s, rfl, hc, rfl⟩ := List.map_eq_cons_iff.1 hcons
        exact ⟨c, s, rfl, hc.symm, ih.1 hrest⟩
      · rintro ⟨c, s, rfl, hc, hrest⟩
        exact ⟨s.map Char.toLower, by rw [List.map_cons, hc], ih.2 hrest⟩

/-! ## Dangling escapes -/

theorem isDangling_append_iff {u : List Char} (hu : '\\' ∉ u) :
    IsDangling false (u ++ q) ↔ IsDangling false q := by
  induction u with
  | nil => exact Iff.rfl
  | cons c u ih =>
    obtain ⟨hc, hu⟩ := not_or.1 (mt List.mem_cons.2 hu)
    have hplain : (!false && c == '\\') = false := by simpa using Ne.symm hc
    rw [List.cons_append, IsDangling, hplain, ih hu]

theorem notMem_lowerAt {before after : List Char} (hc : c ≠ '\\') :
    '\\' ∉ lowerAt before c after := by
  unfold lowerAt
  split
  · split <;> decide
  · split
    · decide
    · intro hmem
      exact hc (Unicode.toLower_eq_backslash (List.mem_singleton.1 hmem).symm)

/-- Lower-casing parts no backslash from the sign that it escapes. -/
theorem not_isDangling_lowerBehind {isSpecial : Char → Bool} (hbackslash : isSpecial '\\' = true)
    (hsign : ∀ c, isSpecial c = true → c = '_' ∨ c = '\\' ∨ c = '%') (htail : '\\' ∉ q) :
    ∀ before, ¬IsDangling false (lowerBehind before (m.flatMap (escapedSign isSpecial)) ++ q) := by
  induction m with
  | nil =>
    intro before h
    rw [← List.append_nil q] at h
    exact Bool.false_ne_true ((isDangling_append_iff htail).1 h)
  | cons c m ih =>
    intro before
    rw [List.flatMap_cons]
    by_cases h : isSpecial c = true
    · have hunchanged (before after : List Char) : lowerAt before c after = [c] := by
        rcases hsign c h with rfl | rfl | rfl <;> rfl
      rw [escapedSign, if_pos h]
      have hread : lowerBehind before (['\\', c] ++ m.flatMap (escapedSign isSpecial)) ++ q =
          '\\' :: c ::
            (lowerBehind (c :: '\\' :: before) (m.flatMap (escapedSign isSpecial)) ++ q) := by
        show lowerAt before '\\' _ ++ (lowerAt _ c _ ++ _) ++ q = _
        rw [hunchanged]
        rfl
      rw [hread]
      exact ih (c :: '\\' :: before)
    · have hc : c ≠ '\\' := by
        rintro rfl
        exact h hbackslash
      rw [escapedSign, if_neg h]
      show ¬IsDangling false ((lowerAt before c _ ++ lowerBehind (c :: before) _) ++ q)
      rw [List.append_assoc, isDangling_append_iff (notMem_lowerAt hc)]
      exact ih (c :: before)

/-- The pattern of a test, if it is a test of likeness. -/
def ColumnTest.pattern? : ColumnTest → Option String
  | like _ pattern => some pattern
  | textLike _ pattern => some pattern
  | _ => none

theorem not_isDangling_likePattern (pattern : String) :
    ¬IsDangling false (likePattern pattern).toList := by
  have hsign (c : Char) (h : isLikeSign c = true) : c = '_' ∨ c = '\\' ∨ c = '%' := by
    simp only [isLikeSign, Bool.or_eq_true, beq_iff_eq] at h
    exact h.imp id .inl
  unfold likePattern
  rw [String.toList_ofList, escapeLike_eq, ← List.append_nil (lowerChars _)]
  exact not_isDangling_lowerBehind rfl hsign (by simp) []

theorem not_isDangling_containsPattern (needle : String) :
    ¬IsDangling false (containsPattern needle).toList := by
  have hsign (c : Char) (h : isContainsSign c = true) : c = '_' ∨ c = '\\' ∨ c = '%' := by
    simp only [isContainsSign, isLikeSign, Bool.or_eq_true, beq_iff_eq, or_assoc] at h
    exact h
  have hopening (q : List Char) : IsDangling false ('%' :: q) ↔ IsDangling false q :=
    isDangling_append_iff (u := ['%']) (by decide)
  unfold containsPattern
  rw [String.toList_ofList, replaceChar_escapeLike, hopening]
  exact not_isDangling_lowerBehind rfl hsign (by decide) []

/-- The tests of a condition are those of the tests of the predicate, besides constants. -/
theorem forall_test_mem_conditionTokens {P : ColumnTest → Prop}
    (hconstant : ∀ truth, P (.constant truth))
    (htest : ∀ p : Predicate, p.isTest = true → ∀ scope test,
      .test test ∈ conditionTokens scope p → P test) (p : Predicate) :
    ∀ scope test, .test test ∈ conditionTokens scope p → P test := by
  have hsingle (truth : Bool) (test : ColumnTest)
      (h : ConditionToken.test test ∈ [ConditionToken.test (.constant truth)]) : P test := by
    cases List.mem_singleton.1 h
    exact hconstant truth
  have hgroup {ts : List ConditionToken} {test : ColumnTest}
      (h : .test test ∈ parenthesized ts) : .test test ∈ ts := by
    simpa [parenthesized] using h
  have hconnected {word : ConditionToken} {test : ColumnTest} (hword : word ≠ .test test)
      {rows : List (List ConditionToken)} (h : .test test ∈ connected word rows) :
      ∃ ts ∈ rows, .test test ∈ ts := by
    induction rows with
    | nil => cases h
    | cons ts rows ih =>
      cases rows with
      | nil => exact ⟨ts, List.mem_cons_self, h⟩
      | cons us rows =>
        rw [connected_cons_cons, List.mem_append, List.mem_cons] at h
        rcases h with h | h | h
        · exact ⟨ts, List.mem_cons_self, h⟩
        · exact absurd h.symm hword
        · obtain ⟨vs, hvs, hmem⟩ := ih h
          exact ⟨vs, List.mem_cons_of_mem _ hvs, hmem⟩
  induction p using Predicate.connectiveInduction with
  | always => exact fun _ => hsingle true
  | never => exact fun _ => hsingle false
  | test p ht => exact htest p ht
  | nested field p ih => exact fun scope => ih (scope ++ field)
  | not p ih =>
    intro scope test h
    rw [conditionTokens, List.mem_cons] at h
    exact ih scope test (hgroup (h.resolve_left (by simp)))
  | and parts ih =>
    intro scope test h
    rw [conditionTokens, conjunctTokens_eq_map] at h
    obtain ⟨ts, hts, hmem⟩ := hconnected (by simp) h
    obtain ⟨p, hp, rfl⟩ := List.mem_map.1 hts
    split at hmem
    · exact ih p hp scope test (hgroup hmem)
    · exact ih p hp scope test hmem
  | or parts ih =>
    intro scope test h
    rw [conditionTokens, disjunctTokens_eq_map] at h
    obtain ⟨ts, hts, hmem⟩ := hconnected (by simp) h
    obtain ⟨p, hp, rfl⟩ := List.mem_map.1 hts
    exact ih p hp scope test (hgroup hmem)

/-- No condition binds a pattern with a backslash at its end that escapes nothing. -/
theorem not_isDangling_of_mem (p : Predicate) (scope : FieldPath) (test : ColumnTest)
    (h : .test test ∈ conditionTokens scope p) :
    ∀ pattern, test.pattern? = some pattern → ¬IsDangling false pattern.toList := by
  refine forall_test_mem_conditionTokens
    (P := fun test => ∀ pattern, test.pattern? = some pattern → ¬IsDangling false pattern.toList)
    (fun _ _ hnone => by cases hnone) ?_ p scope test h
  intro p ht scope test h pattern hpattern
  cases p with
  | like field text =>
    cases List.mem_singleton.1 h
    cases hpattern
    exact not_isDangling_likePattern text
  | contains field needle =>
    cases List.mem_singleton.1 h
    cases hpattern
    exact not_isDangling_containsPattern needle
  | present field wanted =>
    cases wanted <;> cases List.mem_singleton.1 h <;> cases hpattern
  | _ =>
    first
    | (cases List.mem_singleton.1 h; cases hpattern)
    | cases ht

/-! ## Agreement -/

theorem isSqlLike_containsPattern_iff {needle : String} (hneedle : IsAscii needle.toList) :
    IsSqlLike t (containsPattern needle).toList ↔ lowerChars needle.toList <:+: t := by
  unfold containsPattern
  rw [String.toList_ofList, replaceChar_escapeLike,
    lowerChars_escaped hneedle isContainsSign_toLower, isSqlLike_contains_iff,
    Text.lowerChars_of_isAscii hneedle]

theorem isSqlLike_likePattern_iff {pattern : String} (hpattern : IsAscii pattern.toList)
    (ht : IsAscii t) : IsSqlLike (lowerChars t) (likePattern pattern).toList ↔
      IsLike IsAnything SameLetter pattern.toList t := by
  unfold likePattern
  rw [String.toList_ofList, escapeLike_eq, lowerChars_escaped hpattern isLikeSign_toLower,
    Text.lowerChars_of_isAscii ht, isSqlLike_toLower_iff]

/-- A pattern that a test of a condition asks for is among the parameters of the statement. -/
theorem mem_parameters_of_mem {t : Table} {r : Request} {p : Predicate} {test : ColumnTest}
    {pattern : String} (h : .test test ∈ conditionTokens [] p)
    (hpattern : test.pattern? = some pattern) :
    .string pattern ∈ (r.statement t p).parameters := by
  have hbound : .bound (.string pattern) ∈ test.fragments t.dialect := by
    cases test <;> cases hpattern <;> simp [ColumnTest.fragments]
  rw [Request.parameters_statement, ← boundValues_conditionFragments (d := t.dialect)]
  refine List.mem_filterMap.2 ⟨.bound (.string pattern), ?_, rfl⟩
  exact List.mem_flatMap.2 ⟨.test test, h, hbound⟩

/-- The patterns that a statement binds for tests of contained texts and for like tests select, in
lower case, the texts that the tests on documents hold of; for like tests this needs texts of ASCII
that are single lines, or patterns that are open at their ends only.  All patterns that tests ask for
are bound, and none ends in a backslash that escapes nothing. -/
theorem bound_patterns_agree (t : Table) (r : Request) {field : FieldPath} {pattern : String}
    {d : Json} (hpattern : IsAscii pattern.toList)
    (htexts : ∀ s, .string s ∈ d.elementsAt field → IsAscii s.toList) :
    (∃ q, (r.statement t (.contains field pattern)).parameters = [.string q] ∧
      ((Predicate.contains field pattern).holds d = true ↔
        ∃ e ∈ d.elementsAt field, ∃ text, e.scalarText? = some text ∧
          IsSqlLike (lowerChars text.toList) q.toList)) ∧
    (∃ q, (r.statement t (.like field pattern)).parameters = [.string q] ∧
      ((∀ s, .string s ∈ d.elementsAt field →
          '\n' ∉ s.toList ∨ Predicate.HasWildEnds pattern.toList) →
        ((Predicate.like field pattern).holds d = true ↔
          ∃ s, .string s ∈ d.elementsAt field ∧ IsSqlLike (lowerChars s.toList) q.toList))) ∧
    ∀ (p : Predicate) (test : ColumnTest), .test test ∈ conditionTokens [] p →
      ∀ q, test.pattern? = some q →
        .string q ∈ (r.statement t p).parameters ∧ ¬IsDangling false q.toList := by
  refine ⟨⟨containsPattern pattern, ?_, ?_⟩, ⟨likePattern pattern, ?_, fun hsimple => ?_⟩, ?_⟩
  · rw [Request.parameters_statement]
    rfl
  · rw [holds_contains_iff]
    simp only [isSqlLike_containsPattern_iff hpattern, Json.mem_elementsAt_iff, Json.Mentions]
    constructor
    · rintro ⟨v, hv, e, he, htext⟩
      exact ⟨e, ⟨v, hv, he⟩, htext⟩
    · rintro ⟨e, ⟨v, hv, he⟩, htext⟩
      exact ⟨v, hv, e, he, htext⟩
  · rw [Request.parameters_statement]
    rfl
  · rw [Predicate.holds_like_iff_accepts]
    refine exists_congr fun s => and_congr_right fun hs => ?_
    rw [isSqlLike_likePattern_iff hpattern (htexts s hs),
      Predicate.accepts_iff_of_isAscii hpattern (htexts s hs)]
    exact Predicate.isLikeByLines_iff_isLike (hsimple s hs)
  · intro p test h q hq
    exact ⟨mem_parameters_of_mem h hq, not_isDangling_of_mem p [] test h q hq⟩

/-- A text that contains the sign of the pattern is found by containment, and not as a whole. -/
theorem discount_patterns_agree :
    (∃ q, (Request.count.statement ordersTable (.contains ["name"] "50%_")).parameters =
        [.string q] ∧ IsSqlLike (lowerChars "Less 50%_ OFF".toList) q.toList) ∧
      ∃ q, (Request.count.statement ordersTable (.like ["name"] "50%_")).parameters =
        [.string q] ∧ ¬IsSqlLike (lowerChars "Less 50%_ OFF".toList) q.toList := by
  have hfound : (Predicate.named "Less 50%_ OFF").elementsAt ["name"] =
      [.string "Less 50%_ OFF"] := rfl
  have hpattern : IsAscii "50%_".toList := by decide
  have htexts : ∀ s, .string s ∈ (Predicate.named "Less 50%_ OFF").elementsAt ["name"] →
      IsAscii s.toList := by
    intro s hs
    rw [hfound] at hs
    cases List.mem_singleton.1 hs
    decide
  have hline : ∀ s, .string s ∈ (Predicate.named "Less 50%_ OFF").elementsAt ["name"] →
      '\n' ∉ s.toList ∨ Predicate.HasWildEnds "50%_".toList := by
    intro s hs
    rw [hfound] at hs
    cases List.mem_singleton.1 hs
    exact .inl (by decide)
  have hcontains : (Predicate.contains ["name"] "50%_").holds (Predicate.named "Less 50%_ OFF") =
      true := by
    decide +kernel
  have hlike : (Predicate.like ["name"] "50%_").holds (Predicate.named "Less 50%_ OFF") = false := by
    decide +kernel
  obtain ⟨⟨q, hq, hiff⟩, ⟨q', hq', hiff'⟩, -⟩ :=
    bound_patterns_agree ordersTable .count hpattern htexts
  refine ⟨⟨q, hq, ?_⟩, q', hq', fun hsql => ?_⟩
  · obtain ⟨e, he, text, htext, hsql⟩ := hiff.1 hcontains
    rw [hfound] at he
    cases List.mem_singleton.1 he
    cases htext
    exact hsql
  · have hholds := (hiff' hline).2 ⟨_, by rw [hfound]; exact List.mem_singleton_self _, hsql⟩
    rw [hlike] at hholds
    cases hholds

end ListingQuery.Sql
