import ListingQuery.Proofs.Sql.Precedence

/-!
# Whether a condition means its predicate

The reading of a predicate's row has the tests of the predicate, in the same order.  The two agree if
they have the same truth value however truth values are assigned to the tests.  OR outside
parentheses keeps a part of a conjunction from being one factor, so that what AND connects it with is
bypassed; then the two differ:

    p solid → (Agrees (reading scope p) p ↔ p hides no disjunction)
                                             (agrees_reading, differs_reading)

To show that they differ, the other parts are made true, or false, as far as they are concerned: a
solid predicate and its reading can be given either value.         (mirrors_reading)
-/

namespace ListingQuery.Sql

open Predicate

/-! ## The parts of a conjunction or disjunction -/

/-- The condition has the tests of the predicate, and all that OR connects in it can be made true, or
false, together with the predicate. -/
structure Mirrors (c : Condition) (p : Predicate) : Prop where
  testCount : c.testCount = p.testCount
  uniform : ∀ b, ∃ bs : List Bool, bs.length = p.testCount ∧ p.truth bs = b ∧ c.IsUniform b bs

/-- No assignment tells the condition from the predicate. -/
def Agrees (c : Condition) (p : Predicate) : Prop :=
  ∀ bs : List Bool, bs.length = p.testCount → c.value bs = p.truth bs

/-- Some assignment tells the condition from the predicate. -/
def Differs (c : Condition) (p : Predicate) : Prop :=
  ∃ bs : List Bool, bs.length = p.testCount ∧ c.value bs ≠ p.truth bs

theorem Mirrors.value {c : Condition} {p : Predicate} (h : Mirrors c p) (b : Bool) :
    ∃ bs : List Bool, bs.length = p.testCount ∧ p.truth bs = b ∧ c.value bs = b := by
  obtain ⟨bs, hlen, htruth, hc⟩ := h.uniform b
  exact ⟨bs, hlen, htruth, Condition.value_of_isUniform hc⟩

/-- Parentheses keep what can be made true or false. -/
theorem Mirrors.group {c : Condition} {p : Predicate} (h : Mirrors c p) :
    Mirrors (.ofFactor (.group c)) p :=
  ⟨h.testCount, h.value⟩

/-- An assignment for the first part and one for the others. -/
theorem length_append_of_parts {p : Predicate} {ps : List Predicate} {bs bs' : List Bool}
    (hlen : bs.length = p.testCount) (hlen' : bs'.length = testCounts ps) :
    (bs ++ bs').length = testCounts (p :: ps) := by
  rw [List.length_append, hlen, hlen']
  rfl

theorem truth_and_cons {p : Predicate} {ps : List Predicate} {bs bs' : List Bool}
    (hlen : bs.length = p.testCount) :
    (Predicate.and (p :: ps)).truth (bs ++ bs') = (p.truth bs && (Predicate.and ps).truth bs') := by
  rw [truth, allTrue, List.take_left' hlen, List.drop_left' hlen, truth]

theorem truth_or_cons {p : Predicate} {ps : List Predicate} {bs bs' : List Bool}
    (hlen : bs.length = p.testCount) :
    (Predicate.or (p :: ps)).truth (bs ++ bs') = (p.truth bs || (Predicate.or ps).truth bs') := by
  rw [truth, anyTrue, List.take_left' hlen, List.drop_left' hlen, truth]

/-- A single part of a conjunction. -/
theorem truth_and_singleton (p : Predicate) {bs : List Bool} (hlen : bs.length = p.testCount) :
    (Predicate.and [p]).truth bs = p.truth bs := by
  rw [truth, allTrue, allTrue, List.take_of_length_le (Nat.le_of_eq hlen), Bool.and_true]

/-- A single part of a disjunction. -/
theorem truth_or_singleton (p : Predicate) {bs : List Bool} (hlen : bs.length = p.testCount) :
    (Predicate.or [p]).truth bs = p.truth bs := by
  rw [truth, anyTrue, anyTrue, List.take_of_length_le (Nat.le_of_eq hlen), Bool.or_false]

section Parts

variable {f : Predicate → Condition} {ps : List Predicate}

/-- The step from the parts after the first to all parts of a conjunction. -/
theorem mirrors_fuse {p : Predicate} {c d : Condition} (hc : Mirrors c p)
    (hd : Mirrors d (.and ps)) : Mirrors (c.fuse d) (.and (p :: ps)) := by
  constructor
  · rw [Condition.testCount_fuse, hc.testCount, hd.testCount]
    rfl
  · intro b
    obtain ⟨bs, hlen, htruth, huniform⟩ := hc.uniform b
    obtain ⟨bs', hlen', htruth', huniform'⟩ := hd.uniform b
    refine ⟨bs ++ bs', length_append_of_parts hlen hlen', ?_, ?_⟩
    · rw [truth_and_cons hlen, htruth, htruth', Bool.and_self]
    · exact Condition.isUniform_fuse (hlen.trans hc.testCount.symm) huniform huniform'

/-- The step from the parts after the first to all parts of a disjunction. -/
theorem mirrors_either {p : Predicate} {c d : Condition} (hc : Mirrors c p)
    (hd : Mirrors d (.or ps)) : Mirrors (c.either d) (.or (p :: ps)) := by
  constructor
  · rw [Condition.testCount_either, hc.testCount, hd.testCount]
    rfl
  · intro b
    obtain ⟨bs, hlen, htruth, huniform⟩ := hc.uniform b
    obtain ⟨bs', hlen', htruth', huniform'⟩ := hd.uniform b
    refine ⟨bs ++ bs', length_append_of_parts hlen hlen', ?_, ?_⟩
    · rw [truth_or_cons hlen, htruth, htruth', Bool.or_self]
    · exact Condition.isUniform_either (hlen.trans hc.testCount.symm) huniform huniform'

theorem mirrors_fused (hne : ps ≠ []) (h : ∀ p ∈ ps, Mirrors (f p) p) :
    Mirrors (.fused (ps.map f)) (.and ps) := by
  induction ps with
  | nil => exact absurd rfl hne
  | cons p ps ih =>
    obtain ⟨hp, hps⟩ := List.forall_mem_cons.1 h
    cases ps with
    | nil =>
      refine ⟨hp.testCount, fun b => ?_⟩
      obtain ⟨bs, hlen, htruth, hc⟩ := hp.uniform b
      exact ⟨bs, hlen, by rw [truth_and_singleton p hlen, htruth], hc⟩
    | cons q qs => exact mirrors_fuse hp (ih (by simp) hps)

theorem mirrors_grouped (hne : ps ≠ []) (h : ∀ p ∈ ps, Mirrors (f p) p) :
    Mirrors (.grouped (ps.map f)) (.or ps) := by
  induction ps with
  | nil => exact absurd rfl hne
  | cons p ps ih =>
    obtain ⟨hp, hps⟩ := List.forall_mem_cons.1 h
    cases ps with
    | nil =>
      refine ⟨hp.testCount, fun b => ?_⟩
      obtain ⟨bs, hlen, htruth, hc⟩ := hp.value b
      exact ⟨bs, hlen, by rw [truth_or_singleton p hlen, htruth], hc⟩
    | cons q qs => exact mirrors_either hp.group (ih (by simp) hps)

/-! ### Agreement -/

theorem Condition.isSplit_fused (cs : List Condition) : (fused cs).isSplit = cs.any isSplit := by
  induction cs with
  | nil => rfl
  | cons c cs ih =>
    cases cs with
    | nil => simp [fused]
    | cons d cs =>
      rw [fused_cons_cons, isSplit_fuse, ih]
      rfl

/-- The assignment is for the first part, and then for the others. -/
theorem length_take_testCount {p : Predicate} {n : Nat} {bs : List Bool}
    (hlen : bs.length = p.testCount + n) :
    (bs.take p.testCount).length = p.testCount ∧ (bs.drop p.testCount).length = n := by
  rw [List.length_take, List.length_drop]
  omega

/-- Parts without an OR outside their parentheses: AND connects them as the predicate does. -/
theorem agrees_fused (hsingle : (Condition.fused (ps.map f)).isSplit = false)
    (hcount : ∀ p ∈ ps, (f p).testCount = p.testCount) (h : ∀ p ∈ ps, Agrees (f p) p) :
    Agrees (.fused (ps.map f)) (.and ps) := by
  induction ps with
  | nil => exact fun bs _ => rfl
  | cons p ps ih =>
    obtain ⟨hn, hns⟩ := List.forall_mem_cons.1 hcount
    obtain ⟨hp, hps⟩ := List.forall_mem_cons.1 h
    intro bs hlen
    cases ps with
    | nil =>
      rw [truth_and_singleton p hlen]
      exact hp bs hlen
    | cons q qs =>
      have hfused : Condition.fused ((p :: q :: qs).map f) =
          (f p).fuse (.fused ((q :: qs).map f)) := rfl
      rw [hfused, Condition.isSplit_fuse, Bool.or_eq_false_iff] at hsingle
      obtain ⟨htake, hdrop⟩ := length_take_testCount hlen
      rw [hfused, Condition.value_fuse_of_not_split hsingle.1 hsingle.2, hn, hp _ htake,
        ih hsingle.2 hns hps _ hdrop]
      rfl

/-- In parentheses, OR connects all parts as the predicate does. -/
theorem agrees_grouped (hcount : ∀ p ∈ ps, (f p).testCount = p.testCount)
    (h : ∀ p ∈ ps, Agrees (f p) p) : Agrees (.grouped (ps.map f)) (.or ps) := by
  induction ps with
  | nil => exact fun bs _ => rfl
  | cons p ps ih =>
    obtain ⟨hn, hns⟩ := List.forall_mem_cons.1 hcount
    obtain ⟨hp, hps⟩ := List.forall_mem_cons.1 h
    intro bs hlen
    cases ps with
    | nil =>
      rw [truth_or_singleton p hlen]
      exact hp bs hlen
    | cons q qs =>
      have hgrouped : Condition.grouped ((p :: q :: qs).map f) =
          (Condition.ofFactor (.group (f p))).either (.grouped ((q :: qs).map f)) := rfl
      have hgroup : (Condition.ofFactor (.group (f p))).testCount = p.testCount := hn
      obtain ⟨htake, hdrop⟩ := length_take_testCount hlen
      rw [hgrouped, Condition.value_either, hgroup, ih hns hps _ hdrop]
      exact congrArg (· || _) (hp _ htake)

/-! ### Disagreement -/

section Steps

variable {p : Predicate} {c d : Condition}

/-- The first part differs: make the others true. -/
theorem differs_fuse_left (hsplit : (c.fuse d).isSplit = false)
    (hcount : c.testCount = p.testCount) (hc : Differs c p) (hd : Mirrors d (.and ps)) :
    Differs (c.fuse d) (.and (p :: ps)) := by
  rw [Condition.isSplit_fuse, Bool.or_eq_false_iff] at hsplit
  obtain ⟨bs, hlen, hne⟩ := hc
  obtain ⟨bs', hlen', htruth, hvalue⟩ := hd.value true
  refine ⟨bs ++ bs', length_append_of_parts hlen hlen', ?_⟩
  rw [Condition.value_fuse_left hsplit.1 hsplit.2 (hlen.trans hcount.symm), truth_and_cons hlen,
    htruth, hvalue, Bool.and_true, Bool.and_true]
  exact hne

/-- Another part differs: make the first true. -/
theorem differs_fuse_right (hsplit : c.isSplit = false) (hc : Mirrors c p)
    (hd : Differs d (.and ps)) : Differs (c.fuse d) (.and (p :: ps)) := by
  obtain ⟨bs, hlen, htruth, hvalue⟩ := hc.value true
  obtain ⟨bs', hlen', hne⟩ := hd
  refine ⟨bs ++ bs', length_append_of_parts hlen hlen', ?_⟩
  rw [Condition.value_fuse_of_true hsplit (hlen.trans hc.testCount.symm) hvalue,
    truth_and_cons hlen, htruth, Bool.true_and]
  exact hne

/-- With an OR outside parentheses, one side of AND is bypassed: if it is on the left, what is on the
right, and otherwise what is on the left. -/
theorem differs_fuse_of_split (hsplit : (c.fuse d).isSplit = true) (hc : Mirrors c p)
    (hd : Mirrors d (.and ps)) : Differs (c.fuse d) (.and (p :: ps)) := by
  rw [Condition.isSplit_fuse] at hsplit
  cases hleft : c.isSplit with
  | true =>
    obtain ⟨bs, hlen, -, huniform⟩ := hc.uniform true
    obtain ⟨bs', hlen', htruth, -⟩ := hd.uniform false
    refine ⟨bs ++ bs', length_append_of_parts hlen hlen', ?_⟩
    rw [Condition.value_fuse_of_split_left hleft (hlen.trans hc.testCount.symm) huniform,
      truth_and_cons hlen, htruth, Bool.and_false]
    decide
  | false =>
    rw [hleft, Bool.false_or] at hsplit
    obtain ⟨bs, hlen, htruth, -⟩ := hc.uniform false
    obtain ⟨bs', hlen', -, huniform⟩ := hd.uniform true
    refine ⟨bs ++ bs', length_append_of_parts hlen hlen', ?_⟩
    rw [Condition.value_fuse_of_split_right hleft hsplit (hlen.trans hc.testCount.symm) huniform,
      truth_and_cons hlen, htruth, Bool.false_and]
    decide

/-- One part of a disjunction differs: make the others false. -/
theorem differs_either_left (hcount : c.testCount = p.testCount) (hc : Differs c p)
    (hd : Mirrors d (.or ps)) : Differs (c.either d) (.or (p :: ps)) := by
  obtain ⟨bs, hlen, hne⟩ := hc
  obtain ⟨bs', hlen', htruth, hvalue⟩ := hd.value false
  refine ⟨bs ++ bs', length_append_of_parts hlen hlen', ?_⟩
  rw [Condition.value_either_left (hlen.trans hcount.symm), truth_or_cons hlen, htruth, hvalue,
    Bool.or_false, Bool.or_false]
  exact hne

theorem differs_either_right (hc : Mirrors c p) (hd : Differs d (.or ps)) :
    Differs (c.either d) (.or (p :: ps)) := by
  obtain ⟨bs, hlen, htruth, hvalue⟩ := hc.value false
  obtain ⟨bs', hlen', hne⟩ := hd
  refine ⟨bs ++ bs', length_append_of_parts hlen hlen', ?_⟩
  rw [Condition.value_either_left (hlen.trans hc.testCount.symm), truth_or_cons hlen, htruth,
    hvalue, Bool.false_or, Bool.false_or]
  exact hne

end Steps

/-- Parts without an OR outside their parentheses, one of which differs. -/
theorem differs_fused (hsplit : (Condition.fused (ps.map f)).isSplit = false)
    (hm : ∀ p ∈ ps, Mirrors (f p) p) {p : Predicate} (hp : p ∈ ps) (hd : Differs (f p) p) :
    Differs (.fused (ps.map f)) (.and ps) := by
  induction ps with
  | nil => cases hp
  | cons q qs ih =>
    obtain ⟨hq, hqs⟩ := List.forall_mem_cons.1 hm
    cases qs with
    | nil =>
      obtain ⟨bs, hlen, hne⟩ := hd
      rw [List.mem_singleton.1 hp] at hlen hne
      exact ⟨bs, hlen, by rw [truth_and_singleton q hlen]; exact hne⟩
    | cons r rs =>
      have hfused : Condition.fused ((q :: r :: rs).map f) =
          (f q).fuse (.fused ((r :: rs).map f)) := rfl
      rw [hfused] at hsplit ⊢
      rcases List.mem_cons.1 hp with rfl | hp
      · exact differs_fuse_left hsplit hq.testCount hd (mirrors_fused (by simp) hqs)
      · rw [Condition.isSplit_fuse, Bool.or_eq_false_iff] at hsplit
        exact differs_fuse_right hsplit.1 hq (ih hsplit.2 hqs hp)

/-- Parts one of which has an OR outside its parentheses. -/
theorem differs_fused_of_split (hlen : 2 ≤ ps.length)
    (hsplit : (Condition.fused (ps.map f)).isSplit = true) (hm : ∀ p ∈ ps, Mirrors (f p) p) :
    Differs (.fused (ps.map f)) (.and ps) := by
  match ps with
  | [] => simp at hlen
  | [p] => simp at hlen
  | p :: q :: qs =>
    obtain ⟨hp, hqs⟩ := List.forall_mem_cons.1 hm
    exact differs_fuse_of_split hsplit hp (mirrors_fused (by simp) hqs)

/-- Parts in parentheses, one of which differs. -/
theorem differs_grouped (hm : ∀ p ∈ ps, Mirrors (f p) p) {p : Predicate} (hp : p ∈ ps)
    (hd : Differs (f p) p) : Differs (.grouped (ps.map f)) (.or ps) := by
  induction ps with
  | nil => cases hp
  | cons q qs ih =>
    obtain ⟨hq, hqs⟩ := List.forall_mem_cons.1 hm
    cases qs with
    | nil =>
      obtain ⟨bs, hlen, hne⟩ := hd
      rw [List.mem_singleton.1 hp] at hlen hne
      exact ⟨bs, hlen, by rw [truth_or_singleton q hlen]; exact hne⟩
    | cons r rs =>
      have hgrouped : Condition.grouped ((q :: r :: rs).map f) =
          (Condition.ofFactor (.group (f q))).either (.grouped ((r :: rs).map f)) := rfl
      rw [hgrouped]
      rcases List.mem_cons.1 hp with rfl | hp
      · exact differs_either_left hq.testCount hd (mirrors_grouped (by simp) hqs)
      · exact differs_either_right hq.group (ih hqs hp)

end Parts

/-! ## The reading of a predicate -/

theorem mirrors_negation {c : Condition} {p : Predicate} (h : Mirrors c p) :
    Mirrors (.ofFactor (.negation (.group c))) (.not p) := by
  refine ⟨h.testCount, fun b => ?_⟩
  obtain ⟨bs, hlen, htruth, hvalue⟩ := h.value !b
  refine ⟨bs, hlen, ?_, ?_⟩
  · rw [truth, htruth, Bool.not_not]
  · exact (congrArg (!·) hvalue).trans (Bool.not_not b)

theorem mirrors_conjunctReading {c : Condition} {p : Predicate} (h : Mirrors c p) :
    Mirrors (conjunctReading p c) p := by
  rw [conjunctReading]
  split
  · exact h.group
  · exact h

theorem value_conjunctReading (p : Predicate) (c : Condition) (bs : List Bool) :
    (conjunctReading p c).value bs = c.value bs := by
  rw [conjunctReading]
  split <;> rfl

theorem isSplit_conjunctReading (p : Predicate) (c : Condition) :
    (conjunctReading p c).isSplit = (!isDisjunction p && c.isSplit) := by
  rw [conjunctReading]
  cases isDisjunction p <;> rfl

theorem mirrors_reading {p : Predicate} (h : p.IsSolid) (scope : FieldPath) :
    Mirrors (reading scope p) p := by
  induction p using connectiveInduction generalizing scope with
  | always => cases h
  | never => cases h
  | test p ht =>
    obtain ⟨t, -, hconstant, hreading⟩ := conditionTokens_of_isTest ht scope
    have hcount := testCount_of_isTest ht
    rw [hreading]
    constructor
    · simp [Condition.ofFactor, Condition.testCount, Conjunction.testCount, Factor.testCount,
        hconstant, hcount]
    · intro b
      refine ⟨[b], by rw [hcount]; rfl, truth_of_isTest ht [b], ?_⟩
      simp [Condition.ofFactor, Condition.IsUniform, Conjunction.value, Factor.value, hconstant]
  | nested field p ih =>
    obtain ⟨hcount, huniform⟩ := ih h (scope ++ field)
    exact ⟨hcount, huniform⟩
  | not p ih => exact mirrors_negation (ih h.1 scope)
  | and parts ih =>
    obtain ⟨hlen, hparts, -⟩ := isSolid_and.1 h
    have hne : parts ≠ [] := by
      rintro rfl
      cases hlen
    rw [reading, conjunctReadings_eq_map]
    exact mirrors_fused hne fun p hp => mirrors_conjunctReading (ih p hp (hparts p hp) scope)
  | or parts ih =>
    obtain ⟨hlen, hparts, -⟩ := isSolid_or.1 h
    have hne : parts ≠ [] := by
      rintro rfl
      cases hlen
    rw [reading, disjunctReadings_eq_map]
    exact mirrors_grouped hne fun p hp => ih p hp (hparts p hp) scope

/-- A disjunction has an OR outside parentheses, also under lists. -/
theorem isSplit_of_endsInDisjunction {p : Predicate} (h : p.IsSolid)
    (hends : p.endsInDisjunction = true) (scope : FieldPath) : (reading scope p).isSplit = true := by
  induction p using connectiveInduction generalizing scope with
  | always => cases h
  | never => cases h
  | test p ht => simp [endsInDisjunction_of_isTest ht] at hends
  | nested field p ih => exact ih h hends (scope ++ field)
  | not p ih => cases hends
  | and parts ih => cases hends
  | or parts ih =>
    obtain ⟨hlen, -, -⟩ := isSolid_or.1 h
    match parts with
    | [] => cases hlen
    | [p] => simp at hlen
    | p :: q :: ps => rfl

/-- Without a hidden disjunction, only a disjunction has an OR outside parentheses. -/
theorem isSplit_of_not_hidesDisjunction {p : Predicate} (h : p.IsSolid)
    (hhides : p.hidesDisjunction = false) (hends : p.endsInDisjunction = false)
    (scope : FieldPath) : (reading scope p).isSplit = false := by
  induction p using connectiveInduction generalizing scope with
  | always => cases h
  | never => cases h
  | test p ht =>
    obtain ⟨t, -, -, hreading⟩ := conditionTokens_of_isTest ht scope
    rw [hreading]
    rfl
  | nested field p ih => exact ih h hhides hends (scope ++ field)
  | not p ih => rfl
  | and parts ih =>
    obtain ⟨-, hparts, -⟩ := isSolid_and.1 h
    simp only [hidesDisjunction, anyHidesDisjunction_eq_any, Bool.or_eq_false_iff,
      List.any_eq_false] at hhides
    obtain ⟨hnested, hhides⟩ := hhides
    rw [reading, conjunctReadings_eq_map, Condition.isSplit_fused, List.any_map,
      List.any_eq_false]
    intro p hp
    rw [Function.comp_apply, isSplit_conjunctReading]
    by_cases hor : isDisjunction p = true
    · simp [hor]
    · have hends : p.endsInDisjunction = false := by
        have := hnested p hp
        cases p <;> simp_all [isNestedDisjunction, endsInDisjunction, isDisjunction]
      simp [ih p hp (hparts p hp) (by simpa using hhides p hp) hends scope]
  | or parts ih => cases hends

/-- Without a hidden disjunction, the reading means what the predicate means. -/
theorem agrees_reading {p : Predicate} (h : p.IsSolid) (hhides : p.hidesDisjunction = false)
    (scope : FieldPath) : Agrees (reading scope p) p := by
  induction p using connectiveInduction generalizing scope with
  | always => cases h
  | never => cases h
  | test p ht =>
    obtain ⟨t, -, hconstant, hreading⟩ := conditionTokens_of_isTest ht scope
    intro bs _
    rw [hreading, truth_of_isTest ht]
    simp [Condition.ofFactor, Condition.value, Conjunction.value, Factor.value, hconstant]
  | nested field p ih => exact ih h hhides (scope ++ field)
  | not p ih => exact fun bs hlen => congrArg (!·) (ih h.1 hhides scope bs hlen)
  | and parts ih =>
    have hsplit := isSplit_of_not_hidesDisjunction h hhides rfl scope
    obtain ⟨-, hparts, -⟩ := isSolid_and.1 h
    simp only [hidesDisjunction, anyHidesDisjunction_eq_any, Bool.or_eq_false_iff,
      List.any_eq_false] at hhides
    rw [reading, conjunctReadings_eq_map] at hsplit ⊢
    refine agrees_fused hsplit (fun p hp => ?_) fun p hp bs hlen => ?_
    · exact (mirrors_conjunctReading (mirrors_reading (hparts p hp) scope)).testCount
    · rw [value_conjunctReading]
      exact ih p hp (hparts p hp) (by simpa using hhides.2 p hp) scope bs hlen
  | or parts ih =>
    obtain ⟨-, hparts, -⟩ := isSolid_or.1 h
    simp only [hidesDisjunction, anyHidesDisjunction_eq_any, List.any_eq_false] at hhides
    rw [reading, disjunctReadings_eq_map]
    refine agrees_grouped (fun p hp => ?_) fun p hp => ?_
    · exact (mirrors_reading (hparts p hp) scope).testCount
    · exact ih p hp (hparts p hp) (by simpa using hhides p hp) scope

/-- A hidden disjunction makes the reading differ from the predicate. -/
theorem differs_reading {p : Predicate} (h : p.IsSolid) (hhides : p.hidesDisjunction = true)
    (scope : FieldPath) : Differs (reading scope p) p := by
  induction p using connectiveInduction generalizing scope with
  | always => cases h
  | never => cases h
  | test p ht => simp [hidesDisjunction_of_isTest ht] at hhides
  | nested field p ih => exact ih h hhides (scope ++ field)
  | not p ih =>
    obtain ⟨bs, hlen, hne⟩ := ih h.1 hhides scope
    exact ⟨bs, hlen, fun heq => hne (Bool.not_inj heq)⟩
  | and parts ih =>
    obtain ⟨hlen, hparts, -⟩ := isSolid_and.1 h
    have hm : ∀ p ∈ parts, Mirrors (conjunctReading p (reading scope p)) p :=
      fun p hp => mirrors_conjunctReading (mirrors_reading (hparts p hp) scope)
    rw [reading, conjunctReadings_eq_map]
    cases hsplit : (Condition.fused
        (parts.map fun p => conjunctReading p (reading scope p))).isSplit with
    | true => exact differs_fused_of_split hlen hsplit hm
    | false =>
      -- no part is a disjunction under a list, so the fault is inside a part
      have hpart : ∃ p ∈ parts, p.hidesDisjunction = true := by
        simp only [hidesDisjunction, anyHidesDisjunction_eq_any, Bool.or_eq_true,
          List.any_eq_true] at hhides
        rcases hhides with ⟨p, hp, hnested⟩ | hpart
        · have hor : isDisjunction p = false ∧ p.endsInDisjunction = true := by
            cases p <;> simp_all [isNestedDisjunction, endsInDisjunction, isDisjunction]
          have hs := isSplit_of_endsInDisjunction (hparts p hp) hor.2 scope
          rw [Condition.isSplit_fused, List.any_map, List.any_eq_false] at hsplit
          have := hsplit p hp
          rw [Function.comp_apply, isSplit_conjunctReading, hor.1, hs] at this
          exact absurd rfl this
        · exact hpart
      obtain ⟨p, hp, hhides⟩ := hpart
      obtain ⟨bs, hlen, hne⟩ := ih p hp (hparts p hp) hhides scope
      exact differs_fused hsplit hm hp ⟨bs, hlen, by rwa [value_conjunctReading]⟩
  | or parts ih =>
    obtain ⟨-, hparts, -⟩ := isSolid_or.1 h
    simp only [hidesDisjunction, anyHidesDisjunction_eq_any, List.any_eq_true] at hhides
    obtain ⟨p, hp, hhides⟩ := hhides
    rw [reading, disjunctReadings_eq_map]
    exact differs_grouped (fun q hq => mirrors_reading (hparts q hq) scope) hp
      (ih p hp (hparts p hp) hhides scope)

/-! ## Conditions of queries -/

/-- The one reading of the text of the condition for a predicate. -/
structure IsReadingOf (c : Condition) (t : Table) (p : Predicate) : Prop where
  text : (t.condition p).text = c.text t.dialect
  row : c.row = conditionTokens [] p
  unique : ∀ d : Condition, d.row = conditionTokens [] p → d = c
  testCount : c.testCount = p.testCount

theorem isReadingOf_of_row {c : Condition} {p : Predicate} (t : Table)
    (hrow : c.row = conditionTokens [] p) (hcount : c.testCount = p.testCount) :
    IsReadingOf c t p := by
  refine ⟨?_, hrow, fun d hd => Condition.eq_of_row_eq (hd.trans hrow.symm), hcount⟩
  rw [Condition.text, hrow]
  rfl

theorem isReadingOf_reading {p : Predicate} (h : p.IsSolid) (t : Table) :
    IsReadingOf (reading [] p) t p :=
  isReadingOf_of_row t (row_reading h []) (mirrors_reading h []).testCount

/-- The condition for a predicate in normal form has one reading, which means what the predicate means
exactly if the predicate hides no disjunction. -/
theorem exists_reading {p : Predicate} (h : p.IsNormal) (t : Table) :
    ∃ c : Condition, IsReadingOf c t p ∧ (Agrees c p ↔ p.hidesDisjunction = false) := by
  rcases h with rfl | rfl | hs
  · exact ⟨.ofFactor (.test (.constant true)), isReadingOf_of_row t rfl rfl,
      fun _ => rfl, fun _ bs _ => rfl⟩
  · exact ⟨.ofFactor (.test (.constant false)), isReadingOf_of_row t rfl rfl,
      fun _ => rfl, fun _ bs _ => rfl⟩
  · refine ⟨reading [] p, isReadingOf_reading hs t, fun hagrees => ?_,
      fun hhides => agrees_reading hs hhides []⟩
    cases hhides : p.hidesDisjunction with
    | false => rfl
    | true =>
      obtain ⟨bs, hlen, hne⟩ := differs_reading hs hhides []
      exact absurd (hagrees bs hlen) hne

/-- The condition of an assembled query, alone or behind a filter that is fixed, has one reading,
which means what its predicate means exactly if no conjunction in it has a disjunction under a list
as a part. -/
theorem condition_keeps_structure_iff {schema : CollectionSchema} {d : QueryDescription}
    {maxPageSize : Nat} {q : AssembledQuery}
    (h : AssembledQuery.assemble schema d maxPageSize = .ok q) (t : Table) :
    (∃ c : Condition, IsReadingOf c t q.predicate ∧
      (Agrees c q.predicate ↔ q.predicate.hidesDisjunction = false)) ∧
    ∀ fixed : Predicate, fixed.IsNormal →
      ∃ c : Condition, IsReadingOf c t (conj [fixed, q.predicate]) ∧
        (Agrees c (conj [fixed, q.predicate]) ↔
          (conj [fixed, q.predicate]).hidesDisjunction = false) := by
  have hq := AssembledQuery.isNormal_of_assemble h
  refine ⟨exists_reading hq t, fun fixed hfixed => exists_reading (isNormal_conj ?_) t⟩
  intro p hp
  simp only [List.mem_cons, List.not_mem_nil, or_false] at hp
  rcases hp with rfl | rfl
  · exact hfixed
  · exact hq

/-! ### A filter that is bypassed -/

/-- Orders with a status and a list of items. -/
def orderSchema : CollectionSchema where
  name := "orders"
  shape := ⟨"Order", [
    ⟨"items", none, .list (.record ⟨"Item", [⟨"sku", none, .scalar .string⟩]⟩)⟩,
    ⟨"status", none, .scalar .string⟩]⟩
  searchable := []

/-- Paid orders of an item that has a certain number, or none. -/
def paidOrders : QueryDescription where
  filters := [
    ("items.sku", { among? := some [.string "A-1", .null] }),
    ("status", { eq? := some (.string "paid") })]

def paidQuery : AssembledQuery where
  predicate := .and [
    .nested ["items"] (.or [.among ["sku"] [.string "A-1"], .isNull ["sku"]]),
    .compare ["status"] .eq (.string "paid")]
  page := ⟨0, 10⟩
  sort := []
  draw? := none

def orderTable : Table where
  name := "orders"
  dialect := .postgres

theorem paidOrders_has_reading :
    ∃ c : Condition, IsReadingOf c orderTable paidQuery.predicate ∧
      (Agrees c paidQuery.predicate ↔ paidQuery.predicate.hidesDisjunction = false) :=
  have h : AssembledQuery.assemble orderSchema paidOrders 100 = .ok paidQuery := rfl
  (condition_keeps_structure_iff h orderTable).1

/-- An order of the item is found although its status is another. -/
theorem paidOrders_bypasses_status :
    AssembledQuery.assemble orderSchema paidOrders 100 = .ok paidQuery ∧
    (orderTable.condition paidQuery.predicate).text =
      "(\"items\".\"sku\" IN ($1)) OR (\"items\".\"sku\" IS NULL) AND \"status\" = $2" ∧
    paidQuery.predicate.testCount = 3 ∧
    paidQuery.predicate.truth [true, false, false] = false ∧
    ∃ c : Condition, IsReadingOf c orderTable paidQuery.predicate ∧
      c.value [true, false, false] = true := by
  refine ⟨rfl, by decide +kernel, rfl, rfl, reading [] paidQuery.predicate, ?_, rfl⟩
  refine isReadingOf_reading ?_ orderTable
  simp [paidQuery, isSolid_and, IsSolid, AreSolid]

end ListingQuery.Sql
