import ListingQuery.Sql.Query

/-!
# How SQL reads a condition

SQL reads parentheses first, then NOT, then AND, then OR:

    condition   = conjunction | conjunction OR condition
    conjunction = factor | factor AND conjunction
    factor      = test | NOT factor | ( condition )

A row of tokens has at most one reading             (Condition.eq_of_row_eq)

A reading has a truth value under every assignment of truth values to its tests, which are counted
from the left; a constant is no test.
-/

namespace ListingQuery.Sql

mutual

/-- What AND connects. -/
inductive Factor where
  | test (t : ColumnTest)
  | negation (f : Factor)
  | group (c : Condition)

/-- Factors with AND between them. -/
inductive Conjunction where
  | last (f : Factor)
  | more (f : Factor) (t : Conjunction)

/-- Conjunctions with OR between them. -/
inductive Condition where
  | last (t : Conjunction)
  | more (t : Conjunction) (c : Condition)

end

/-! ## Rows of tokens -/

mutual

/-- The tokens that read as a factor. -/
def Factor.row : Factor → List ConditionToken
  | .test t => [.test t]
  | .negation f => .notWord :: f.row
  | .group c => parenthesized c.row
  termination_by structural f => f

/-- The tokens that read as a conjunction. -/
def Conjunction.row : Conjunction → List ConditionToken
  | .last f => f.row
  | .more f t => f.row ++ .andWord :: t.row
  termination_by structural t => t

/-- The tokens that read as a condition. -/
def Condition.row : Condition → List ConditionToken
  | .last t => t.row
  | .more t c => t.row ++ .orWord :: c.row
  termination_by structural c => c

end

/-- The text of a condition. -/
def Condition.text (d : Dialect) (c : Condition) : String :=
  textFrom d 1 (c.row.flatMap (ConditionToken.fragments d))

mutual

/-- A factor ends where its row does, whatever follows. -/
theorem Factor.row_append_inj : ∀ (f g : Factor) (r s : List ConditionToken),
    f.row ++ r = g.row ++ s → f = g ∧ r = s
  | .test t, g, r, s, h => by
    cases g <;> simp [Factor.row, parenthesized] at h ⊢
    exact h
  | .negation f, g, r, s, h => by
    cases g with
    | negation g =>
      simp only [Factor.row, List.cons_append, List.cons.injEq, true_and] at h
      simpa using Factor.row_append_inj f g r s h
    | _ => simp [Factor.row, parenthesized] at h
  | .group c, g, r, s, h => by
    cases g with
    | group d =>
      simp only [Factor.row, parenthesized, List.cons_append, List.append_assoc, List.nil_append,
        List.cons.injEq, true_and] at h
      simpa using Condition.row_append_inj c d _ _ (by simp) (by simp) (by simp) (by simp) h
    | _ => simp [Factor.row, parenthesized] at h

/-- A conjunction ends where its row does, if no AND follows. -/
theorem Conjunction.row_append_inj : ∀ (t u : Conjunction) (r s : List ConditionToken),
    r.head? ≠ some .andWord → s.head? ≠ some .andWord → t.row ++ r = u.row ++ s → t = u ∧ r = s
  | .last f, u, r, s, hr, hs, h => by
    cases u with
    | last g => simpa using Factor.row_append_inj f g r s h
    | more g u =>
      simp only [Conjunction.row, List.append_assoc, List.cons_append] at h
      obtain ⟨-, h⟩ := Factor.row_append_inj f g _ _ h
      simp [h] at hr
  | .more f t, u, r, s, hr, hs, h => by
    cases u with
    | last g =>
      simp only [Conjunction.row, List.append_assoc, List.cons_append] at h
      obtain ⟨-, h⟩ := Factor.row_append_inj f g _ _ h
      simp [← h] at hs
    | more g u =>
      simp only [Conjunction.row, List.append_assoc, List.cons_append] at h
      obtain ⟨rfl, htail⟩ := Factor.row_append_inj f g _ _ h
      simp only [List.cons.injEq, true_and] at htail
      simpa using Conjunction.row_append_inj t u r s hr hs htail

/-- A condition ends where its row does, if neither AND nor OR follows. -/
theorem Condition.row_append_inj : ∀ (c d : Condition) (r s : List ConditionToken),
    r.head? ≠ some .andWord → s.head? ≠ some .andWord → r.head? ≠ some .orWord →
    s.head? ≠ some .orWord → c.row ++ r = d.row ++ s → c = d ∧ r = s
  | .last t, d, r, s, hra, hsa, hro, hso, h => by
    cases d with
    | last u => simpa using Conjunction.row_append_inj t u r s hra hsa h
    | more u d =>
      simp only [Condition.row, List.append_assoc, List.cons_append] at h
      obtain ⟨-, h⟩ := Conjunction.row_append_inj t u _ _ hra (by simp) h
      simp [h] at hro
  | .more t c, d, r, s, hra, hsa, hro, hso, h => by
    cases d with
    | last u =>
      simp only [Condition.row, List.append_assoc, List.cons_append] at h
      obtain ⟨-, h⟩ := Conjunction.row_append_inj t u _ _ (by simp) hsa h
      simp [← h] at hso
    | more u d =>
      simp only [Condition.row, List.append_assoc, List.cons_append] at h
      obtain ⟨rfl, htail⟩ := Conjunction.row_append_inj t u _ _ (by simp) (by simp) h
      simp only [List.cons.injEq, true_and] at htail
      simpa using Condition.row_append_inj c d r s hra hsa hro hso htail

end

/-- A row of tokens reads in one way only. -/
theorem Condition.eq_of_row_eq {c d : Condition} (h : c.row = d.row) : c = d :=
  (Condition.row_append_inj c d [] [] (by simp) (by simp) (by simp) (by simp) (by simpa using h)).1

/-! ## Truth values -/

/-- The value of a test that is a constant. -/
def ColumnTest.constant? : ColumnTest → Option Bool
  | .constant truth => some truth
  | _ => none

mutual

/-- The number of tests. -/
def Factor.testCount : Factor → Nat
  | .test t => if t.constant?.isSome then 0 else 1
  | .negation f => f.testCount
  | .group c => c.testCount
  termination_by structural f => f

/-- The number of tests. -/
def Conjunction.testCount : Conjunction → Nat
  | .last f => f.testCount
  | .more f t => f.testCount + t.testCount
  termination_by structural t => t

/-- The number of tests. -/
def Condition.testCount : Condition → Nat
  | .last t => t.testCount
  | .more t c => t.testCount + c.testCount
  termination_by structural c => c

end

mutual

/-- The truth value of a factor whose tests have these truth values, from left to right. -/
def Factor.value : Factor → List Bool → Bool
  | .test t, bs => t.constant?.getD (bs.headD false)
  | .negation f, bs => !f.value bs
  | .group c, bs => c.value bs
  termination_by structural f => f

/-- The truth value of a conjunction. -/
def Conjunction.value : Conjunction → List Bool → Bool
  | .last f, bs => f.value bs
  | .more f t, bs => f.value (bs.take f.testCount) && t.value (bs.drop f.testCount)
  termination_by structural t => t

/-- The truth value of a condition. -/
def Condition.value : Condition → List Bool → Bool
  | .last t, bs => t.value bs
  | .more t c, bs => t.value (bs.take t.testCount) || c.value (bs.drop t.testCount)
  termination_by structural c => c

end

/-! ## Conditions side by side -/

/-- Factors of one conjunction and then those of another. -/
def Conjunction.append : Conjunction → Conjunction → Conjunction
  | .last f, u => .more f u
  | .more f t, u => .more f (t.append u)

/-- What two conditions read as with AND between their rows: AND connects no more than the
conjunctions beside it. -/
def Condition.fuse : Condition → Condition → Condition
  | .last t, .last u => .last (t.append u)
  | .last t, .more u d => .more (t.append u) d
  | .more t c, d => .more t (c.fuse d)

/-- What two conditions read as with OR between their rows. -/
def Condition.either : Condition → Condition → Condition
  | .last t, d => .more t d
  | .more t c, d => .more t (c.either d)

theorem Conjunction.row_append (t u : Conjunction) :
    (t.append u).row = t.row ++ .andWord :: u.row := by
  cases t with
  | last f => rfl
  | more f t => simp [append, row, row_append t u]

theorem Condition.row_fuse (c d : Condition) :
    (c.fuse d).row = c.row ++ .andWord :: d.row := by
  cases c with
  | last t => cases d <;> simp [fuse, row, Conjunction.row_append]
  | more t c => simp [fuse, row, row_fuse c d]

theorem Condition.row_either (c d : Condition) :
    (c.either d).row = c.row ++ .orWord :: d.row := by
  cases c with
  | last t => rfl
  | more t c => simp [either, row, row_either c d]

theorem Conjunction.testCount_append (t u : Conjunction) :
    (t.append u).testCount = t.testCount + u.testCount := by
  cases t with
  | last f => rfl
  | more f t => simp [append, testCount, testCount_append t u, Nat.add_assoc]

theorem Condition.testCount_fuse (c d : Condition) :
    (c.fuse d).testCount = c.testCount + d.testCount := by
  cases c with
  | last t => cases d <;> simp [fuse, testCount, Conjunction.testCount_append, Nat.add_assoc]
  | more t c => simp [fuse, testCount, testCount_fuse c d, Nat.add_assoc]

theorem Condition.testCount_either (c d : Condition) :
    (c.either d).testCount = c.testCount + d.testCount := by
  cases c with
  | last t => rfl
  | more t c => simp [either, testCount, testCount_either c d, Nat.add_assoc]

theorem Conjunction.value_append (t u : Conjunction) (bs : List Bool) :
    (t.append u).value bs = (t.value (bs.take t.testCount) && u.value (bs.drop t.testCount)) := by
  cases t with
  | last f => rfl
  | more f t =>
    simp only [append, value, value_append t u, testCount, List.take_take, List.drop_take,
      List.drop_drop, Bool.and_assoc]
    congr 3
    · omega
    · congr 1
      omega

theorem Condition.value_either (c d : Condition) (bs : List Bool) :
    (c.either d).value bs = (c.value (bs.take c.testCount) || d.value (bs.drop c.testCount)) := by
  cases c with
  | last t => rfl
  | more t c =>
    simp only [either, value, value_either c d, testCount, List.take_take, List.drop_take,
      List.drop_drop, Bool.or_assoc]
    congr 3
    · omega
    · congr 1
      omega

/-! ## Truth values of conditions side by side -/

theorem Conjunction.value_append_left {t u : Conjunction} {bs bs' : List Bool}
    (hlen : bs.length = t.testCount) :
    (t.append u).value (bs ++ bs') = (t.value bs && u.value bs') := by
  rw [value_append, List.take_left' hlen, List.drop_left' hlen]

namespace Condition

/-- Whether a condition has an OR outside its parentheses. -/
def isSplit : Condition → Bool
  | .last _ => false
  | .more .. => true

/-- Every conjunction that OR connects has the value. -/
def IsUniform (b : Bool) : Condition → List Bool → Prop
  | .last t, bs => t.value bs = b
  | .more t c, bs => t.value (bs.take t.testCount) = b ∧ c.IsUniform b (bs.drop t.testCount)

theorem value_of_isUniform {b : Bool} {c : Condition} {bs : List Bool} (h : c.IsUniform b bs) :
    c.value bs = b := by
  cases c with
  | last t => exact h
  | more t c =>
    obtain ⟨ht, hc⟩ := h
    rw [value, ht, value_of_isUniform hc, Bool.or_self]

theorem isUniform_either {b : Bool} {c d : Condition} {bs bs' : List Bool}
    (hlen : bs.length = c.testCount) (hc : c.IsUniform b bs) (hd : d.IsUniform b bs') :
    (c.either d).IsUniform b (bs ++ bs') := by
  cases c with
  | last t =>
    rw [testCount] at hlen
    rw [either, IsUniform, List.take_left' hlen, List.drop_left' hlen]
    exact ⟨hc, hd⟩
  | more t c =>
    obtain ⟨ht, hc⟩ := hc
    rw [testCount] at hlen
    have hle : t.testCount ≤ bs.length := by omega
    rw [either, IsUniform, List.take_append_of_le_length hle, List.drop_append_of_le_length hle]
    exact ⟨ht, isUniform_either (by rw [List.length_drop]; omega) hc hd⟩

theorem isUniform_fuse {b : Bool} {c d : Condition} {bs bs' : List Bool}
    (hlen : bs.length = c.testCount) (hc : c.IsUniform b bs) (hd : d.IsUniform b bs') :
    (c.fuse d).IsUniform b (bs ++ bs') := by
  cases c with
  | last t =>
    rw [testCount] at hlen
    rw [IsUniform] at hc
    cases d with
    | last u =>
      rw [IsUniform] at hd
      rw [fuse, IsUniform, Conjunction.value_append_left hlen,
        hc, hd, Bool.and_self]
    | more u d =>
      obtain ⟨hu, hd⟩ := hd
      have hcount : (t.append u).testCount = bs.length + u.testCount := by
        rw [Conjunction.testCount_append, hlen]
      rw [fuse, IsUniform, hcount, List.take_length_add_append, List.drop_length_add_append,
        Conjunction.value_append_left hlen, hc, hu, Bool.and_self]
      exact ⟨rfl, hd⟩
  | more t c =>
    obtain ⟨ht, hc⟩ := hc
    rw [testCount] at hlen
    have hle : t.testCount ≤ bs.length := by omega
    rw [fuse, IsUniform, List.take_append_of_le_length hle, List.drop_append_of_le_length hle]
    exact ⟨ht, isUniform_fuse (by rw [List.length_drop]; omega) hc hd⟩

/-- Conditions without an OR outside their parentheses are conjunctions, and so are they with AND
between them. -/
theorem isSplit_fuse {c d : Condition} :
    (c.fuse d).isSplit = (c.isSplit || d.isSplit) := by
  cases c <;> cases d <;> rfl

theorem value_fuse_of_not_split {c d : Condition} (hc : c.isSplit = false)
    (hd : d.isSplit = false) (bs : List Bool) :
    (c.fuse d).value bs = (c.value (bs.take c.testCount) && d.value (bs.drop c.testCount)) := by
  cases c with
  | more t c => cases hc
  | last t =>
    cases d with
    | more u d => cases hd
    | last u => exact Conjunction.value_append t u bs

/-- Beside a conjunction that is true, AND leaves the other side as it is. -/
theorem value_fuse_of_true {c d : Condition} {bs bs' : List Bool} (hc : c.isSplit = false)
    (hlen : bs.length = c.testCount) (htrue : c.value bs = true) :
    (c.fuse d).value (bs ++ bs') = d.value bs' := by
  cases c with
  | more t c => cases hc
  | last t =>
    rw [testCount] at hlen
    rw [value] at htrue
    cases d with
    | last u =>
      rw [fuse, value, value, Conjunction.value_append_left hlen,
        htrue, Bool.true_and]
    | more u d =>
      have hcount : (t.append u).testCount = bs.length + u.testCount := by
        rw [Conjunction.testCount_append, hlen]
      rw [fuse, value, value, hcount, List.take_length_add_append, List.drop_length_add_append,
        Conjunction.value_append_left hlen, htrue, Bool.true_and]

/-- An OR on the left saves the left side from what AND connects it with. -/
theorem value_fuse_of_split_left {c d : Condition} {bs bs' : List Bool} (hc : c.isSplit = true)
    (hlen : bs.length = c.testCount) (htrue : c.IsUniform true bs) :
    (c.fuse d).value (bs ++ bs') = true := by
  cases c with
  | last t => cases hc
  | more t c =>
    rw [testCount] at hlen
    have hle : t.testCount ≤ bs.length := by omega
    rw [fuse, value, List.take_append_of_le_length hle, htrue.1, Bool.true_or]

/-- An OR on the right saves the right side. -/
theorem value_fuse_of_split_right {c d : Condition} {bs bs' : List Bool} (hc : c.isSplit = false)
    (hd : d.isSplit = true) (hlen : bs.length = c.testCount) (htrue : d.IsUniform true bs') :
    (c.fuse d).value (bs ++ bs') = true := by
  cases c with
  | more t c => cases hc
  | last t =>
    cases d with
    | last u => cases hd
    | more u d =>
      rw [testCount] at hlen
      have hcount : (t.append u).testCount = bs.length + u.testCount := by
        rw [Conjunction.testCount_append, hlen]
      rw [fuse, value, hcount, List.drop_length_add_append, value_of_isUniform htrue.2,
        Bool.or_true]

theorem value_either_left {c d : Condition} {bs bs' : List Bool} (hlen : bs.length = c.testCount) :
    (c.either d).value (bs ++ bs') = (c.value bs || d.value bs') := by
  rw [value_either, List.take_left' hlen, List.drop_left' hlen]

theorem value_fuse_left {c d : Condition} {bs bs' : List Bool} (hc : c.isSplit = false)
    (hd : d.isSplit = false) (hlen : bs.length = c.testCount) :
    (c.fuse d).value (bs ++ bs') = (c.value bs && d.value bs') := by
  rw [value_fuse_of_not_split hc hd, List.take_left' hlen, List.drop_left' hlen]

end Condition

end ListingQuery.Sql
