import ListingQuery.Proofs.Filter.Normal
import ListingQuery.Proofs.Sql.Reading

/-!
# The boolean structure of predicates, and of the rows rendered for them

The boolean structure of a predicate is its conjunctions, disjunctions and negations; a nested
predicate stands for what is inside.  The row of tokens that is rendered for a predicate reads as
`reading`, which has the same tests in the same order.  A part of a conjunction gets parentheses only
if it is a disjunction itself.  A nested disjunction is rendered without, and the conjunction falls
apart:

    and [nested items (or [a, b]), c]    is rendered    (a) OR (b) AND c

    p solid → (reading scope p).row = conditionTokens scope p           (row_reading)
-/

namespace ListingQuery

namespace Predicate

/-! ## Boolean structure -/

mutual

/-- The number of tests in a predicate; a constant is no test. -/
def testCount : Predicate → Nat
  | always => 0
  | never => 0
  | nested _ p => p.testCount
  | not p => p.testCount
  | and parts => testCounts parts
  | or parts => testCounts parts
  | _ => 1
  termination_by structural p => p

/-- The number of tests in all of them. -/
def testCounts : List Predicate → Nat
  | [] => 0
  | p :: ps => p.testCount + testCounts ps
  termination_by structural ps => ps

end

mutual

/-- The truth value of a predicate whose tests have these truth values, from left to right. -/
def truth : Predicate → List Bool → Bool
  | always, _ => true
  | never, _ => false
  | nested _ p, bs => p.truth bs
  | not p, bs => !p.truth bs
  | and parts, bs => allTrue parts bs
  | or parts, bs => anyTrue parts bs
  | _, bs => bs.headD false
  termination_by structural p => p

/-- Whether all of them are true. -/
def allTrue : List Predicate → List Bool → Bool
  | [], _ => true
  | p :: ps, bs => p.truth (bs.take p.testCount) && allTrue ps (bs.drop p.testCount)
  termination_by structural ps => ps

/-- Whether one of them is true. -/
def anyTrue : List Predicate → List Bool → Bool
  | [], _ => false
  | p :: ps, bs => p.truth (bs.take p.testCount) || anyTrue ps (bs.drop p.testCount)
  termination_by structural ps => ps

end

/-- Whether the predicate is a disjunction under any number of lists, perhaps none. -/
def endsInDisjunction : Predicate → Bool
  | nested _ p => p.endsInDisjunction
  | or _ => true
  | _ => false

/-- Whether the predicate is a disjunction under at least one list. -/
def isNestedDisjunction : Predicate → Bool
  | nested _ p => p.endsInDisjunction
  | _ => false

mutual

/-- Whether some conjunction has a disjunction under a list as a part. -/
def hidesDisjunction : Predicate → Bool
  | nested _ p => p.hidesDisjunction
  | not p => p.hidesDisjunction
  | and parts => parts.any isNestedDisjunction || anyHidesDisjunction parts
  | or parts => anyHidesDisjunction parts
  | _ => false
  termination_by structural p => p

/-- Whether one of them hides a disjunction. -/
def anyHidesDisjunction : List Predicate → Bool
  | [] => false
  | p :: ps => p.hidesDisjunction || anyHidesDisjunction ps
  termination_by structural ps => ps

end

theorem anyHidesDisjunction_eq_any (ps : List Predicate) :
    anyHidesDisjunction ps = ps.any hidesDisjunction := by
  induction ps with
  | nil => rfl
  | cons p ps ih => rw [anyHidesDisjunction, ih, List.any_cons]

theorem testCount_of_isTest {p : Predicate} (h : p.isTest = true) : p.testCount = 1 := by
  cases p <;> first | rfl | cases h

theorem truth_of_isTest {p : Predicate} (h : p.isTest = true) (bs : List Bool) :
    p.truth bs = bs.headD false := by
  cases p <;> first | rfl | cases h

theorem endsInDisjunction_of_isTest {p : Predicate} (h : p.isTest = true) :
    p.endsInDisjunction = false := by
  cases p <;> first | rfl | cases h

theorem hidesDisjunction_of_isTest {p : Predicate} (h : p.isTest = true) :
    p.hidesDisjunction = false := by
  cases p <;> first | rfl | cases h

end Predicate

namespace Sql

open Predicate

/-! ## Readings -/

namespace Condition

/-- The condition that is a single factor. -/
def ofFactor (f : Factor) : Condition := .last (.last f)

/-- What a row that is one test reads as. -/
def ofTests : List ConditionToken → Condition
  | .test t :: _ => ofFactor (.test t)
  | _ => ofFactor (.test (.constant true))

/-- What conditions read as with AND between their rows. -/
def fused : List Condition → Condition
  | [] => ofFactor (.test (.constant true))
  | [c] => c
  | c :: cs => c.fuse (fused cs)

/-- What conditions in parentheses read as with OR between their rows. -/
def grouped : List Condition → Condition
  | [] => ofFactor (.test (.constant false))
  | [c] => ofFactor (.group c)
  | c :: cs => (ofFactor (.group c)).either (grouped cs)

end Condition

/-- What a part of a conjunction reads as. -/
def conjunctReading (p : Predicate) (c : Condition) : Condition :=
  if isDisjunction p then .ofFactor (.group c) else c

mutual

/-- What the row of a predicate on the record at the path `scope` reads as. -/
def reading (scope : FieldPath) : Predicate → Condition
  | .nested field p => reading (scope ++ field) p
  | .not p => .ofFactor (.negation (.group (reading scope p)))
  | .and parts => .fused (conjunctReadings scope parts)
  | .or parts => .grouped (disjunctReadings scope parts)
  | p => .ofTests (conditionTokens scope p)
  termination_by structural p => p

/-- What the parts of a conjunction read as. -/
def conjunctReadings (scope : FieldPath) : List Predicate → List Condition
  | [] => []
  | p :: ps => conjunctReading p (reading scope p) :: conjunctReadings scope ps
  termination_by structural ps => ps

/-- What the parts of a disjunction read as, inside their parentheses. -/
def disjunctReadings (scope : FieldPath) : List Predicate → List Condition
  | [] => []
  | p :: ps => reading scope p :: disjunctReadings scope ps
  termination_by structural ps => ps

end

theorem conjunctReadings_eq_map (scope : FieldPath) (ps : List Predicate) :
    conjunctReadings scope ps = ps.map fun p => conjunctReading p (reading scope p) := by
  induction ps with
  | nil => rfl
  | cons p ps ih => rw [conjunctReadings, ih, List.map_cons]

theorem disjunctReadings_eq_map (scope : FieldPath) (ps : List Predicate) :
    disjunctReadings scope ps = ps.map (reading scope) := by
  induction ps with
  | nil => rfl
  | cons p ps ih => rw [disjunctReadings, ih, List.map_cons]

/-- A test of a field is rendered as one test of a column, which is no constant. -/
theorem conditionTokens_of_isTest {p : Predicate} (h : p.isTest = true) (scope : FieldPath) :
    ∃ t, conditionTokens scope p = [.test t] ∧ t.constant? = none ∧
      reading scope p = .ofFactor (.test t) := by
  cases p with
  | present field wanted => cases wanted <;> exact ⟨_, rfl, rfl, rfl⟩
  | _ => first | exact ⟨_, rfl, rfl, rfl⟩ | cases h

/-! ## The row of a reading -/

theorem Condition.fused_cons_cons (c d : Condition) (cs : List Condition) :
    fused (c :: d :: cs) = c.fuse (fused (d :: cs)) := rfl

theorem Condition.grouped_cons_cons (c d : Condition) (cs : List Condition) :
    grouped (c :: d :: cs) = (ofFactor (.group c)).either (grouped (d :: cs)) := rfl

theorem Condition.row_fused {cs : List Condition} (h : cs ≠ []) :
    (fused cs).row = connected .andWord (cs.map row) := by
  induction cs with
  | nil => exact absurd rfl h
  | cons c cs ih =>
    cases cs with
    | nil => rfl
    | cons d cs =>
      have hne : d :: cs ≠ [] := by simp
      rw [fused_cons_cons, row_fuse, ih hne]
      rfl

theorem Condition.row_grouped {cs : List Condition} (h : cs ≠ []) :
    (grouped cs).row = connected .orWord (cs.map fun c => parenthesized c.row) := by
  induction cs with
  | nil => exact absurd rfl h
  | cons c cs ih =>
    cases cs with
    | nil => rfl
    | cons d cs =>
      have hne : d :: cs ≠ [] := by simp
      rw [grouped_cons_cons, row_either, ih hne]
      rfl

theorem conjunctTokens_eq_map (scope : FieldPath) (ps : List Predicate) :
    conjunctTokens scope ps = ps.map fun p =>
      if isDisjunction p then parenthesized (conditionTokens scope p)
      else conditionTokens scope p := by
  induction ps with
  | nil => rfl
  | cons p ps ih => rw [conjunctTokens, ih, List.map_cons]

theorem disjunctTokens_eq_map (scope : FieldPath) (ps : List Predicate) :
    disjunctTokens scope ps = ps.map fun p => parenthesized (conditionTokens scope p) := by
  induction ps with
  | nil => rfl
  | cons p ps ih => rw [disjunctTokens, ih, List.map_cons]

theorem row_conjunctReading (p : Predicate) (c : Condition) :
    (conjunctReading p c).row = if isDisjunction p then parenthesized c.row else c.row := by
  rw [conjunctReading]
  split <;> rfl

/-- The row that is rendered for a predicate is the row of its reading. -/
theorem row_reading {p : Predicate} (h : p.IsSolid) (scope : FieldPath) :
    (reading scope p).row = conditionTokens scope p := by
  induction p using connectiveInduction generalizing scope with
  | always => cases h
  | never => cases h
  | test p ht =>
    obtain ⟨t, htokens, -, hreading⟩ := conditionTokens_of_isTest ht scope
    rw [htokens, hreading]
    rfl
  | nested field p ih => exact ih h (scope ++ field)
  | not p ih => exact congrArg (fun ts => .notWord :: parenthesized ts) (ih h.1 scope)
  | and parts ih =>
    obtain ⟨hlen, hparts, -⟩ := isSolid_and.1 h
    have hne : conjunctReadings scope parts ≠ [] := by
      rw [conjunctReadings_eq_map]
      cases parts <;> simp_all
    rw [reading, conditionTokens, Condition.row_fused hne, conjunctReadings_eq_map,
      conjunctTokens_eq_map, List.map_map]
    refine congrArg _ (List.map_congr_left fun p hp => ?_)
    simp only [Function.comp_apply, row_conjunctReading, ih p hp (hparts p hp) scope]
  | or parts ih =>
    obtain ⟨hlen, hparts, -⟩ := isSolid_or.1 h
    have hne : disjunctReadings scope parts ≠ [] := by
      rw [disjunctReadings_eq_map]
      cases parts <;> simp_all
    rw [reading, conditionTokens, Condition.row_grouped hne, disjunctReadings_eq_map,
      disjunctTokens_eq_map, List.map_map]
    refine congrArg _ (List.map_congr_left fun p hp => ?_)
    simp only [Function.comp_apply, ih p hp (hparts p hp) scope]

end Sql

end ListingQuery
