import Mathlib.Data.Fintype.Option
import ListingQuery.Predicate.Matches
import ListingQuery.Proofs.Predicate.Typed
import ListingQuery.Proofs.Sql.Agreement

/-!
# Conditions on rows with nulls

SQL has three truth values.  A comparison with a column that is null is unknown; NOT, AND and OR of
unknown are unknown unless the other side decides.  A row is selected if the condition is true.

A predicate has a truth value of the same kind, part by part.  The condition that is rendered for it
has this value wherever its structure is kept:

    p solid, hides no disjunction → (reading scope p).truthIn row = p.truthIn row scope
                                                                      (truthIn_reading)
    (conj ps).truthIn row scope = all of the operands, and likewise for disj and negate
-/

namespace ListingQuery

namespace Sql

/-! ## Three truth values -/

/-- A truth value of SQL; `none` is unknown. -/
abbrev Truth := Option Bool

namespace Truth

/-- NOT. -/
def not : Truth → Truth := Option.map (!·)

/-- AND: false if a side is false, and true only if both are true. -/
def and : Truth → Truth → Truth
  | some false, _ => some false
  | some true, b => b
  | none, some false => some false
  | none, _ => none

/-- OR: true if a side is true, and false only if both are false. -/
def or : Truth → Truth → Truth
  | some true, _ => some true
  | some false, b => b
  | none, some true => some true
  | none, _ => none

/-- AND between all of them. -/
def all (ts : List Truth) : Truth := ts.foldr and (some true)

/-- OR between all of them. -/
def any (ts : List Truth) : Truth := ts.foldr or (some false)

theorem and_assoc : ∀ a b c : Truth, (a.and b).and c = a.and (b.and c) := by decide

theorem or_assoc : ∀ a b c : Truth, (a.or b).or c = a.or (b.or c) := by decide

theorem not_not : ∀ a : Truth, a.not.not = a := by decide

@[simp] theorem true_and (a : Truth) : Truth.and (some true) a = a := rfl

@[simp] theorem false_and (a : Truth) : Truth.and (some false) a = some false := rfl

@[simp] theorem true_or (a : Truth) : Truth.or (some true) a = some true := rfl

@[simp] theorem false_or (a : Truth) : Truth.or (some false) a = a := rfl

theorem and_true : ∀ a : Truth, a.and (some true) = a := by decide

theorem and_false : ∀ a : Truth, a.and (some false) = some false := by decide

theorem or_false : ∀ a : Truth, a.or (some false) = a := by decide

theorem or_true : ∀ a : Truth, a.or (some true) = some true := by decide

theorem and_eq_true_iff : ∀ a b : Truth, a.and b = some true ↔ a = some true ∧ b = some true := by
  decide

theorem or_eq_true_iff : ∀ a b : Truth, a.or b = some true ↔ a = some true ∨ b = some true := by
  decide

@[simp] theorem all_nil : all [] = some true := rfl

@[simp] theorem all_cons (t : Truth) (ts : List Truth) : all (t :: ts) = t.and (all ts) := rfl

@[simp] theorem any_nil : any [] = some false := rfl

@[simp] theorem any_cons (t : Truth) (ts : List Truth) : any (t :: ts) = t.or (any ts) := rfl

theorem all_append (ts us : List Truth) : all (ts ++ us) = (all ts).and (all us) := by
  induction ts with
  | nil => rfl
  | cons t ts ih => rw [List.cons_append, all_cons, all_cons, ih, and_assoc]

theorem any_append (ts us : List Truth) : any (ts ++ us) = (any ts).or (any us) := by
  induction ts with
  | nil => rfl
  | cons t ts ih => rw [List.cons_append, any_cons, any_cons, ih, or_assoc]

theorem all_eq_true_iff (ts : List Truth) : all ts = some true ↔ ∀ t ∈ ts, t = some true := by
  induction ts with
  | nil => simp
  | cons t ts ih => rw [all_cons, and_eq_true_iff, ih, List.forall_mem_cons]

theorem any_eq_true_iff (ts : List Truth) : any ts = some true ↔ ∃ t ∈ ts, t = some true := by
  induction ts with
  | nil => simp
  | cons t ts ih => simp only [any_cons, or_eq_true_iff, ih, List.mem_cons, exists_eq_or_imp]

/-- OR between truth values that are known. -/
theorem any_map_some {α : Type} (f : α → Bool) (as : List α) :
    any (as.map fun a => some (f a)) = some (as.any f) := by
  induction as with
  | nil => rfl
  | cons a as ih => rw [List.map_cons, any_cons, ih, List.any_cons]; cases f a <;> rfl

/-- OR between truth values that are unknown. -/
theorem any_map_none {α : Type} {as : List α} (h : as ≠ []) :
    any (as.map fun _ => none) = none := by
  induction as with
  | nil => exact absurd rfl h
  | cons a as ih =>
    cases as with
    | nil => rfl
    | cons b bs => rw [List.map_cons, any_cons, ih (by simp)]; rfl

end Truth

/-! ## Rows -/

/-- A row of a table, with the tables that it is joined with. -/
structure Row where
  /-- The value of a column; a column without value is null. -/
  value? : FieldPath → Option Literal
  /-- What the database finds for a test with a pattern. -/
  patternTruth : ColumnTest → Truth

/-- The comparison of a column with a value is unknown if the column is null. -/
def Row.compares (row : Row) (column : FieldPath) (op : Comparison) (value : Literal) : Truth :=
  (row.value? column).bind fun x => (x.compare value).map op.admits

/-- The truth value of a test. -/
def ColumnTest.truthIn (row : Row) : ColumnTest → Truth
  | constant truth => some truth
  | compare column op value => row.compares column op value
  | among column values => Truth.any (values.map (row.compares column .eq))
  | notAmong column values => (Truth.any (values.map (row.compares column .eq))).not
  | isNull column => some (row.value? column).isNone
  | isNotNull column => some (row.value? column).isSome
  | isEmpty column => row.compares column .eq (.string "")
  | t => row.patternTruth t

mutual

/-- The truth value of a factor. -/
def Factor.truthIn (row : Row) : Factor → Truth
  | .test t => t.truthIn row
  | .negation f => (f.truthIn row).not
  | .group c => c.truthIn row
  termination_by structural f => f

/-- The truth value of a conjunction. -/
def Conjunction.truthIn (row : Row) : Conjunction → Truth
  | .last f => f.truthIn row
  | .more f t => (f.truthIn row).and (t.truthIn row)
  termination_by structural t => t

/-- The truth value of a condition. -/
def Condition.truthIn (row : Row) : Condition → Truth
  | .last t => t.truthIn row
  | .more t c => (t.truthIn row).or (c.truthIn row)
  termination_by structural c => c

end

/-! ## Conditions side by side -/

section SideBySide

variable (row : Row)

theorem Conjunction.truthIn_append (t u : Conjunction) :
    (t.append u).truthIn row = (t.truthIn row).and (u.truthIn row) := by
  cases t with
  | last f => rfl
  | more f t => rw [append, truthIn, truthIn, truthIn_append t u, Truth.and_assoc]

theorem Condition.truthIn_either (c d : Condition) :
    (c.either d).truthIn row = (c.truthIn row).or (d.truthIn row) := by
  cases c with
  | last t => rfl
  | more t c => rw [either, truthIn, truthIn, truthIn_either c d, Truth.or_assoc]

theorem Condition.truthIn_fuse {c d : Condition} (hc : c.isSplit = false)
    (hd : d.isSplit = false) : (c.fuse d).truthIn row = (c.truthIn row).and (d.truthIn row) := by
  cases c with
  | more t c => cases hc
  | last t =>
    cases d with
    | more u d => cases hd
    | last u => exact Conjunction.truthIn_append row t u

/-- Without an OR outside parentheses, AND connects all of them. -/
theorem Condition.truthIn_fused {cs : List Condition} (h : (fused cs).isSplit = false) :
    (fused cs).truthIn row = Truth.all (cs.map (truthIn row)) := by
  induction cs with
  | nil => rfl
  | cons c cs ih =>
    cases cs with
    | nil => exact (Truth.and_true _).symm
    | cons d cs =>
      rw [fused_cons_cons, isSplit_fuse, Bool.or_eq_false_iff] at h
      rw [fused_cons_cons, truthIn_fuse row h.1 h.2, ih h.2]
      rfl

/-- In parentheses, OR connects all of them. -/
theorem Condition.truthIn_grouped (cs : List Condition) :
    (grouped cs).truthIn row = Truth.any (cs.map (truthIn row)) := by
  induction cs with
  | nil => rfl
  | cons c cs ih =>
    cases cs with
    | nil => exact (Truth.or_false _).symm
    | cons d cs =>
      rw [grouped_cons_cons, truthIn_either, ih]
      rfl

theorem truthIn_conjunctReading (p : Predicate) (c : Condition) :
    (conjunctReading p c).truthIn row = c.truthIn row := by
  rw [conjunctReading]
  split <;> rfl

end SideBySide

end Sql

namespace Predicate

open Sql

variable {row : Row} {scope : FieldPath}

/-! ## Predicates -/

mutual

/-- The truth value of a predicate on the record at the path `scope`. -/
def truthIn (row : Row) (scope : FieldPath) : Predicate → Truth
  | nested field p => p.truthIn row (scope ++ field)
  | not p => (p.truthIn row scope).not
  | and parts => Truth.all (truthsIn row scope parts)
  | or parts => Truth.any (truthsIn row scope parts)
  | p => (Condition.ofTests (conditionTokens scope p)).truthIn row
  termination_by structural p => p

/-- The truth values of predicates. -/
def truthsIn (row : Row) (scope : FieldPath) : List Predicate → List Truth
  | [] => []
  | p :: ps => p.truthIn row scope :: truthsIn row scope ps
  termination_by structural ps => ps

end

theorem truthsIn_eq_map (ps : List Predicate) :
    truthsIn row scope ps = ps.map (truthIn row scope) := by
  induction ps with
  | nil => rfl
  | cons p ps ih => rw [truthsIn, ih, List.map_cons]

theorem truthIn_and (parts : List Predicate) :
    (and parts).truthIn row scope = Truth.all (parts.map (truthIn row scope)) := by
  rw [truthIn, truthsIn_eq_map]

theorem truthIn_or (parts : List Predicate) :
    (or parts).truthIn row scope = Truth.any (parts.map (truthIn row scope)) := by
  rw [truthIn, truthsIn_eq_map]

/-- Where the structure of a predicate is kept, its condition has its truth value. -/
theorem truthIn_reading {p : Predicate} (h : p.IsSolid) (hhides : p.hidesDisjunction = false) :
    (reading scope p).truthIn row = p.truthIn row scope := by
  induction p using connectiveInduction generalizing scope with
  | always => cases h
  | never => cases h
  | test p ht => cases p <;> first | rfl | cases ht
  | nested field p ih => exact ih h hhides
  | not p ih => exact congrArg Truth.not (ih h.1 hhides)
  | and parts ih =>
    have hsplit := isSplit_of_not_hidesDisjunction h hhides rfl scope
    obtain ⟨-, hparts, -⟩ := isSolid_and.1 h
    simp only [hidesDisjunction, anyHidesDisjunction_eq_any, Bool.or_eq_false_iff,
      List.any_eq_false] at hhides
    rw [reading, conjunctReadings_eq_map] at hsplit ⊢
    rw [Condition.truthIn_fused row hsplit, truthIn_and, List.map_map]
    refine congrArg Truth.all (List.map_congr_left fun p hp => ?_)
    rw [Function.comp_apply, truthIn_conjunctReading]
    exact ih p hp (hparts p hp) (by simpa using hhides.2 p hp)
  | or parts ih =>
    obtain ⟨-, hparts, -⟩ := isSolid_or.1 h
    simp only [hidesDisjunction, anyHidesDisjunction_eq_any, List.any_eq_false] at hhides
    rw [reading, disjunctReadings_eq_map, Condition.truthIn_grouped, truthIn_or, List.map_map]
    refine congrArg Truth.any (List.map_congr_left fun p hp => ?_)
    exact ih p hp (hparts p hp) (by simpa using hhides p hp)

/-! ## Simplifying constructors -/

/-- AND between the operands that are left is AND between all; where none are left to ask, it is
false. -/
theorem all_conjuncts (ps : List Predicate) :
    (match conjuncts? ps with
      | none => some false
      | some parts => Truth.all (parts.map (truthIn row scope)))
      = Truth.all (ps.map (truthIn row scope)) := by
  induction ps with
  | nil => rfl
  | cons p ps ih =>
    rw [List.map_cons, Truth.all_cons, ← ih]
    cases h : conjuncts? ps with
    | none => cases p <;> simp only [conjuncts?, h, Option.map_none, Truth.and_false]
    | some parts =>
      cases p with
      | always => simp only [conjuncts?, h]; rfl
      | never => simp only [conjuncts?]; rfl
      | and inner =>
        simp only [conjuncts?, h, Option.map_some, List.map_append, Truth.all_append, truthIn_and]
      | _ => simp only [conjuncts?, h, Option.map_some, List.map_cons, Truth.all_cons]

theorem truthIn_conj (ps : List Predicate) :
    (conj ps).truthIn row scope = Truth.all (ps.map (truthIn row scope)) := by
  rw [← all_conjuncts, conj]
  cases conjuncts? ps with
  | none => rfl
  | some parts =>
    cases parts with
    | nil => rfl
    | cons p rest =>
      cases rest with
      | nil => exact (Truth.and_true _).symm
      | cons q rest => exact truthIn_and _

/-- OR between the operands that are left is OR between all; where none are left to ask, it is
true. -/
theorem any_disjuncts (ps : List Predicate) :
    (match disjuncts? ps with
      | none => some true
      | some parts => Truth.any (parts.map (truthIn row scope)))
      = Truth.any (ps.map (truthIn row scope)) := by
  induction ps with
  | nil => rfl
  | cons p ps ih =>
    rw [List.map_cons, Truth.any_cons, ← ih]
    cases h : disjuncts? ps with
    | none => cases p <;> simp only [disjuncts?, h, Option.map_none, Truth.or_true]
    | some parts =>
      cases p with
      | always => simp only [disjuncts?]; rfl
      | never => simp only [disjuncts?, h]; rfl
      | or inner =>
        simp only [disjuncts?, h, Option.map_some, List.map_append, Truth.any_append, truthIn_or]
      | _ => simp only [disjuncts?, h, Option.map_some, List.map_cons, Truth.any_cons]

theorem truthIn_disj (ps : List Predicate) :
    (disj ps).truthIn row scope = Truth.any (ps.map (truthIn row scope)) := by
  rw [← any_disjuncts, disj]
  cases disjuncts? ps with
  | none => rfl
  | some parts =>
    cases parts with
    | nil => rfl
    | cons p rest =>
      cases rest with
      | nil => exact (Truth.or_false _).symm
      | cons q rest => exact truthIn_or _

theorem truthIn_negate (p : Predicate) :
    (negate p).truthIn row scope = (p.truthIn row scope).not := by
  cases p with
  | not p => exact (Truth.not_not _).symm
  | _ => rfl

/-! ## Predicates without scopes -/

mutual

/-- Whether no part of the predicate is about the elements of a list. -/
def isScopeless : Predicate → Bool
  | nested _ _ => false
  | not p => p.isScopeless
  | and parts => areScopeless parts
  | or parts => areScopeless parts
  | _ => true
  termination_by structural p => p

/-- Whether this is so for all of them. -/
def areScopeless : List Predicate → Bool
  | [] => true
  | p :: ps => p.isScopeless && areScopeless ps
  termination_by structural ps => ps

end

theorem areScopeless_iff (ps : List Predicate) :
    areScopeless ps = true ↔ ∀ p ∈ ps, p.isScopeless = true := by
  induction ps with
  | nil => simp [areScopeless]
  | cons p ps ih => simp [areScopeless, ih]

theorem isScopeless_and {parts : List Predicate} :
    (and parts).isScopeless = true ↔ ∀ p ∈ parts, p.isScopeless = true := by
  rw [isScopeless, areScopeless_iff]

theorem isScopeless_or {parts : List Predicate} :
    (or parts).isScopeless = true ↔ ∀ p ∈ parts, p.isScopeless = true := by
  rw [isScopeless, areScopeless_iff]

theorem isScopeless_conj {ps : List Predicate} (h : ∀ p ∈ ps, p.isScopeless = true) :
    (conj ps).isScopeless = true :=
  kept_conj (P := fun p => p.isScopeless = true) rfl rfl (fun _ => isScopeless_and) h

theorem isScopeless_disj {ps : List Predicate} (h : ∀ p ∈ ps, p.isScopeless = true) :
    (disj ps).isScopeless = true :=
  kept_disj (P := fun p => p.isScopeless = true) rfl rfl (fun _ => isScopeless_or) h

theorem isScopeless_negate {p : Predicate} (h : p.isScopeless = true) :
    (negate p).isScopeless = true := by
  cases p <;> exact h

/-- Without scopes there is no disjunction under a list. -/
theorem hidesDisjunction_of_isScopeless {p : Predicate} (h : p.isScopeless = true) :
    p.hidesDisjunction = false := by
  induction p using connectiveInduction with
  | always => rfl
  | never => rfl
  | test p ht => exact hidesDisjunction_of_isTest ht
  | nested field p ih => cases h
  | not p ih => exact ih h
  | and parts ih =>
    rw [isScopeless_and] at h
    rw [hidesDisjunction, anyHidesDisjunction_eq_any, Bool.or_eq_false_iff, List.any_eq_false,
      List.any_eq_false]
    refine ⟨fun p hp hnested => ?_, fun p hp => by simp [ih p hp (h p hp)]⟩
    have hp := h p hp
    cases p with
    | nested field q => cases hp
    | _ => cases hnested
  | or parts ih =>
    rw [isScopeless_or] at h
    rw [hidesDisjunction, anyHidesDisjunction_eq_any, List.any_eq_false]
    exact fun p hp => by simp [ih p hp (h p hp)]

/-- The condition for a predicate in normal form without scopes has one reading, which has the
predicate's truth value on every row. -/
theorem exists_reading_truthIn {p : Predicate} (h : p.IsNormal) (hscopeless : p.isScopeless = true)
    (t : Table) : ∃ c : Condition, IsReadingOf c t p ∧
      ∀ row, c.truthIn row = p.truthIn row [] := by
  rcases h with rfl | rfl | hs
  · exact ⟨.ofFactor (.test (.constant true)), isReadingOf_of_row t rfl rfl, fun _ => rfl⟩
  · exact ⟨.ofFactor (.test (.constant false)), isReadingOf_of_row t rfl rfl, fun _ => rfl⟩
  · exact ⟨reading [] p, isReadingOf_reading hs t, fun _ =>
      truthIn_reading hs (hidesDisjunction_of_isScopeless hscopeless)⟩

end Predicate

end ListingQuery
