import ListingQuery.Predicate.Matches

/-!
# What the connectives mean

The connectives and their simplifying constructors, read as statements about one document.

    (and parts) holds ↔ every part holds                (holds_and)
    (conj ps) holds ↔ every operand holds               (holds_conj)
    (disj ps) holds ↔ some operand holds                (holds_disj)
    (within f p) holds ↔ p always holds, or some element at f satisfies p   (holds_within)

The operands may have any form, constants and operands of the same connective included.  Only a scope
can change its meaning: with nothing to ask of an element, the simplified one asks for no element.

    (within f p) and (nested f p) agree on all documents ↔ p ≠ always   (within_agrees_iff)
-/

namespace ListingQuery.Predicate

/-! ## Connectives -/

theorem allHold_iff (ps : List Predicate) (d : Json) :
    allHold ps d = true ↔ ∀ p ∈ ps, p.holds d = true := by
  induction ps with
  | nil => simp [allHold]
  | cons p ps ih => simp [allHold, ih]

theorem anyHolds_iff (ps : List Predicate) (d : Json) :
    anyHolds ps d = true ↔ ∃ p ∈ ps, p.holds d = true := by
  induction ps with
  | nil => simp [anyHolds]
  | cons p ps ih => simp [anyHolds, ih]

@[simp] theorem holds_always (d : Json) : always.holds d = true := rfl

@[simp] theorem holds_never (d : Json) : never.holds d = false := rfl

@[simp] theorem holds_not (p : Predicate) (d : Json) : (not p).holds d = !p.holds d := rfl

theorem holds_and (parts : List Predicate) (d : Json) :
    (and parts).holds d = true ↔ ∀ p ∈ parts, p.holds d = true := by
  rw [holds, allHold_iff]

theorem holds_or (parts : List Predicate) (d : Json) :
    (or parts).holds d = true ↔ ∃ p ∈ parts, p.holds d = true := by
  rw [holds, anyHolds_iff]

theorem holds_nested (f : FieldPath) (p : Predicate) (d : Json) :
    (nested f p).holds d = true ↔ ∃ e ∈ d.elementsAt f, p.holds e = true := by
  rw [holds, List.any_eq_true]

/-! ## Simplifying constructors -/

/-- The operands that are left of a conjunction mean what all of them meant; where none are left to
ask, some operand never holds. -/
theorem holds_conjuncts (ps : List Predicate) (d : Json) :
    (match conjuncts? ps with
      | none => False
      | some parts => ∀ p ∈ parts, p.holds d = true) ↔ ∀ p ∈ ps, p.holds d = true := by
  induction ps with
  | nil => simp [conjuncts?]
  | cons p ps ih =>
    cases h : conjuncts? ps with
    | none =>
      rw [h] at ih
      have hne : ¬ ∀ p ∈ ps, p.holds d = true := fun hp => ih.2 hp
      cases p <;> simp [conjuncts?, h] <;> intros <;> simpa using hne
    | some parts =>
      rw [h] at ih
      simp only [List.forall_mem_cons, ← ih]
      cases p <;> simp only [conjuncts?, h, Option.map_some, List.forall_mem_cons, holds_always,
        holds_never, true_and, Bool.false_eq_true, false_and]
      next inner => rw [List.forall_mem_append, holds_and]

theorem holds_conj (ps : List Predicate) (d : Json) :
    (conj ps).holds d = true ↔ ∀ p ∈ ps, p.holds d = true := by
  rw [← holds_conjuncts, conj]
  cases conjuncts? ps with
  | none => simp
  | some parts =>
    match parts with
    | [] => simp
    | [p] => simp
    | p :: q :: rest => exact holds_and _ _

/-- The operands that are left of a disjunction mean what some of them meant; where none are left to
ask, some operand always holds. -/
theorem holds_disjuncts (ps : List Predicate) (d : Json) :
    (match disjuncts? ps with
      | none => True
      | some parts => ∃ p ∈ parts, p.holds d = true) ↔ ∃ p ∈ ps, p.holds d = true := by
  induction ps with
  | nil => simp [disjuncts?]
  | cons p ps ih =>
    cases h : disjuncts? ps with
    | none =>
      rw [h] at ih
      have hex : ∃ p ∈ ps, p.holds d = true := ih.1 trivial
      cases p <;> simp [disjuncts?, h] <;> first | exact hex | exact Or.inr hex
    | some parts =>
      rw [h] at ih
      simp only [List.mem_cons, exists_eq_or_imp, ← ih]
      cases p <;> simp only [disjuncts?, h, Option.map_some, List.mem_cons, exists_eq_or_imp,
        holds_always, holds_never, true_or, Bool.false_eq_true, false_or]
      next inner =>
        simp only [holds_or, List.mem_append, or_and_right, exists_or]

theorem holds_disj (ps : List Predicate) (d : Json) :
    (disj ps).holds d = true ↔ ∃ p ∈ ps, p.holds d = true := by
  rw [← holds_disjuncts, disj]
  cases disjuncts? ps with
  | none => simp
  | some parts =>
    match parts with
    | [] => simp
    | [p] => simp
    | p :: q :: rest => exact holds_or _ _

theorem holds_negate (p : Predicate) (d : Json) : (negate p).holds d = !p.holds d := by
  cases p <;> simp [negate]

/-- A scope that has nothing to ask needs no element; any other does. -/
theorem holds_within (f : FieldPath) (p : Predicate) (d : Json) :
    (within f p).holds d = true ↔ p = always ∨ ∃ e ∈ d.elementsAt f, p.holds e = true := by
  cases p <;> simp [within, holds_nested]

/-- A simplified scope means what the scope means, unless it has nothing to ask. -/
theorem within_agrees_iff (f : FieldPath) (p : Predicate) :
    (∀ d : Json, (within f p).holds d = (nested f p).holds d) ↔ p ≠ always := by
  constructor
  · rintro hagree rfl
    -- a document without elements tells the two apart
    have hnone : (Json.array []).elementsAt f = [] := by cases f <;> rfl
    have hempty := hagree (.array [])
    rw [within, holds_always, holds, hnone] at hempty
    cases hempty
  · intro hne d
    rw [Bool.eq_iff_iff, holds_within, holds_nested, or_iff_right hne]

/-- Simplification keeps the meaning, whatever the form of the operands: a conjunction asks for all
of them, a disjunction for some of them, a negation for the opposite, and a scope for an element that
satisfies its predicate.  Only a scope of the predicate that always holds is not kept. -/
theorem simplification_keeps_meaning :
    (∀ (ps : List Predicate) (d : Json),
      (conj ps).holds d = true ↔ ∀ p ∈ ps, p.holds d = true) ∧
    (∀ (ps : List Predicate) (d : Json),
      (disj ps).holds d = true ↔ ∃ p ∈ ps, p.holds d = true) ∧
    (∀ (p : Predicate) (d : Json), (negate p).holds d = true ↔ ¬ p.holds d = true) ∧
    (∀ (f : FieldPath) (p : Predicate),
      (∀ d : Json, (within f p).holds d = (nested f p).holds d) ↔ p ≠ always) := by
  refine ⟨holds_conj, holds_disj, fun p d => ?_, within_agrees_iff⟩
  rw [holds_negate, Bool.not_eq_true', Bool.not_eq_true]

end ListingQuery.Predicate
