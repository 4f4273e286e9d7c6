import ListingQuery.Proofs.Predicate.Normal
import ListingQuery.Regex.Parser

/-!
# Typed predicates

What a store may rely on in the tests of a predicate.  No path and no set is empty; a literal is a
value, finite if it is a double, and one that is allowed at its field; no boolean is compared by
order; every pattern is a regular expression.  Which literals are allowed at a field is a parameter,
and fields are named from the document, through all lists.

Together with the normal form this is the form of the predicates that stores are sent.  The
simplifying constructors keep it, as they keep the normal form:

    IsTyped (conj ps), IsTyped (disj ps), IsTyped (negate p), IsTyped (within f p)
-/

namespace ListingQuery

/-- A value, and finite if it is a double. -/
def Literal.IsProper : Literal → Prop
  | null => False
  | double x => x.isFinite = true
  | _ => True

/-- Whether the comparison is one of order. -/
def Comparison.isRange : Comparison → Bool
  | eq => false
  | ne => false
  | _ => true

namespace Predicate

variable {allowed allowed' : FieldPath → Literal → Prop} {scope : FieldPath}

/-- A literal that a test of the field may have. -/
def Fitting (allowed : FieldPath → Literal → Prop) (field : FieldPath) (v : Literal) : Prop :=
  v.IsProper ∧ allowed field v

mutual

/-- Every test has a path, literals that fit, and a pattern that is one; `scope` is the path to the
element that is tested. -/
def IsTyped (allowed : FieldPath → Literal → Prop) (scope : FieldPath) : Predicate → Prop
  | compare field op v => field ≠ [] ∧ Fitting allowed (scope ++ field) v ∧
      (op.isRange = true → ∀ b, v ≠ .boolean b)
  | among field vs => field ≠ [] ∧ vs ≠ [] ∧ ∀ v ∈ vs, Fitting allowed (scope ++ field) v
  | notAmong field vs => field ≠ [] ∧ vs ≠ [] ∧ ∀ v ∈ vs, Fitting allowed (scope ++ field) v
  | regex field pattern => field ≠ [] ∧ (Regex.Pattern.ofText? pattern).isSome = true
  | like field _ => field ≠ []
  | contains field _ => field ≠ []
  | present field _ => field ≠ []
  | isNull field => field ≠ []
  | isEmpty field => field ≠ []
  | nested field p => field ≠ [] ∧ p.IsTyped allowed (scope ++ field)
  | not p => p.IsTyped allowed scope
  | and parts => AreTyped allowed scope parts
  | or parts => AreTyped allowed scope parts
  | always => True
  | never => True
  termination_by structural p => p

/-- All typed. -/
def AreTyped (allowed : FieldPath → Literal → Prop) (scope : FieldPath) : List Predicate → Prop
  | [] => True
  | p :: ps => p.IsTyped allowed scope ∧ AreTyped allowed scope ps
  termination_by structural ps => ps

end

/-- The form of the predicates that stores are sent. -/
structure InForm (allowed : FieldPath → Literal → Prop) (p : Predicate) : Prop where
  normal : p.IsNormal
  typed : p.IsTyped allowed []

/-! ## Connectives -/

theorem areTyped_iff (ps : List Predicate) :
    AreTyped allowed scope ps ↔ ∀ p ∈ ps, p.IsTyped allowed scope := by
  induction ps with
  | nil => simp [AreTyped]
  | cons p ps ih => simp [AreTyped, ih]

theorem isTyped_and {parts : List Predicate} :
    (and parts).IsTyped allowed scope ↔ ∀ p ∈ parts, p.IsTyped allowed scope := by
  rw [IsTyped, areTyped_iff]

theorem isTyped_or {parts : List Predicate} :
    (or parts).IsTyped allowed scope ↔ ∀ p ∈ parts, p.IsTyped allowed scope := by
  rw [IsTyped, areTyped_iff]

/-- What holds of all operands, and of the parts of a conjunction with it, holds of what is left of
the operands of a conjunction. -/
theorem forall_conjuncts {P : Predicate → Prop}
    (hand : ∀ parts, P (and parts) → ∀ p ∈ parts, P p) {ps parts : List Predicate}
    (hps : ∀ p ∈ ps, P p) (h : conjuncts? ps = some parts) : ∀ p ∈ parts, P p := by
  induction ps generalizing parts with
  | nil =>
    cases h
    simp
  | cons p ps ih =>
    obtain ⟨hp, htail⟩ := List.forall_mem_cons.1 hps
    have keep (h : (conjuncts? ps).map (p :: ·) = some parts) : ∀ p ∈ parts, P p := by
      obtain ⟨rest, hrest, rfl⟩ := Option.map_eq_some_iff.1 h
      exact List.forall_mem_cons.2 ⟨hp, ih htail hrest⟩
    cases p with
    | always => exact ih htail h
    | never => cases h
    | and inner =>
      obtain ⟨rest, hrest, rfl⟩ := Option.map_eq_some_iff.1 h
      exact List.forall_mem_append.2 ⟨hand inner hp, ih htail hrest⟩
    | _ => exact keep h

/-- What holds of all operands, and of the parts of a disjunction with it, holds of what is left of
the operands of a disjunction. -/
theorem forall_disjuncts {P : Predicate → Prop}
    (hor : ∀ parts, P (or parts) → ∀ p ∈ parts, P p) {ps parts : List Predicate}
    (hps : ∀ p ∈ ps, P p) (h : disjuncts? ps = some parts) : ∀ p ∈ parts, P p := by
  induction ps generalizing parts with
  | nil =>
    cases h
    simp
  | cons p ps ih =>
    obtain ⟨hp, htail⟩ := List.forall_mem_cons.1 hps
    have keep (h : (disjuncts? ps).map (p :: ·) = some parts) : ∀ p ∈ parts, P p := by
      obtain ⟨rest, hrest, rfl⟩ := Option.map_eq_some_iff.1 h
      exact List.forall_mem_cons.2 ⟨hp, ih htail hrest⟩
    cases p with
    | always => cases h
    | never => exact ih htail h
    | or inner =>
      obtain ⟨rest, hrest, rfl⟩ := Option.map_eq_some_iff.1 h
      exact List.forall_mem_append.2 ⟨hor inner hp, ih htail hrest⟩
    | _ => exact keep h

/-- A conjunction has what all its operands have, if conjunctions have exactly what all their parts
have. -/
theorem kept_conj {P : Predicate → Prop} (halways : P always) (hnever : P never)
    (hand : ∀ parts, P (and parts) ↔ ∀ p ∈ parts, P p) {ps : List Predicate}
    (h : ∀ p ∈ ps, P p) : P (conj ps) := by
  rw [conj]
  cases hc : conjuncts? ps with
  | none => exact hnever
  | some parts =>
    have hparts := forall_conjuncts (fun parts => (hand parts).1) h hc
    cases parts with
    | nil => exact halways
    | cons p rest =>
      cases rest with
      | nil => exact hparts p (List.mem_singleton_self p)
      | cons q rest => exact (hand _).2 hparts

/-- A disjunction has what all its operands have, if disjunctions have exactly what all their parts
have. -/
theorem kept_disj {P : Predicate → Prop} (halways : P always) (hnever : P never)
    (hor : ∀ parts, P (or parts) ↔ ∀ p ∈ parts, P p) {ps : List Predicate}
    (h : ∀ p ∈ ps, P p) : P (disj ps) := by
  rw [disj]
  cases hd : disjuncts? ps with
  | none => exact halways
  | some parts =>
    have hparts := forall_disjuncts (fun parts => (hor parts).1) h hd
    cases parts with
    | nil => exact hnever
    | cons p rest =>
      cases rest with
      | nil => exact hparts p (List.mem_singleton_self p)
      | cons q rest => exact (hor _).2 hparts

theorem isTyped_conj {ps : List Predicate} (h : ∀ p ∈ ps, p.IsTyped allowed scope) :
    (conj ps).IsTyped allowed scope :=
  kept_conj trivial trivial (fun _ => isTyped_and) h

theorem isTyped_disj {ps : List Predicate} (h : ∀ p ∈ ps, p.IsTyped allowed scope) :
    (disj ps).IsTyped allowed scope :=
  kept_disj trivial trivial (fun _ => isTyped_or) h

theorem isTyped_negate {p : Predicate} (h : p.IsTyped allowed scope) :
    (negate p).IsTyped allowed scope := by
  cases p <;> exact h

theorem isTyped_within {field : FieldPath} (hne : field ≠ []) {p : Predicate}
    (h : p.IsTyped allowed (scope ++ field)) : (within field p).IsTyped allowed scope := by
  cases p with
  | always => trivial
  | never => trivial
  | _ => exact ⟨hne, h⟩

/-! ## Allowed literals -/

/-- If more literals are allowed, a predicate stays typed. -/
theorem IsTyped.mono (hallowed : ∀ field v, allowed field v → allowed' field v) {p : Predicate} :
    ∀ {scope : FieldPath}, p.IsTyped allowed scope → p.IsTyped allowed' scope := by
  have fitting {field : FieldPath} {v : Literal} (h : Fitting allowed field v) :
      Fitting allowed' field v := ⟨h.1, hallowed field v h.2⟩
  induction p using connectiveInduction with
  | always => exact id
  | never => exact id
  | test p htest =>
    intro scope h
    cases p with
    | compare => exact ⟨h.1, fitting h.2.1, h.2.2⟩
    | among => exact ⟨h.1, h.2.1, fun v hv => fitting (h.2.2 v hv)⟩
    | notAmong => exact ⟨h.1, h.2.1, fun v hv => fitting (h.2.2 v hv)⟩
    | always => cases htest
    | never => cases htest
    | nested => cases htest
    | not => cases htest
    | and => cases htest
    | or => cases htest
    | _ => exact h
  | nested f p ih => exact fun h => ⟨h.1, ih h.2⟩
  | not p ih => exact fun h => @ih _ h
  | and parts ih => exact fun h => isTyped_and.2 fun p hp => ih p hp (isTyped_and.1 h p hp)
  | or parts ih => exact fun h => isTyped_or.2 fun p hp => ih p hp (isTyped_or.1 h p hp)

/-! ## The whole form -/

theorem InForm.mono (hallowed : ∀ field v, allowed field v → allowed' field v) {p : Predicate}
    (h : p.InForm allowed) : p.InForm allowed' := ⟨h.normal, h.typed.mono hallowed⟩

theorem inForm_conj {ps : List Predicate} (h : ∀ p ∈ ps, p.InForm allowed) :
    (conj ps).InForm allowed :=
  ⟨isNormal_conj fun p hp => (h p hp).normal, isTyped_conj fun p hp => (h p hp).typed⟩

end Predicate

end ListingQuery
