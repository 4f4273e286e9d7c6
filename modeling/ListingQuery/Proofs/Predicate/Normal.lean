import ListingQuery.Predicate.Basic

/-!
# Normal form

A predicate is solid if it has no constant anywhere, every conjunction and disjunction has at least
two parts, none of which is the same connective, and no negation is negated.  It is in normal form if
it is a constant or solid.  The simplifying constructors make normal forms of normal forms:

    IsNormal (conj ps), IsNormal (disj ps), IsNormal (negate p), IsNormal (within f p)

    conj ps = always ↔ every operand is always          (conj_eq_always_iff)
-/

namespace ListingQuery.Predicate

/-- Whether the predicate is a test of one field, without parts that are predicates. -/
def isTest : Predicate → Bool
  | compare .. => true
  | among .. => true
  | notAmong .. => true
  | like .. => true
  | regex .. => true
  | contains .. => true
  | present .. => true
  | isNull _ => true
  | isEmpty _ => true
  | _ => false

/-- Induction on the connectives, with all tests of a field as one case. -/
theorem connectiveInduction {motive : Predicate → Prop} (always : motive always)
    (never : motive never) (test : ∀ p, p.isTest = true → motive p)
    (nested : ∀ f p, motive p → motive (nested f p)) (not : ∀ p, motive p → motive (not p))
    (and : ∀ parts, (∀ p ∈ parts, motive p) → motive (and parts))
    (or : ∀ parts, (∀ p ∈ parts, motive p) → motive (or parts)) : ∀ p, motive p :=
  @Predicate.rec motive (fun ps => ∀ p ∈ ps, motive p) always never
    (fun _ _ _ => test _ rfl) (fun _ _ => test _ rfl) (fun _ _ => test _ rfl)
    (fun _ _ => test _ rfl) (fun _ _ => test _ rfl) (fun _ _ => test _ rfl)
    (fun _ _ => test _ rfl) (fun _ => test _ rfl) (fun _ => test _ rfl)
    (fun f p ih => nested f p ih) (fun p ih => not p ih) (fun parts ih => and parts ih)
    (fun parts ih => or parts ih) (by simp) (fun _ _ hp hps => List.forall_mem_cons.2 ⟨hp, hps⟩)

mutual

/-- Without constants, and without a connective that could be left out. -/
def IsSolid : Predicate → Prop
  | always => False
  | never => False
  | nested _ p => p.IsSolid
  | not p => p.IsSolid ∧ ∀ q, p ≠ not q
  | and parts => 2 ≤ parts.length ∧ AreSolid parts ∧ ∀ p ∈ parts, ∀ qs, p ≠ and qs
  | or parts => 2 ≤ parts.length ∧ AreSolid parts ∧ ∀ p ∈ parts, ∀ qs, p ≠ or qs
  | _ => True
  termination_by structural p => p

/-- All solid. -/
def AreSolid : List Predicate → Prop
  | [] => True
  | p :: ps => p.IsSolid ∧ AreSolid ps
  termination_by structural ps => ps

end

/-- A constant, or solid. -/
def IsNormal (p : Predicate) : Prop := p = always ∨ p = never ∨ p.IsSolid

/-! ## Solid predicates -/

theorem areSolid_iff (ps : List Predicate) : AreSolid ps ↔ ∀ p ∈ ps, p.IsSolid := by
  induction ps with
  | nil => simp [AreSolid]
  | cons p ps ih => simp [AreSolid, ih]

theorem isSolid_and {parts : List Predicate} : (and parts).IsSolid ↔
    2 ≤ parts.length ∧ (∀ p ∈ parts, p.IsSolid) ∧ ∀ p ∈ parts, ∀ qs, p ≠ and qs := by
  rw [IsSolid, areSolid_iff]

theorem isSolid_or {parts : List Predicate} : (or parts).IsSolid ↔
    2 ≤ parts.length ∧ (∀ p ∈ parts, p.IsSolid) ∧ ∀ p ∈ parts, ∀ qs, p ≠ or qs := by
  rw [IsSolid, areSolid_iff]

theorem isSolid_of_isTest {p : Predicate} (h : p.isTest = true) : p.IsSolid := by
  cases p <;> trivial

theorem IsSolid.ne_always {p : Predicate} (h : p.IsSolid) : p ≠ always := by
  rintro rfl
  exact h

theorem isNormal_of_isTest {p : Predicate} (h : p.isTest = true) : p.IsNormal :=
  .inr (.inr (isSolid_of_isTest h))

/-! ## Simplifying constructors -/

/-- What is left of normal operands is solid, and no conjunction. -/
theorem conjuncts_solid {ps parts : List Predicate} (hps : ∀ p ∈ ps, p.IsNormal)
    (h : conjuncts? ps = some parts) :
    ∀ p ∈ parts, p.IsSolid ∧ ∀ qs, p ≠ and qs := by
  induction ps generalizing parts with
  | nil =>
    cases h
    simp
  | cons p ps ih =>
    obtain ⟨hp, htail⟩ := List.forall_mem_cons.1 hps
    -- all but the constants and `and` keep the operand as it is
    have keep (hs : p.IsSolid) (hand : ∀ qs, p ≠ and qs)
        (h : (conjuncts? ps).map (p :: ·) = some parts) :
        ∀ p ∈ parts, p.IsSolid ∧ ∀ qs, p ≠ and qs := by
      obtain ⟨rest, hrest, rfl⟩ := Option.map_eq_some_iff.1 h
      exact List.forall_mem_cons.2 ⟨⟨hs, hand⟩, ih htail hrest⟩
    rcases hp with rfl | rfl | hs
    · exact ih htail h
    · cases h
    · cases p with
      | always => exact ih htail h
      | never => cases h
      | and inner =>
        obtain ⟨rest, hrest, rfl⟩ := Option.map_eq_some_iff.1 h
        obtain ⟨-, hsolid, hand⟩ := isSolid_and.1 hs
        exact List.forall_mem_append.2 ⟨fun q hq => ⟨hsolid q hq, hand q hq⟩, ih htail hrest⟩
      | _ => exact keep hs (by simp) h

theorem isNormal_conj {ps : List Predicate} (h : ∀ p ∈ ps, p.IsNormal) : (conj ps).IsNormal := by
  rw [conj]
  cases hc : conjuncts? ps with
  | none => exact .inr (.inl rfl)
  | some parts =>
    have hs := conjuncts_solid h hc
    match parts with
    | [] => exact .inl rfl
    | [p] => exact .inr (.inr (hs p (by simp)).1)
    | p :: q :: rest =>
      exact .inr (.inr (isSolid_and.2 ⟨by simp, fun r hr => (hs r hr).1, fun r hr => (hs r hr).2⟩))

/-- What is left of normal operands is solid, and no disjunction. -/
theorem disjuncts_solid {ps parts : List Predicate} (hps : ∀ p ∈ ps, p.IsNormal)
    (h : disjuncts? ps = some parts) :
    ∀ p ∈ parts, p.IsSolid ∧ ∀ qs, p ≠ or qs := by
  induction ps generalizing parts with
  | nil =>
    cases h
    simp
  | cons p ps ih =>
    obtain ⟨hp, htail⟩ := List.forall_mem_cons.1 hps
    have keep (hs : p.IsSolid) (hor : ∀ qs, p ≠ or qs)
        (h : (disjuncts? ps).map (p :: ·) = some parts) :
        ∀ p ∈ parts, p.IsSolid ∧ ∀ qs, p ≠ or qs := by
      obtain ⟨rest, hrest, rfl⟩ := Option.map_eq_some_iff.1 h
      exact List.forall_mem_cons.2 ⟨⟨hs, hor⟩, ih htail hrest⟩
    rcases hp with rfl | rfl | hs
    · cases h
    · exact ih htail h
    · cases p with
      | always => cases h
      | never => exact ih htail h
      | or inner =>
        obtain ⟨rest, hrest, rfl⟩ := Option.map_eq_some_iff.1 h
        obtain ⟨-, hsolid, hor⟩ := isSolid_or.1 hs
        exact List.forall_mem_append.2 ⟨fun q hq => ⟨hsolid q hq, hor q hq⟩, ih htail hrest⟩
      | _ => exact keep hs (by simp) h

theorem isNormal_disj {ps : List Predicate} (h : ∀ p ∈ ps, p.IsNormal) : (disj ps).IsNormal := by
  rw [disj]
  cases hd : disjuncts? ps with
  | none => exact .inl rfl
  | some parts =>
    have hs := disjuncts_solid h hd
    match parts with
    | [] => exact .inr (.inl rfl)
    | [p] => exact .inr (.inr (hs p (by simp)).1)
    | p :: q :: rest =>
      exact .inr (.inr (isSolid_or.2 ⟨by simp, fun r hr => (hs r hr).1, fun r hr => (hs r hr).2⟩))

theorem isNormal_negate {p : Predicate} (h : p.IsNormal) : (negate p).IsNormal := by
  rcases h with rfl | rfl | hs
  · exact .inr (.inl rfl)
  · exact .inl rfl
  · cases p with
    | always => cases hs
    | never => cases hs
    | not q => exact .inr (.inr hs.1)
    | _ => exact .inr (.inr ⟨hs, by simp⟩)

theorem isNormal_within {p : Predicate} (f : FieldPath) (h : p.IsNormal) :
    (within f p).IsNormal := by
  rcases h with rfl | rfl | hs
  · exact .inl rfl
  · exact .inr (.inl rfl)
  · cases p with
    | always => cases hs
    | never => cases hs
    | _ => exact .inr (.inr hs)

/-! ## Constants -/

theorem within_eq_always_iff {f : FieldPath} {p : Predicate} :
    within f p = always ↔ p = always := by
  cases p <;> simp [within]

/-- Nothing is left of normal operands exactly if all of them always hold. -/
theorem conjuncts_eq_nil_iff {ps : List Predicate} (hps : ∀ p ∈ ps, p.IsNormal) :
    conjuncts? ps = some [] ↔ ∀ p ∈ ps, p = always := by
  induction ps with
  | nil => simp [conjuncts?]
  | cons p ps ih =>
    obtain ⟨hp, hps⟩ := List.forall_mem_cons.1 hps
    rw [List.forall_mem_cons, ← ih hps]
    rcases hp with rfl | rfl | hs
    · simp [conjuncts?]
    · simp [conjuncts?]
    · cases p with
      | always => cases hs
      | never => cases hs
      | and inner =>
        have hne : inner ≠ [] := by
          rintro rfl
          exact absurd (isSolid_and.1 hs).1 (by simp)
        simp [conjuncts?, hne]
      | _ => simp [conjuncts?]

theorem conj_eq_always_iff {ps : List Predicate} (hps : ∀ p ∈ ps, p.IsNormal) :
    conj ps = always ↔ ∀ p ∈ ps, p = always := by
  rw [← conjuncts_eq_nil_iff hps, conj]
  cases hc : conjuncts? ps with
  | none => simp
  | some parts =>
    match parts with
    | [] => simp
    | [p] => simp [(conjuncts_solid hps hc p (by simp)).1.ne_always]
    | p :: q :: rest => simp

/-! ## Operands -/

/-- The operands that a conjunction was left with; `none` if one of them never held. -/
def conjunctsOf? : Predicate → Option (List Predicate)
  | always => some []
  | never => none
  | and parts => some parts
  | p => some [p]

/-- The operands that a disjunction was left with; `none` if one of them always held. -/
def disjunctsOf? : Predicate → Option (List Predicate)
  | never => some []
  | always => none
  | or parts => some parts
  | p => some [p]

/-- Of normal operands, a conjunction shows what is left of them. -/
theorem conjunctsOf?_conj {ps : List Predicate} (h : ∀ p ∈ ps, p.IsNormal) :
    conjunctsOf? (conj ps) = conjuncts? ps := by
  rw [conj]
  cases hc : conjuncts? ps with
  | none => rfl
  | some parts =>
    match parts with
    | [] => rfl
    | p :: q :: rest => rfl
    | [p] =>
      obtain ⟨hs, hand⟩ := conjuncts_solid h hc p List.mem_cons_self
      cases p with
      | always => cases hs
      | never => cases hs
      | and parts => exact absurd rfl (hand parts)
      | _ => rfl

/-- One operand that can hold is left with whatever is left of the others. -/
theorem exists_conjuncts_cons {p : Predicate} (h : p ≠ never) :
    ∃ parts, ∀ ps, conjuncts? (p :: ps) = (conjuncts? ps).map (parts ++ ·) := by
  cases p with
  | never => exact absurd rfl h
  | always => exact ⟨[], fun ps => by cases h : conjuncts? ps <;> simp [conjuncts?, h]⟩
  | and parts => exact ⟨parts, fun ps => rfl⟩
  | _ => exact ⟨[_], fun ps => rfl⟩

/-- Operands that are no constants and no connectives are left as they are. -/
theorem disjuncts_eq_self {ps : List Predicate}
    (h : ∀ p ∈ ps, p.IsSolid ∧ p.isCompound = false) : disjuncts? ps = some ps := by
  induction ps with
  | nil => rfl
  | cons p ps ih =>
    obtain ⟨⟨hs, hp⟩, hps⟩ := List.forall_mem_cons.1 h
    cases p with
    | always => cases hs
    | never => cases hs
    | and parts => cases hp
    | or parts => cases hp
    | _ => simp [disjuncts?, ih hps]

/-- A disjunction of such operands is one operand of a conjunction. -/
theorem conjuncts_disj {ps : List Predicate} (h : ∀ p ∈ ps, p.IsSolid ∧ p.isCompound = false)
    (hne : ps ≠ []) : conjuncts? [disj ps] = some [disj ps] := by
  rw [disj, disjuncts_eq_self h]
  match ps with
  | [] => exact absurd rfl hne
  | p :: q :: rest => rfl
  | [p] =>
    obtain ⟨hs, hp⟩ := h p List.mem_cons_self
    cases p with
    | always => cases hs
    | never => cases hs
    | and parts => cases hp
    | _ => rfl

/-- Of normal operands, a disjunction shows what is left of them. -/
theorem disjunctsOf?_disj {ps : List Predicate} (h : ∀ p ∈ ps, p.IsNormal) :
    disjunctsOf? (disj ps) = disjuncts? ps := by
  rw [disj]
  cases hd : disjuncts? ps with
  | none => rfl
  | some parts =>
    match parts with
    | [] => rfl
    | p :: q :: rest => rfl
    | [p] =>
      obtain ⟨hs, hor⟩ := disjuncts_solid h hd p List.mem_cons_self
      cases p with
      | always => cases hs
      | never => cases hs
      | or parts => exact absurd rfl (hor parts)
      | _ => rfl

end ListingQuery.Predicate
