import ListingQuery.Proofs.Filter.Normal
import ListingQuery.Proofs.Filter.Paths
import ListingQuery.Proofs.Predicate.Typed

/-!
# Compiled filters are typed

A literal is read from an operand as a value of the type in force, and no operator takes a value that
does not fit it.  So the predicates of a tree are typed, if for every filter that the tree keeps the
values that it reads are allowed at its field.

    (e.compile field type isList).IsTyped allowed scope (isTyped_compile)
    t.predicate.IsTyped allowed []                      (isTyped_predicate)
-/

namespace ListingQuery

open Predicate

namespace ColumnType

/-! ## Values -/

variable {raw : Json} {v : Literal}

theorem exists_of_convertString (h : convertString raw = some v) : ∃ s, v = .string s := by
  unfold convertString at h
  split at h
  · cases h
  · exact ⟨_, (Option.some.inj h).symm⟩
  · exact ⟨_, (Option.some.inj h).symm⟩
  · obtain ⟨s, -, rfl⟩ := Option.map_eq_some_iff.1 h
    exact ⟨s, rfl⟩

theorem exists_of_convertInteger (h : convertInteger raw = some v) : ∃ n, v = .integer n := by
  unfold convertInteger at h
  split at h
  · exact ⟨_, (Option.some.inj h).symm⟩
  · obtain ⟨text, -, h⟩ := Option.bind_eq_some_iff.1 h
    obtain ⟨n, -, h⟩ := Option.bind_eq_some_iff.1 h
    split at h
    · exact ⟨n, (Option.some.inj h).symm⟩
    · cases h

theorem exists_of_convertDouble (h : convertDouble raw = some v) :
    ∃ x, v = .double x ∧ x.isFinite = true := by
  -- only finite numbers are left
  have finite {x? : Option Float}
      (h : (x?.bind fun x => if x.isFinite then some (.double x) else none) = some v) :
      ∃ x, v = .double x ∧ x.isFinite = true := by
    obtain ⟨x, -, h⟩ := Option.bind_eq_some_iff.1 h
    split at h
    · exact ⟨x, (Option.some.inj h).symm, ‹_›⟩
    · cases h
  unfold convertDouble at h
  split at h <;> exact finite h

theorem exists_of_convertBoolean (h : convertBoolean raw = some v) : ∃ b, v = .boolean b := by
  unfold convertBoolean at h
  split at h
  · exact ⟨_, (Option.some.inj h).symm⟩
  · obtain ⟨text, -, h⟩ := Option.bind_eq_some_iff.1 h
    split at h <;> cases h <;> exact ⟨_, rfl⟩

theorem exists_of_convertDate (h : convertDate raw = some v) : ∃ t, v = .date t := by
  unfold convertDate at h
  split at h
  · obtain ⟨millis, -, h⟩ := Option.bind_eq_some_iff.1 h
    obtain ⟨t, -, h⟩ := Option.bind_eq_some_iff.1 h
    exact ⟨t, (Option.some.inj h).symm⟩
  · obtain ⟨t, -, rfl⟩ := Option.map_eq_some_iff.1 h
    exact ⟨t, rfl⟩
  · cases h

/-- What is read as a value of a type is one. -/
theorem proper_of_convert? {t : ColumnType} (h : t.convert? raw = some v) :
    v.IsProper ∧ v.columnType? = some t := by
  cases t with
  | string =>
    obtain ⟨s, rfl⟩ := exists_of_convertString h
    exact ⟨trivial, rfl⟩
  | integer =>
    obtain ⟨n, rfl⟩ := exists_of_convertInteger h
    exact ⟨trivial, rfl⟩
  | double =>
    obtain ⟨x, rfl, hfinite⟩ := exists_of_convertDouble h
    exact ⟨hfinite, rfl⟩
  | boolean =>
    obtain ⟨b, rfl⟩ := exists_of_convertBoolean h
    exact ⟨trivial, rfl⟩
  | date =>
    obtain ⟨t, rfl⟩ := exists_of_convertDate h
    exact ⟨trivial, rfl⟩

end ColumnType

namespace FilterExpression

/-- The untyped literals of an expression. -/
def operands (e : FilterExpression) : List Json :=
  e.eq?.toList ++ e.ne?.toList ++ e.among?.getD [] ++ e.notAmong?.getD [] ++ e.gt?.toList
    ++ e.gte?.toList ++ e.lt?.toList ++ e.lte?.toList

/-- The literal is one of the expression, read as a value of the type. -/
def Reads (e : FilterExpression) (type : ColumnType) (v : Literal) : Prop :=
  ∃ raw ∈ e.operands, type.convert? raw = some v

/-! ## Operators -/

section Operators

variable {allowed : FieldPath → Literal → Prop} {scope field : FieldPath} {type : ColumnType}

theorem isTyped_flagged {flag : Bool} {p : Predicate} (h : p.IsTyped allowed scope) :
    (flagged flag p).IsTyped allowed scope := by
  cases flag
  · exact isTyped_negate h
  · exact h

variable (hne : field ≠ [])
include hne

theorem isTyped_eqTest {raw : Json}
    (h : ∀ v, type.convert? raw = some v → allowed (scope ++ field) v) :
    (eqTest field type raw).IsTyped allowed scope := by
  rw [eqTest]
  split
  · exact hne
  · split
    · next v hv =>
      exact ⟨hne, ⟨(ColumnType.proper_of_convert? hv).1, h v hv⟩, fun hrange => by cases hrange⟩
    · trivial

theorem isTyped_neTest {raw : Json}
    (h : ∀ v, type.convert? raw = some v → allowed (scope ++ field) v) :
    (neTest field type raw).IsTyped allowed scope := by
  rw [neTest]
  split
  · exact isTyped_negate hne
  · split
    · next v hv =>
      exact ⟨hne, ⟨(ColumnType.proper_of_convert? hv).1, h v hv⟩, fun hrange => by cases hrange⟩
    · trivial

omit hne in
theorem fitting_of_mem_members {raws : List Json}
    (h : ∀ raw ∈ raws, ∀ v, type.convert? raw = some v → allowed (scope ++ field) v) :
    ∀ v ∈ members type raws, Fitting allowed (scope ++ field) v := by
  intro v hv
  obtain ⟨raw, hraw, hv⟩ := List.mem_filterMap.1 hv
  split at hv
  · cases hv
  · exact ⟨(ColumnType.proper_of_convert? hv).1, h raw hraw v hv⟩

theorem isTyped_amongTest {raws : List Json}
    (h : ∀ raw ∈ raws, ∀ v, type.convert? raw = some v → allowed (scope ++ field) v) :
    (amongTest field type raws).IsTyped allowed scope := by
  have hmembers (hvalues : members type raws ≠ []) :
      (among field (members type raws)).IsTyped allowed scope :=
    ⟨hne, hvalues, fitting_of_mem_members h⟩
  have hnull : (isNull field).IsTyped allowed scope := hne
  exact isTyped_disj (forall_setParts hmembers hnull)

theorem isTyped_notAmongTest {raws : List Json}
    (h : ∀ raw ∈ raws, ∀ v, type.convert? raw = some v → allowed (scope ++ field) v) :
    (notAmongTest field type raws).IsTyped allowed scope := by
  have hmembers (hvalues : members type raws ≠ []) :
      (notAmong field (members type raws)).IsTyped allowed scope :=
    ⟨hne, hvalues, fitting_of_mem_members h⟩
  have hnull : (negate (isNull field)).IsTyped allowed scope := isTyped_negate hne
  exact isTyped_conj (forall_setParts hmembers hnull)

theorem isTyped_rangeTest {op : Comparison} {raw : Json} {p : Predicate}
    (h : ∀ v, type.convert? raw = some v → allowed (scope ++ field) v)
    (hp : rangeTest field type op raw = some p) : p.IsTyped allowed scope := by
  rw [rangeTest] at hp
  split at hp
  · cases hp
  · next hcomparable =>
    split at hp
    · next v hv =>
      obtain ⟨hproper, htype⟩ := ColumnType.proper_of_convert? hv
      cases hp
      refine ⟨hne, ⟨hproper, h v hv⟩, ?_⟩
      rintro - b rfl
      cases htype
      exact hcomparable rfl
    · cases hp
      trivial

theorem isTyped_regexTest {pattern : String} {p : Predicate}
    (hp : regexTest field type pattern = some p) : p.IsTyped allowed scope := by
  rw [regexTest] at hp
  split at hp
  · cases hp
  · split at hp
    · next r hr =>
      cases hp
      exact ⟨hne, by rw [hr]; rfl⟩
    · cases hp
      trivial

theorem isTyped_likeTest {pattern : String} {p : Predicate}
    (hp : likeTest field type pattern = some p) : p.IsTyped allowed scope := by
  rw [likeTest] at hp
  split at hp
  · cases hp
    exact hne
  · cases hp

theorem isTyped_voidTest (emptiable : Bool) : (voidTest field emptiable).IsTyped allowed scope := by
  rw [voidTest]
  split
  · refine isTyped_disj fun p hp => ?_
    simp only [List.mem_cons, List.not_mem_nil, or_false] at hp
    rcases hp with rfl | rfl <;> exact hne
  · exact hne

/-! ## Expressions -/

theorem isTyped_of_mem_tests {e : FilterExpression} {isList : Bool} {p : Predicate}
    (hreads : ∀ v, e.Reads type v → allowed (scope ++ field) v)
    (h : p ∈ e.tests field type isList) : p.IsTyped allowed scope := by
  have operand {raw : Json} (hraw : raw ∈ e.operands) :
      ∀ v, type.convert? raw = some v → allowed (scope ++ field) v :=
    fun v hv => hreads v ⟨raw, hraw, hv⟩
  simp only [operands, List.mem_append, Option.mem_toList] at operand
  simp only [tests, List.mem_append, Option.mem_toList, Option.map_eq_some_iff,
    Option.bind_eq_some_iff, or_assoc] at h
  rcases h with ⟨raw, hraw, rfl⟩ | ⟨raw, hraw, rfl⟩ | ⟨raws, hraws, rfl⟩ | ⟨raws, hraws, rfl⟩ |
    ⟨raw, hraw, hp⟩ | ⟨raw, hraw, hp⟩ | ⟨raw, hraw, hp⟩ | ⟨raw, hraw, hp⟩ | ⟨pattern, -, hp⟩ |
    ⟨pattern, -, hp⟩ | ⟨wanted, -, rfl⟩ | ⟨flag, -, rfl⟩ | ⟨flag, -, hp⟩ | ⟨flag, -, rfl⟩
  · exact isTyped_eqTest hne (operand (by simp [hraw]))
  · exact isTyped_neTest hne (operand (by simp [hraw]))
  · exact isTyped_amongTest hne fun raw hmem => operand (by simp [hraws, hmem])
  · exact isTyped_notAmongTest hne fun raw hmem => operand (by simp [hraws, hmem])
  · exact isTyped_rangeTest hne (operand (by simp [hraw])) hp
  · exact isTyped_rangeTest hne (operand (by simp [hraw])) hp
  · exact isTyped_rangeTest hne (operand (by simp [hraw])) hp
  · exact isTyped_rangeTest hne (operand (by simp [hraw])) hp
  · exact isTyped_regexTest hne hp
  · exact isTyped_likeTest hne hp
  · exact hne
  · exact isTyped_flagged hne
  · split at hp
    · cases hp
      exact isTyped_flagged hne
    · cases hp
  · exact isTyped_flagged (isTyped_voidTest hne _)

/-- An expression compiles to typed predicates if what it reads is allowed at its field. -/
theorem isTyped_compile {e : FilterExpression} {isList : Bool} {p : Predicate}
    (hreads : ∀ v, e.Reads type v → allowed (scope ++ field) v)
    (hp : e.compile field type isList = p) : p.IsTyped allowed scope := by
  have htests : ∀ q ∈ e.tests field type isList, q.IsTyped allowed scope :=
    fun _ hq => isTyped_of_mem_tests hne hreads hq
  rw [← hp, compile]
  -- with the tests in the goal, its elaboration would evaluate all of them
  generalize e.tests field type isList = ps at htests ⊢
  exact isTyped_conj htests

end Operators

end FilterExpression

namespace FilterNode

variable {allowed : FieldPath → Literal → Prop}

/-! ## Nodes -/

/-- What the filter reads is allowed at the path. -/
def ReadsAllowed (allowed : FieldPath → Literal → Prop) (f : ColumnFilter) (path : FieldPath) :
    Prop :=
  ∀ v, f.expression.Reads f.columnType v → allowed path v

theorem child_ne_nil (base : FieldPath) (name : String) : base.child name ≠ [] := by
  simp [FieldPath.child]

theorem isTyped_of_mem_columns (n : FilterNode) : ∀ scope base,
    (∀ f path, LeadsTo (HasFilter f) n path → ReadsAllowed allowed f (scope ++ base ++ path)) →
      ∀ p ∈ columns base n, p.IsTyped allowed scope := by
  induction n using childInduction with
  | node n ih =>
    intro scope base hreads p hp
    have below (scope' base' : FieldPath) (hsame : scope' ++ base' = scope ++ base.child n.name) :
        ∀ p ∈ columnsOf base' n.children, p.IsTyped allowed scope' := by
      rw [columnsOf_eq_flatMap]
      intro p hp
      obtain ⟨c, hc, hp⟩ := List.mem_flatMap.1 hp
      refine ih c hc scope' base' (fun f path hf => ?_) p hp
      have hbelow := hreads f (n.name :: path) (.deeper hc hf)
      rw [hsame]
      simpa [FieldPath.child] using hbelow
    rw [columns_eq] at hp
    rcases List.mem_append.1 hp with hp | hp
    · obtain ⟨f, hf, hcompile⟩ := List.mem_map.1 hp
      have hhere := hreads f [n.name] (.here hf)
      rw [List.append_assoc] at hhere
      exact FilterExpression.isTyped_compile (child_ne_nil base n.name) hhere hcompile
    · split at hp
      · rw [List.mem_singleton.1 hp]
        exact isTyped_within (child_ne_nil base n.name)
          (isTyped_conj (below _ _ (List.append_nil _)))
      · exact below scope _ rfl p hp

theorem isTyped_of_mem_searches (needle : String) (n : FilterNode) : ∀ scope base,
    ∀ p ∈ searches needle base n, p.IsTyped allowed scope := by
  induction n using childInduction with
  | node n ih =>
    intro scope base p hp
    have below (scope base : FieldPath) :
        ∀ p ∈ searchesOf needle base n.children, p.IsTyped allowed scope := by
      rw [searchesOf_eq_flatMap]
      intro p hp
      obtain ⟨c, hc, hp⟩ := List.mem_flatMap.1 hp
      exact ih c hc scope base p hp
    rw [searches_eq] at hp
    rcases List.mem_append.1 hp with hp | hp
    · split at hp
      · rw [List.mem_singleton.1 hp]
        exact child_ne_nil base n.name
      · cases hp
    · split at hp
      · obtain ⟨q, hq, rfl⟩ := List.mem_map.1 hp
        exact isTyped_within (child_ne_nil base n.name) (below _ _ q hq)
      · exact below scope _ p hp

end FilterNode

namespace FilterTree

variable {allowed : FieldPath → Literal → Prop}

/-! ## Trees -/

theorem isTyped_predicate {t : FilterTree}
    (h : ∀ f path, t.LeadsTo (FilterNode.HasFilter f) path →
      FilterNode.ReadsAllowed allowed f path) : t.predicate.IsTyped allowed [] := by
  have columns : ∀ p ∈ FilterNode.columnsOf [] t.root.children, p.IsTyped allowed [] := by
    rw [FilterNode.columnsOf_eq_flatMap]
    intro p hp
    obtain ⟨n, hn, hp⟩ := List.mem_flatMap.1 hp
    exact FilterNode.isTyped_of_mem_columns n [] [] (fun f path hf => h f path ⟨n, hn, hf⟩) p hp
  refine isTyped_conj (List.forall_mem_cons.2 ⟨isTyped_conj columns, fun p hp => ?_⟩)
  rw [searchPart] at hp
  split at hp
  · cases hp
  · split at hp
    · cases hp
    · rw [List.mem_singleton.1 hp]
      refine isTyped_disj fun q hq => ?_
      rw [FilterNode.searchesOf_eq_flatMap] at hq
      obtain ⟨n, -, hq⟩ := List.mem_flatMap.1 hq
      exact FilterNode.isTyped_of_mem_searches _ n [] [] q hq

end FilterTree

end ListingQuery
