import ListingQuery.Proofs.Predicate.Normal
import ListingQuery.Proofs.Query.Assembly

/-!
# Compiled filters are in normal form

A property that tests of a field have, and that the simplifying constructors keep, holds of whatever
an operator compiles to.  The normal form is one.  So whole expressions are in normal form, the
filters and searches of a tree, and the query that is assembled from a description.

    P is kept → P p for every p ∈ e.tests …             (isKept_of_mem_tests)
    (e.compile field type isList).IsNormal              (isNormal_compile)
    t.predicate.IsNormal                                (isNormal_predicate)
-/

namespace ListingQuery

open Predicate

/-- A property that the constants and the tests of a field have, and that the simplifying
constructors keep. -/
structure Predicate.IsKept (P : Predicate → Prop) : Prop where
  always : P always
  never : P never
  test : ∀ p, p.isTest = true → P p
  conj : ∀ ps, (∀ p ∈ ps, P p) → P (conj ps)
  disj : ∀ ps, (∀ p ∈ ps, P p) → P (disj ps)
  negate : ∀ p, P p → P (negate p)

theorem Predicate.isKept_isNormal : IsKept IsNormal where
  always := .inl rfl
  never := .inr (.inl rfl)
  test _ := isNormal_of_isTest
  conj _ := isNormal_conj
  disj _ := isNormal_disj
  negate _ := isNormal_negate

namespace FilterExpression

variable {field : FieldPath} {type : ColumnType}

/-! ## Operators -/

section Operators

variable {P : Predicate → Prop} (hP : IsKept P)
include hP

theorem isKept_flagged {flag : Bool} {p : Predicate} (h : P p) : P (flagged flag p) := by
  cases flag
  · exact hP.negate p h
  · exact h

theorem isKept_eqTest (raw : Json) : P (eqTest field type raw) := by
  rw [eqTest]
  split
  · exact hP.test _ rfl
  · split
    · exact hP.test _ rfl
    · exact hP.never

theorem isKept_neTest (raw : Json) : P (neTest field type raw) := by
  rw [neTest]
  split
  · exact hP.negate _ (hP.test _ rfl)
  · split
    · exact hP.test _ rfl
    · exact hP.always

omit hP in
/-- What the predicates on the members of a set, if there are any, and on null have, its parts
have. -/
theorem forall_setParts {p q : Predicate} {values : List Literal} {raws : List Json}
    (hp : values ≠ [] → P p) (hq : P q) : ∀ r ∈ membersPart values p ++ nullPart raws q, P r := by
  intro r hr
  rw [membersPart, nullPart] at hr
  rcases List.mem_append.1 hr with hr | hr
  · split at hr
    · cases hr
    · next hvalues =>
      rw [List.mem_singleton.1 hr]
      exact hp fun hnil => hvalues (by simp [hnil])
  · split at hr
    · rwa [List.mem_singleton.1 hr]
    · cases hr

theorem isKept_amongTest (raws : List Json) : P (amongTest field type raws) :=
  hP.disj _ (forall_setParts (fun _ => hP.test _ rfl) (hP.test _ rfl))

theorem isKept_notAmongTest (raws : List Json) : P (notAmongTest field type raws) :=
  hP.conj _ (forall_setParts (fun _ => hP.test _ rfl) (hP.negate _ (hP.test _ rfl)))

theorem isKept_rangeTest {op : Comparison} {raw : Json} {p : Predicate}
    (h : rangeTest field type op raw = some p) : P p := by
  rw [rangeTest] at h
  split at h
  · cases h
  · split at h
    · cases h
      exact hP.test _ rfl
    · cases h
      exact hP.never

theorem isKept_regexTest {pattern : String} {p : Predicate}
    (h : regexTest field type pattern = some p) : P p := by
  rw [regexTest] at h
  split at h
  · cases h
  · split at h
    · cases h
      exact hP.test _ rfl
    · cases h
      exact hP.never

theorem isKept_likeTest {pattern : String} {p : Predicate}
    (h : likeTest field type pattern = some p) : P p := by
  rw [likeTest] at h
  split at h
  · cases h
    exact hP.test _ rfl
  · cases h

theorem isKept_voidTest (emptiable : Bool) : P (voidTest field emptiable) := by
  rw [voidTest]
  split
  · refine hP.disj _ fun p hp => ?_
    simp only [List.mem_cons, List.not_mem_nil, or_false] at hp
    rcases hp with rfl | rfl <;> exact hP.test _ rfl
  · exact hP.test _ rfl

/-! ## Expressions -/

/-- A property that is kept holds of every operator's predicate. -/
theorem isKept_of_mem_tests {e : FilterExpression} {isList : Bool} {p : Predicate}
    (h : p ∈ e.tests field type isList) : P p := by
  simp only [tests, List.mem_append, Option.mem_toList, Option.map_eq_some_iff,
    Option.bind_eq_some_iff, or_assoc] at h
  rcases h with ⟨raw, -, rfl⟩ | ⟨raw, -, rfl⟩ | ⟨raws, -, rfl⟩ | ⟨raws, -, rfl⟩ | ⟨raw, -, hr⟩ |
    ⟨raw, -, hr⟩ | ⟨raw, -, hr⟩ | ⟨raw, -, hr⟩ | ⟨pattern, -, hr⟩ | ⟨pattern, -, hr⟩ |
    ⟨wanted, -, rfl⟩ | ⟨flag, -, rfl⟩ | ⟨flag, -, hr⟩ | ⟨flag, -, rfl⟩
  · exact isKept_eqTest hP raw
  · exact isKept_neTest hP raw
  · exact isKept_amongTest hP raws
  · exact isKept_notAmongTest hP raws
  · exact isKept_rangeTest hP hr
  · exact isKept_rangeTest hP hr
  · exact isKept_rangeTest hP hr
  · exact isKept_rangeTest hP hr
  · exact isKept_regexTest hP hr
  · exact isKept_likeTest hP hr
  · exact hP.test _ rfl
  · exact isKept_flagged hP (hP.test _ rfl)
  · split at hr
    · cases hr
      exact isKept_flagged hP (hP.test _ rfl)
    · cases hr
  · exact isKept_flagged hP (isKept_voidTest hP _)

end Operators

/-- Every operator that is set yields a predicate in normal form. -/
theorem isNormal_of_mem_tests {e : FilterExpression} {isList : Bool} {p : Predicate}
    (h : p ∈ e.tests field type isList) : p.IsNormal :=
  isKept_of_mem_tests isKept_isNormal h

theorem isNormal_compile (e : FilterExpression) (field : FieldPath) (type : ColumnType)
    (isList : Bool) : (e.compile field type isList).IsNormal :=
  isNormal_conj fun _ h => isNormal_of_mem_tests h

end FilterExpression

namespace FilterNode

/-! ## Nodes -/

/-- Induction on the fields below a node. -/
theorem childInduction {motive : FilterNode → Prop}
    (node : ∀ n, (∀ c ∈ n.children, motive c) → motive n) : ∀ n, motive n :=
  @FilterNode.rec motive (fun ns => ∀ n ∈ ns, motive n)
    (fun _ _ _ _ _ ih => node _ ih) (by simp)
    (fun _ _ hn hns => List.forall_mem_cons.2 ⟨hn, hns⟩)

theorem columnsOf_eq_flatMap (base : FieldPath) (ns : List FilterNode) :
    columnsOf base ns = ns.flatMap (columns base) := by
  induction ns with
  | nil => rfl
  | cons n ns ih => rw [columnsOf, ih, List.flatMap_cons]

theorem searchesOf_eq_flatMap (needle : String) (base : FieldPath) (ns : List FilterNode) :
    searchesOf needle base ns = ns.flatMap (searches needle base) := by
  induction ns with
  | nil => rfl
  | cons n ns ih => rw [searchesOf, ih, List.flatMap_cons]

theorem columns_eq (base : FieldPath) (n : FilterNode) :
    columns base n =
      n.filters.map (fun f => f.expression.compile (base.child n.name) f.columnType n.isList)
        ++ if n.isList && !n.children.isEmpty then
            [within (base.child n.name) (conj (columnsOf [] n.children))]
          else columnsOf (base.child n.name) n.children := by
  cases n
  rfl

theorem searches_eq (needle : String) (base : FieldPath) (n : FilterNode) :
    searches needle base n =
      (if n.isSearchable then [contains (base.child n.name) needle] else [])
        ++ if n.isList && !n.children.isEmpty then
            (searchesOf needle [] n.children).map (within (base.child n.name))
          else searchesOf needle (base.child n.name) n.children := by
  cases n
  rfl

theorem isNormal_of_mem_columns (n : FilterNode) :
    ∀ base, ∀ p ∈ columns base n, p.IsNormal := by
  induction n using childInduction with
  | node n ih =>
    have below (base : FieldPath) : ∀ p ∈ columnsOf base n.children, p.IsNormal := by
      rw [columnsOf_eq_flatMap]
      intro p hp
      obtain ⟨c, hc, hp⟩ := List.mem_flatMap.1 hp
      exact ih c hc base p hp
    intro base p hp
    rw [columns_eq] at hp
    rcases List.mem_append.1 hp with hp | hp
    · obtain ⟨f, -, rfl⟩ := List.mem_map.1 hp
      exact f.expression.isNormal_compile _ _ _
    · split at hp
      · rw [List.mem_singleton.1 hp]
        exact isNormal_within _ (isNormal_conj (below []))
      · exact below _ p hp

theorem isNormal_of_mem_columnsOf {base : FieldPath} {ns : List FilterNode} :
    ∀ p ∈ columnsOf base ns, p.IsNormal := by
  rw [columnsOf_eq_flatMap]
  intro p hp
  obtain ⟨n, -, hp⟩ := List.mem_flatMap.1 hp
  exact isNormal_of_mem_columns n base p hp

/-- A search asks for a text in fields, perhaps below lists. -/
theorem isSolid_of_mem_searches (needle : String) (n : FilterNode) :
    ∀ base, ∀ p ∈ searches needle base n, p.IsSolid := by
  induction n using childInduction with
  | node n ih =>
    have below (base : FieldPath) : ∀ p ∈ searchesOf needle base n.children, p.IsSolid := by
      rw [searchesOf_eq_flatMap]
      intro p hp
      obtain ⟨c, hc, hp⟩ := List.mem_flatMap.1 hp
      exact ih c hc base p hp
    intro base p hp
    rw [searches_eq] at hp
    rcases List.mem_append.1 hp with hp | hp
    · split at hp
      · rw [List.mem_singleton.1 hp]
        exact isSolid_of_isTest rfl
      · cases hp
    · split at hp
      · obtain ⟨q, hq, rfl⟩ := List.mem_map.1 hp
        have hs := below [] q hq
        cases q with
        | always => cases hs
        | never => cases hs
        | _ => exact hs
      · exact below _ p hp

theorem isSolid_of_mem_searchesOf {needle : String} {base : FieldPath} {ns : List FilterNode} :
    ∀ p ∈ searchesOf needle base ns, p.IsSolid := by
  rw [searchesOf_eq_flatMap]
  intro p hp
  obtain ⟨n, -, hp⟩ := List.mem_flatMap.1 hp
  exact isSolid_of_mem_searches needle n base p hp

end FilterNode

namespace FilterTree

/-! ## Trees -/

theorem isNormal_of_mem_searchPart (t : FilterTree) : ∀ p ∈ t.searchPart, p.IsNormal := by
  intro p hp
  rw [searchPart] at hp
  split at hp
  · cases hp
  · split at hp
    · cases hp
    · rw [List.mem_singleton.1 hp]
      exact isNormal_disj fun q hq => .inr (.inr (FilterNode.isSolid_of_mem_searchesOf q hq))

theorem isNormal_predicate (t : FilterTree) : t.predicate.IsNormal := by
  refine isNormal_conj (List.forall_mem_cons.2 ⟨?_, t.isNormal_of_mem_searchPart⟩)
  exact isNormal_conj FilterNode.isNormal_of_mem_columnsOf

end FilterTree

namespace AssembledQuery

/-! ## Queries -/

/-- An assembled query has the page of its description and the predicate of its tree. -/
theorem parts_of_assemble {schema : CollectionSchema} {d : QueryDescription} {maxPageSize : Nat}
    {q : AssembledQuery} (h : assemble schema d maxPageSize = .ok q) :
    d.page maxPageSize = .ok q.page ∧ ∃ t, tree schema d = .ok t ∧ q.predicate = t.predicate := by
  obtain ⟨page, t, sort, hpage, ht, -, rfl⟩ := assemble_eq_ok_iff.1 h
  exact ⟨hpage, t, ht, rfl⟩

theorem isNormal_of_assemble {schema : CollectionSchema} {d : QueryDescription}
    {maxPageSize : Nat} {q : AssembledQuery} (h : assemble schema d maxPageSize = .ok q) :
    q.predicate.IsNormal := by
  obtain ⟨-, t, -, ht⟩ := parts_of_assemble h
  rw [ht]
  exact t.isNormal_predicate

end AssembledQuery

end ListingQuery
