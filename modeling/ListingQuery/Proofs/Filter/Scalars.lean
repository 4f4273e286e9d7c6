import ListingQuery.Proofs.Filter.Paths
import ListingQuery.Proofs.Sql.Ternary

/-!
# Filters on records of scalars

If the fields of a record all hold scalars, a path that resolves is the name of a field, and the
tree of a query is a row of leaves.  Its predicate is the conjunction of what its entries compile to,
and no part of it is about the elements of a list:

    p ∈ columnsOf [] t.root.children ↔ p is what some entry compiles to  (mem_columnsOf_build_iff)
    t.predicate.isScopeless                                                   (isScopeless_build)
-/

namespace ListingQuery

open Predicate

/-! ## Paths -/

/-- Every field holds a scalar. -/
def RecordShape.IsFlat (shape : RecordShape) : Prop :=
  ∀ f ∈ shape.fields, ∃ native, f.kind = .scalar native

theorem RecordShape.IsFlat.field_of_resolve {shape : RecordShape} (hflat : shape.IsFlat)
    {path : String} {r : ResolvedField} (h : shape.resolve path = .ok r) :
    ∃ f ∈ shape.fields, r = ⟨f.kind.columnType, [⟨f.name, false⟩]⟩ := by
  have hnames := resolve_eq_ok_iff.1 h
  generalize FieldPath.ofDotted path = names at hnames
  cases hnames with
  | @last _ f _ lookup =>
    have hmem := mem_fields_of_lookup? lookup
    obtain ⟨native, hkind⟩ := hflat f hmem
    have hscalar : f.kind.isList = false := by rw [hkind]; rfl
    exact ⟨f, hmem, by rw [hscalar]⟩
  | @into _ _ f _ _ _ lookup record _ =>
    obtain ⟨native, hkind⟩ := hflat f (mem_fields_of_lookup? lookup)
    rw [hkind] at record
    cases record

/-! ## Trees -/

namespace FilterNode

/-- A node without nodes below, of a field that is no list. -/
structure IsLeaf (n : FilterNode) : Prop where
  isList : n.isList = false
  children : n.children = []

theorem isLeaf_addFilter {f : ColumnFilter} (n : FilterNode) (h : n.IsLeaf) :
    (addFilter f n).IsLeaf :=
  ⟨h.isList, h.children⟩

/-- The predicates of leaves are those of the filters that they keep. -/
theorem mem_columnsOf_leaves_iff {ns : List FilterNode} (h : ∀ n ∈ ns, n.IsLeaf) {p : Predicate} :
    p ∈ columnsOf [] ns ↔ ∃ f path, (∃ n ∈ ns, n.LeadsTo (HasFilter f) path) ∧
      p = f.expression.compile path f.columnType false := by
  have hleaf (n : FilterNode) (hn : n ∈ ns) : columns [] n =
      n.filters.map fun f => f.expression.compile [n.name] f.columnType false := by
    rw [columns_eq, (h n hn).isList, (h n hn).children]
    exact List.append_nil _
  have hleads (n : FilterNode) (hn : n ∈ ns) (f : ColumnFilter) (path : FieldPath) :
      n.LeadsTo (HasFilter f) path ↔ f ∈ n.filters ∧ path = [n.name] := by
    rw [leadsTo_iff, (h n hn).children]
    simp [HasFilter]
  rw [columnsOf_eq_flatMap, List.mem_flatMap]
  constructor
  · rintro ⟨n, hn, hp⟩
    rw [hleaf n hn] at hp
    obtain ⟨f, hf, rfl⟩ := List.mem_map.1 hp
    exact ⟨f, [n.name], ⟨n, hn, (hleads n hn f _).2 ⟨hf, rfl⟩⟩, rfl⟩
  · rintro ⟨f, path, ⟨n, hn, hpath⟩, rfl⟩
    obtain ⟨hf, rfl⟩ := (hleads n hn f path).1 hpath
    refine ⟨n, hn, ?_⟩
    rw [hleaf n hn]
    exact List.mem_map_of_mem hf

end FilterNode

namespace FilterTree

open FilterNode

variable {shape : RecordShape} {filters : Keyed FilterExpression}

/-- The fields of the record itself are all that the tree has nodes for, and it has no search. -/
structure IsRowOfLeaves (t : FilterTree) : Prop where
  leaves : ∀ n ∈ t.root.children, n.IsLeaf
  search : t.search? = none

theorem IsRowOfLeaves.changeAt (hflat : shape.IsFlat) {path : String} {field : ResolvedField}
    (hresolve : shape.resolve path = .ok field) {change : FilterNode → FilterNode}
    (hchange : ∀ n, n.IsLeaf → (change n).IsLeaf) {t : FilterTree} (h : t.IsRowOfLeaves) :
    (t.changeAt field change).IsRowOfLeaves := by
  obtain ⟨f, -, rfl⟩ := hflat.field_of_resolve hresolve
  exact ⟨forall_mem_changeChild ⟨rfl, rfl⟩ hchange h.leaves, h.search⟩

theorem isRowOfLeaves_build (hflat : shape.IsFlat) {t : FilterTree}
    (h : build shape filters = .ok t) : t.IsRowOfLeaves := by
  refine foldlM_induction (P := IsRowOfLeaves) ⟨List.forall_mem_nil _, rfl⟩
    (fun entry _ t t' ht hadd => ?_) h
  rw [addFilter] at hadd
  cases hfield : shape.resolve entry.1 with
  | error e =>
    rw [hfield] at hadd
    cases hadd
  | ok field =>
    simp only [hfield, bind, Except.bind] at hadd
    split at hadd <;> cases hadd
    · exact ht.changeAt hflat hfield fun _ hn => hn
    · exact ht.changeAt hflat hfield isLeaf_addFilter

/-- The filter at the path is that of one of the entries, which has an operator. -/
def Brings (shape : RecordShape) (filters : Keyed FilterExpression) (f : ColumnFilter)
    (path : FieldPath) : Prop :=
  ∃ entry ∈ filters, ∃ field, shape.resolve entry.1 = .ok field ∧
    entry.2.hasNoOperator = false ∧ path = field.path ∧
    f = ⟨typeInForce entry.2 field, entry.2⟩

/-- Entering one entry brings its filter, if it has an operator. -/
theorem leadsTo_addFilter_iff {f : ColumnFilter} {path : FieldPath} {t t' : FilterTree}
    {entry : String × FilterExpression} (h : t.addFilter shape entry = .ok t') :
    t'.LeadsTo (HasFilter f) path ↔
      t.LeadsTo (HasFilter f) path ∨ Brings shape [entry] f path := by
  rw [addFilter] at h
  cases hfield : shape.resolve entry.1 with
  | error e =>
    rw [hfield] at h
    cases h
  | ok field =>
    simp only [hfield, bind, Except.bind] at h
    split at h
    · next hnone =>
      cases h
      rw [leadsTo_changeAt_iff (isOwn_hasFilter f) (gives_id _) hfield]
      simp [Brings, hnone]
    · next hsome =>
      cases h
      rw [leadsTo_changeAt_iff (isOwn_hasFilter f) (gives_addFilter _ f) hfield]
      simp [Brings, hsome, hfield, typeInForce, and_comm]

/-- A tree keeps the filters of the entries that it was built from, and no other. -/
theorem leadsTo_foldlM_iff {f : ColumnFilter} {path : FieldPath} {t t' : FilterTree}
    (h : filters.foldlM (addFilter shape) t = .ok t') : t'.LeadsTo (HasFilter f) path ↔
      t.LeadsTo (HasFilter f) path ∨ Brings shape filters f path := by
  induction filters generalizing t with
  | nil =>
    cases h
    simp [Brings]
  | cons entry filters ih =>
    rw [List.foldlM_cons] at h
    cases hadd : t.addFilter shape entry with
    | error e =>
      rw [hadd] at h
      cases h
    | ok t₁ =>
      rw [hadd] at h
      rw [ih h, leadsTo_addFilter_iff hadd, or_assoc]
      simp [Brings, or_and_right, exists_or]

theorem mem_columnsOf_build_iff (hflat : shape.IsFlat) {t : FilterTree}
    (h : build shape filters = .ok t) {p : Predicate} :
    p ∈ columnsOf [] t.root.children ↔ ∃ entry ∈ filters, ∃ field,
      shape.resolve entry.1 = .ok field ∧ entry.2.hasNoOperator = false ∧
        p = entry.2.compile field.path (typeInForce entry.2 field) false := by
  rw [mem_columnsOf_leaves_iff (isRowOfLeaves_build hflat h).leaves]
  have hkept (f : ColumnFilter) (path : FieldPath) :
      (∃ n ∈ t.root.children, n.LeadsTo (HasFilter f) path) ↔ Brings shape filters f path := by
    have hempty := not_leadsTo_empty (Q := HasFilter f) path
    exact (leadsTo_foldlM_iff h).trans (or_iff_right hempty)
  simp only [hkept]
  constructor
  · rintro ⟨f, path, ⟨entry, hentry, field, hfield, hsome, rfl, rfl⟩, rfl⟩
    exact ⟨entry, hentry, field, hfield, hsome, rfl⟩
  · rintro ⟨entry, hentry, field, hfield, hsome, rfl⟩
    exact ⟨_, _, ⟨entry, hentry, field, hfield, hsome, rfl, rfl⟩, rfl⟩

end FilterTree

/-! ## Predicates without scopes -/

theorem Predicate.isKept_isScopeless : IsKept fun p => p.isScopeless = true where
  always := rfl
  never := rfl
  test p h := by cases p <;> first | rfl | cases h
  conj _ h := isScopeless_conj h
  disj _ h := isScopeless_disj h
  negate _ h := isScopeless_negate h

theorem FilterTree.isScopeless_build {shape : RecordShape} (hflat : shape.IsFlat)
    {filters : Keyed FilterExpression} {t : FilterTree} (h : build shape filters = .ok t) :
    t.predicate.isScopeless = true := by
  have hcolumns : ∀ p ∈ FilterNode.columnsOf [] t.root.children, p.isScopeless = true := by
    intro p hp
    obtain ⟨entry, -, field, -, -, rfl⟩ := (mem_columnsOf_build_iff hflat h).1 hp
    exact isScopeless_conj fun p => FilterExpression.isKept_of_mem_tests isKept_isScopeless
  rw [predicate, searchPart, (isRowOfLeaves_build hflat h).search]
  exact isScopeless_conj (List.forall_mem_singleton.2 (isScopeless_conj hcolumns))

end ListingQuery
