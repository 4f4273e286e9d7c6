import ListingQuery.Proofs.Filter.Flat
import ListingQuery.Proofs.Query.Assembly
import ListingQuery.Proofs.Shape.Names

/-!
# What a tree keeps at a path

A path of names leads to the nodes of a tree that are reached by it.  Changing the node of a resolved
field does something at this path and nowhere else, whatever was entered before; names need not be
distinct.  So a filter that the tree of a query keeps at a path is that of an entry with this path,
and a field is marked for the search exactly if it is at one of the searchable paths.

    tree schema d = .ok t → every filter of t stems from an entry of d          (stems_of_tree)
    marked after markAll ↔ marked before, or at one of the paths          (leadsTo_markAll_iff)
-/

namespace ListingQuery

open FlatFilter

namespace FilterNode

/-- The path leads from the node, whose name it starts with, to one with the property. -/
inductive LeadsTo (Q : FilterNode → Prop) : FilterNode → FieldPath → Prop
  | here {n : FilterNode} (prop : Q n) : LeadsTo Q n [n.name]
  | deeper {n c : FilterNode} {rest : FieldPath} (mem : c ∈ n.children) (leads : LeadsTo Q c rest) :
      LeadsTo Q n (n.name :: rest)

/-- The property of a node is one of its own, whatever is below, and a bare node does not have it. -/
structure IsOwn (Q : FilterNode → Prop) : Prop where
  children : ∀ n children, Q { n with children := children } ↔ Q n
  bare : ∀ name isList, ¬ Q (bare name isList)

/-- The change gives the property to a node, if `P`, and takes it from none. -/
structure Gives (change : FilterNode → FilterNode) (Q : FilterNode → Prop) (P : Prop) : Prop where
  name : ∀ n, (change n).name = n.name
  children : ∀ n, (change n).children = n.children
  here : ∀ n, Q (change n) ↔ Q n ∨ P

/-! ## Changing nodes -/

/-- A property of a bare node that changes keep. -/
theorem forall_mem_changeChild {P : FilterNode → Prop} {s : ResolvedSegment}
    {change : FilterNode → FilterNode} (hbare : P (bare s.name s.isList))
    (hchange : ∀ n, P n → P (change n)) {ns : List FilterNode} (h : ∀ n ∈ ns, P n) :
    ∀ n ∈ changeChild s change ns, P n := by
  induction ns with
  | nil => exact List.forall_mem_singleton.2 (hchange _ hbare)
  | cons n ns ih =>
    obtain ⟨hn, hns⟩ := List.forall_mem_cons.1 h
    rw [changeChild]
    split
    · exact List.forall_mem_cons.2 ⟨hchange n hn, hns⟩
    · exact List.forall_mem_cons.2 ⟨hn, ih hns⟩

section Changes

variable {Q : FilterNode → Prop}

theorem leadsTo_iff {n : FilterNode} {path : FieldPath} : LeadsTo Q n path ↔
    Q n ∧ path = [n.name] ∨ ∃ rest, path = n.name :: rest ∧ ∃ c ∈ n.children, LeadsTo Q c rest := by
  constructor
  · rintro (prop | ⟨mem, leads⟩)
    · exact .inl ⟨prop, rfl⟩
    · exact .inr ⟨_, rfl, _, mem, leads⟩
  · rintro (⟨prop, rfl⟩ | ⟨rest, rfl, c, mem, leads⟩)
    · exact .here prop
    · exact .deeper mem leads

theorem not_leadsTo_bare (hQ : IsOwn Q) (name : String) (isList : Bool) (path : FieldPath) :
    ¬ LeadsTo Q (bare name isList) path := by
  rw [leadsTo_iff]
  rintro (⟨prop, -⟩ | ⟨rest, -, c, mem, -⟩)
  · exact hQ.bare name isList prop
  · cases mem

/-- What is reached through a changed list of nodes was reached before, or through the change. -/
theorem exists_leadsTo_changeChild_iff (hQ : IsOwn Q) {s : ResolvedSegment}
    {change : FilterNode → FilterNode} {path : FieldPath} {P : Prop}
    (hchange : ∀ n, n.name = s.name → (LeadsTo Q (change n) path ↔ LeadsTo Q n path ∨ P))
    (ns : List FilterNode) : (∃ n ∈ changeChild s change ns, LeadsTo Q n path) ↔
      (∃ n ∈ ns, LeadsTo Q n path) ∨ P := by
  induction ns with
  | nil =>
    have hnone := not_leadsTo_bare hQ s.name s.isList path
    simp [changeChild, hchange (bare s.name s.isList) rfl, hnone]
  | cons n ns ih =>
    rw [changeChild]
    split
    · next heq =>
      simp only [List.mem_cons, exists_eq_or_imp, hchange n heq]
      exact or_right_comm
    · simp only [List.mem_cons, exists_eq_or_imp, ih, or_assoc]

theorem leadsTo_changeAt_iff (hQ : IsOwn Q) {change : FilterNode → FilterNode} {P : Prop}
    (hgives : Gives change Q P) {rest : List ResolvedSegment} :
    ∀ {n : FilterNode} {path : FieldPath}, LeadsTo Q (changeAt change rest n) path ↔
      LeadsTo Q n path ∨ P ∧ path = n.name :: pathOf rest := by
  induction rest with
  | nil =>
    intro n path
    rw [changeAt, leadsTo_iff, leadsTo_iff, hgives.name, hgives.children, hgives.here, or_and_right,
      or_right_comm]
    rfl
  | cons s rest ih =>
    intro n path
    rw [changeAt, leadsTo_iff, leadsTo_iff, hQ.children, or_assoc]
    refine or_congr Iff.rfl ?_
    have hchildren (below : FieldPath) : (∃ c ∈ changeChild s (changeAt change rest) n.children,
        LeadsTo Q c below) ↔
          (∃ c ∈ n.children, LeadsTo Q c below) ∨ P ∧ below = s.name :: pathOf rest :=
      exists_leadsTo_changeChild_iff hQ (fun m hname => by rw [ih, hname]) n.children
    simp only [hchildren, and_or_left, exists_or]
    refine or_congr Iff.rfl ?_
    constructor
    · rintro ⟨below, rfl, hP, rfl⟩
      exact ⟨hP, rfl⟩
    · rintro ⟨hP, rfl⟩
      exact ⟨_, rfl, hP, rfl⟩

end Changes

/-- The filter is one of the node itself. -/
def HasFilter (filter : ColumnFilter) (n : FilterNode) : Prop := filter ∈ n.filters

/-- The node itself is marked. -/
def IsMarked (n : FilterNode) : Prop := n.isSearchable = true

theorem isOwn_hasFilter (filter : ColumnFilter) : IsOwn (HasFilter filter) :=
  ⟨fun _ _ => Iff.rfl, fun _ _ h => by cases h⟩

theorem isOwn_isMarked : IsOwn IsMarked := ⟨fun _ _ => Iff.rfl, fun _ _ h => by cases h⟩

theorem gives_id (Q : FilterNode → Prop) : Gives id Q False :=
  ⟨fun _ => rfl, fun _ => rfl, fun _ => (or_iff_left not_false).symm⟩

theorem gives_addFilter (f filter : ColumnFilter) :
    Gives (addFilter f) (HasFilter filter) (filter = f) :=
  ⟨fun _ => rfl, fun _ => rfl, fun n => by simp [HasFilter, addFilter]⟩

theorem addFilter_gives_no_mark (f : ColumnFilter) : Gives (addFilter f) IsMarked False :=
  ⟨fun _ => rfl, fun _ => rfl, fun _ => (or_iff_left not_false).symm⟩

theorem gives_markSearchable : Gives markSearchable IsMarked True :=
  ⟨fun _ => rfl, fun _ => rfl, fun n => by simp [IsMarked, markSearchable]⟩

theorem markSearchable_gives_no_filter (filter : ColumnFilter) :
    Gives markSearchable (HasFilter filter) False :=
  ⟨fun _ => rfl, fun _ => rfl, fun _ => (or_iff_left not_false).symm⟩

end FilterNode

/-- The path leads to a node of the tree with the property. -/
def FilterTree.LeadsTo (Q : FilterNode → Prop) (t : FilterTree) (path : FieldPath) : Prop :=
  ∃ n ∈ t.root.children, n.LeadsTo Q path

/-- The type in which the operands of an entry are read at a field. -/
def typeInForce (e : FilterExpression) (field : ResolvedField) : ColumnType :=
  e.columnType?.getD field.columnType

/-- The filter at the path is that of one of the entries. -/
def ColumnFilter.Stems (shape : RecordShape) (filters : Keyed FilterExpression) (f : ColumnFilter)
    (path : FieldPath) : Prop :=
  ∃ entry ∈ filters, ∃ field, shape.resolve entry.1 = .ok field ∧ path = field.path ∧
    f = ⟨typeInForce entry.2 field, entry.2⟩

namespace FilterTree

open FilterNode

variable {shape : RecordShape} {filters : Keyed FilterExpression} {Q : FilterNode → Prop}

/-! ## Trees -/

theorem leadsTo_changeAt_iff (hQ : IsOwn Q) {change : FilterNode → FilterNode} {P : Prop}
    (hgives : Gives change Q P) {field : ResolvedField} {path : String}
    (hresolve : shape.resolve path = .ok field) {t : FilterTree} {place : FieldPath} :
    (t.changeAt field change).LeadsTo Q place ↔ t.LeadsTo Q place ∨ P ∧ place = field.path := by
  obtain ⟨s, rest, hsegments⟩ :=
    List.exists_cons_of_ne_nil (RecordShape.declares_of_resolve hresolve).ne_nil
  rw [LeadsTo, changeAt, ResolvedField.path, hsegments]
  exact exists_leadsTo_changeChild_iff hQ
    (fun m hname => by rw [FilterNode.leadsTo_changeAt_iff hQ hgives, hname]; rfl) _

theorem not_leadsTo_empty (path : FieldPath) : ¬ empty.LeadsTo Q path := by
  rintro ⟨n, hn, -⟩
  cases hn

/-- Entering an entry brings in its filter alone. -/
theorem stems_addFilter {t t' : FilterTree}
    (h : ∀ f path, t.LeadsTo (HasFilter f) path → f.Stems shape filters path)
    {entry : String × FilterExpression} (hentry : entry ∈ filters)
    (hadd : t.addFilter shape entry = .ok t') :
    ∀ f path, t'.LeadsTo (HasFilter f) path → f.Stems shape filters path := by
  intro f path hf
  rw [addFilter] at hadd
  cases hfield : shape.resolve entry.1 with
  | error e =>
    rw [hfield] at hadd
    cases hadd
  | ok field =>
    simp only [hfield, bind, Except.bind] at hadd
    split at hadd <;> cases hadd
    · rcases (leadsTo_changeAt_iff (isOwn_hasFilter f) (gives_id _) hfield).1 hf with hf | ⟨⟨⟩, -⟩
      exact h f path hf
    · rcases (leadsTo_changeAt_iff (isOwn_hasFilter f) (gives_addFilter _ f) hfield).1 hf with
        hf | ⟨rfl, rfl⟩
      · exact h f path hf
      · exact ⟨entry, hentry, field, hfield, rfl, rfl⟩

theorem stems_build {t : FilterTree} (h : build shape filters = .ok t) :
    ∀ f path, t.LeadsTo (HasFilter f) path → f.Stems shape filters path :=
  foldlM_induction (fun _ path hf => absurd hf (not_leadsTo_empty path))
    (fun _ hentry _ _ ht hadd => stems_addFilter ht hentry hadd) h

/-- The filters of a query mark no field. -/
theorem not_isMarked_build {t : FilterTree} (h : build shape filters = .ok t) (path : FieldPath) :
    ¬ t.LeadsTo IsMarked path := by
  refine foldlM_induction (P := fun t => ¬ t.LeadsTo IsMarked path) (not_leadsTo_empty path)
    (fun entry _ t t' ht hadd hmarked => ht ?_) h
  rw [addFilter] at hadd
  cases hfield : shape.resolve entry.1 with
  | error e =>
    rw [hfield] at hadd
    cases hadd
  | ok field =>
    simp only [hfield, bind, Except.bind] at hadd
    split at hadd <;> cases hadd
    · simpa [leadsTo_changeAt_iff isOwn_isMarked (gives_id _) hfield] using hmarked
    · simpa [leadsTo_changeAt_iff isOwn_isMarked (addFilter_gives_no_mark _) hfield] using hmarked

/-- Marking all fields brings in no filter and marks the fields at the paths. -/
theorem leadsTo_markAll_iff (hQ : IsOwn Q) {P : Prop} (hgives : Gives markSearchable Q P)
    {paths : List String} {t t' : FilterTree} (h : markAll shape paths t = (t', none))
    {place : FieldPath} : t'.LeadsTo Q place ↔ t.LeadsTo Q place ∨
      P ∧ ∃ path ∈ paths, ∃ field, shape.resolve path = .ok field ∧ place = field.path := by
  induction paths generalizing t with
  | nil =>
    cases h
    simp
  | cons path paths ih =>
    rw [markAll] at h
    split at h
    · cases h
    · next field hfield =>
      rw [ih h, leadsTo_changeAt_iff hQ hgives hfield, or_assoc, ← and_or_left]
      simp [hfield]

end FilterTree

namespace AssembledQuery

theorem stems_of_tree {schema : CollectionSchema} {d : QueryDescription} {t : FilterTree}
    (h : tree schema d = .ok t) (f : ColumnFilter) (path : FieldPath)
    (hf : t.LeadsTo (FilterNode.HasFilter f) path) : f.Stems schema.shape d.filters path := by
  obtain ⟨t₀, hbuild, hsearch⟩ := tree_eq_ok_iff.1 h
  have hstems := FilterTree.stems_build hbuild f path
  rcases hsearch with ⟨-, rfl⟩ | ⟨text, -, hattach⟩
  · exact hstems hf
  · rcases FilterTree.attachSearch_cases text schema.searchable t₀ with
      ⟨-, hsame⟩ | ⟨-, ⟨t', hmark, hmarked⟩ | ⟨t', e, -, hfail⟩⟩
    · cases hsame.symm.trans hattach
      exact hstems hf
    · cases hmarked.symm.trans hattach
      have hf : t'.LeadsTo (FilterNode.HasFilter f) path := hf
      rw [FilterTree.leadsTo_markAll_iff (FilterNode.isOwn_hasFilter f)
        (FilterNode.markSearchable_gives_no_filter f) hmark] at hf
      exact hstems (by simpa using hf)
    · cases hfail.symm.trans hattach

end AssembledQuery

end ListingQuery
