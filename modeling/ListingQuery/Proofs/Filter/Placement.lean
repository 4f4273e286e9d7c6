import ListingQuery.Proofs.Filter.Scopes
import ListingQuery.Proofs.Shape.Names

/-!
# Where a tree keeps filters

Entering a filter into a tree adds this filter to those the tree keeps, and no other, in whatever
order filters arrive:

    f ∈ placedOf (changeChild …) ↔ f ∈ placedOf ns ∨ f is the new filter

This is so if the nodes of the tree stand for fields of the shape and its names are distinct.  So a
tree that was built from the filters of a query keeps these filters, and its predicate means what they
mean as a flat list                                               (predicate_holds_iff)
-/

namespace ListingQuery

open FlatFilter Predicate

namespace FilterNode

/-- The node stands for a field of the shape, and the nodes below it for fields below; a field that is
no record has no nodes below. -/
inductive Fits : RecordShape → FilterNode → Prop
  | field {shape : RecordShape} {n : FilterNode} {f : FieldDef} (mem : f ∈ shape.fields)
      (segment : n.segment = ⟨f.name, f.kind.isList⟩) (nodup : (n.children.map (·.name)).Nodup)
      (children : ∀ c ∈ n.children, Fits (f.kind.record?.getD ⟨"", []⟩) c) : Fits shape n

/-- The nodes stand for different fields of the shape. -/
structure FitAll (shape : RecordShape) (ns : List FilterNode) : Prop where
  nodup : (ns.map (·.name)).Nodup
  fits : ∀ n ∈ ns, Fits shape n

theorem Fits.hasDistinctChildren {shape : RecordShape} {n : FilterNode} (h : Fits shape n) :
    n.HasDistinctChildren := by
  induction h with
  | field _ _ nodup _ ih => exact .node nodup ih

/-! ## Changing nodes -/

/-- Changing a node of the segment adds these filters to it, and the node still fits. -/
def Places (shape : RecordShape) (s : ResolvedSegment) (change : FilterNode → FilterNode)
    (added : List FlatFilter) : Prop :=
  ∀ n, Fits shape n → n.segment = s →
    Fits shape (change n) ∧ (change n).segment = s ∧
      ∀ f, f ∈ placed (change n) ↔ f ∈ placed n ∨ f ∈ added

/-- A node that fits is the node of a declared field if it has its name. -/
theorem segment_eq_of_name_eq {shape : RecordShape} (hnames : shape.HasDistinctNames)
    {f : FieldDef} (hf : f ∈ shape.fields) {n : FilterNode} (hn : Fits shape n)
    (hname : n.name = f.name) : n.segment = ⟨f.name, f.kind.isList⟩ := by
  obtain ⟨hg, hsegment, -, -⟩ := hn
  next g =>
    have hgname : n.name = g.name := congrArg ResolvedSegment.name hsegment
    rw [hsegment, hnames.eq_of_name_eq hg hf (hgname.symm.trans hname)]

theorem fits_bare {shape : RecordShape} {f : FieldDef} (hf : f ∈ shape.fields) :
    Fits shape (bare f.name f.kind.isList) :=
  .field hf rfl List.nodup_nil (by simp [bare])

section ChangeChild

variable {shape : RecordShape} (hnames : shape.HasDistinctNames) {f : FieldDef}
  (hf : f ∈ shape.fields) {change : FilterNode → FilterNode} {added : List FlatFilter}
  (hplaces : Places shape ⟨f.name, f.kind.isList⟩ change added)
include hnames hf hplaces

/-- Of the names, only that of the segment can be new. -/
theorem name_of_mem_changeChild {ns : List FilterNode} (hns : ∀ n ∈ ns, Fits shape n) :
    ∀ m ∈ changeChild ⟨f.name, f.kind.isList⟩ change ns, m.name = f.name ∨
      ∃ n ∈ ns, m.name = n.name := by
  have hname (n : FilterNode) (hn : Fits shape n) (hsegment : n.segment = ⟨f.name, f.kind.isList⟩) :
      (change n).name = f.name := congrArg ResolvedSegment.name (hplaces n hn hsegment).2.1
  induction ns with
  | nil =>
    intro m hm
    rw [List.mem_singleton.1 hm]
    exact .inl (hname _ (fits_bare hf) rfl)
  | cons n ns ih =>
    obtain ⟨hn, hns⟩ := List.forall_mem_cons.1 hns
    intro m hm
    rw [changeChild] at hm
    split at hm
    · next heq =>
      rcases List.mem_cons.1 hm with rfl | hm
      · exact .inl (hname n hn (segment_eq_of_name_eq hnames hf hn heq))
      · exact .inr ⟨m, List.mem_cons_of_mem _ hm, rfl⟩
    · rcases List.mem_cons.1 hm with rfl | hm
      · exact .inr ⟨m, List.mem_cons_self, rfl⟩
      · rcases ih hns m hm with h | ⟨k, hk, h⟩
        · exact .inl h
        · exact .inr ⟨k, List.mem_cons_of_mem _ hk, h⟩

theorem fitAll_changeChild {ns : List FilterNode} (hns : FitAll shape ns) :
    FitAll shape (changeChild ⟨f.name, f.kind.isList⟩ change ns) := by
  obtain ⟨hnodup, hfits⟩ := hns
  induction ns with
  | nil =>
    refine ⟨by simp [changeChild], fun m hm => ?_⟩
    rw [List.mem_singleton.1 hm]
    exact (hplaces _ (fits_bare hf) rfl).1
  | cons n ns ih =>
    rw [List.map_cons, List.nodup_cons] at hnodup
    obtain ⟨hn, hns⟩ := List.forall_mem_cons.1 hfits
    rw [changeChild]
    split
    · next heq =>
      obtain ⟨hchange, hsegment, -⟩ :=
        hplaces n hn (segment_eq_of_name_eq hnames hf hn heq)
      have hname : (change n).name = n.name :=
        (congrArg ResolvedSegment.name hsegment).trans heq.symm
      refine ⟨?_, List.forall_mem_cons.2 ⟨hchange, hns⟩⟩
      rw [List.map_cons, hname]
      exact List.nodup_cons.2 hnodup
    · next hne =>
      obtain ⟨htail, htailfits⟩ := ih hnodup.2 hns
      refine ⟨?_, List.forall_mem_cons.2 ⟨hn, htailfits⟩⟩
      rw [List.map_cons, List.nodup_cons]
      refine ⟨fun hmem => ?_, htail⟩
      obtain ⟨m, hm, hmname⟩ := List.mem_map.1 hmem
      rcases name_of_mem_changeChild hnames hf hplaces hns m hm with h | ⟨k, hk, h⟩
      · exact hne (hmname.symm.trans h)
      · exact hnodup.1 (List.mem_map.2 ⟨k, hk, h.symm.trans hmname⟩)

/-- The change of one node adds its filters to all. -/
theorem mem_placedOf_changeChild {ns : List FilterNode} (hns : ∀ n ∈ ns, Fits shape n)
    (g : FlatFilter) : g ∈ placedOf (changeChild ⟨f.name, f.kind.isList⟩ change ns) ↔
      g ∈ placedOf ns ∨ g ∈ added := by
  induction ns with
  | nil =>
    obtain ⟨-, -, hmem⟩ := hplaces _ (fits_bare hf) rfl
    show g ∈ placed (change (bare f.name f.kind.isList)) ++ [] ↔ _
    rw [List.append_nil, hmem]
    exact Iff.rfl
  | cons n ns ih =>
    obtain ⟨hn, hns⟩ := List.forall_mem_cons.1 hns
    rw [changeChild]
    split
    · next heq =>
      obtain ⟨-, -, hmem⟩ := hplaces n hn (segment_eq_of_name_eq hnames hf hn heq)
      rw [placedOf, placedOf, List.mem_append, List.mem_append, hmem]
      exact or_right_comm
    · rw [placedOf, placedOf, List.mem_append, List.mem_append, ih hns, or_assoc]

end ChangeChild

/-- What a change does at the node it is meant for. -/
structure Adds (change : FilterNode → FilterNode) (filters : List ColumnFilter) : Prop where
  segment : ∀ n, (change n).segment = n.segment
  children : ∀ n, (change n).children = n.children
  filters : ∀ n, (change n).filters = n.filters ++ filters

theorem adds_id : Adds id [] :=
  ⟨fun _ => rfl, fun _ => rfl, fun n => (List.append_nil n.filters).symm⟩

theorem adds_addFilter (f : ColumnFilter) : Adds (addFilter f) [f] :=
  ⟨fun _ => rfl, fun _ => rfl, fun _ => rfl⟩

theorem placed_of_adds {change : FilterNode → FilterNode} {filters : List ColumnFilter}
    (h : Adds change filters) (n : FilterNode) (g : FlatFilter) :
    g ∈ placed (change n) ↔ g ∈ placed n ∨ g ∈ filters.map fun f => ⟨[n.segment], f⟩ := by
  rw [placed_eq, placed_eq, h.segment, h.children, h.filters, List.map_append, List.mem_append,
    List.mem_append, List.mem_append]
  exact or_right_comm

/-- Changing the node at the end of a declared path adds the filters at this path. -/
theorem places_changeAt {change : FilterNode → FilterNode} {filters : List ColumnFilter}
    (hadds : Adds change filters) {shape : RecordShape} (hnames : shape.HasDistinctNames)
    {s : ResolvedSegment} {rest : List ResolvedSegment} (hdeclares : shape.Declares (s :: rest)) :
    Places shape s (changeAt change rest) (filters.map fun f => ⟨s :: rest, f⟩) := by
  induction rest generalizing shape s with
  | nil =>
    rintro n ⟨hmem, hsegment, hnodup, hchildren⟩ rfl
    rw [changeAt]
    refine ⟨.field hmem ((hadds.segment n).trans hsegment) ?_ ?_, hadds.segment n,
      placed_of_adds hadds n⟩
    · rwa [hadds.children]
    · rwa [hadds.children]
  | cons t rest ih =>
    cases hdeclares with
    | @more _ inner f _ hf hrecord hbelow =>
      rintro n ⟨hmem, hsegment, hnodup, hchildren⟩ hs
      next g =>
        -- the node stands for the field that the segment names
        have hname : g.name = f.name := congrArg ResolvedSegment.name (hsegment.symm.trans hs)
        obtain rfl := hnames.eq_of_name_eq hmem hf hname
        rw [hrecord, Option.getD_some] at hchildren
        have hinner := hnames.inner hf hrecord
        obtain ⟨f, hf, rfl⟩ := hbelow.exists_field
        have hplaces := ih hinner hbelow
        obtain ⟨hnodup', hfits⟩ := fitAll_changeChild hinner hf hplaces ⟨hnodup, hchildren⟩
        refine ⟨.field hmem hsegment hnodup' ?_, hsegment, fun k => ?_⟩
        · rw [hrecord]
          exact hfits
        · have hadded : (filters.map fun c => FlatFilter.mk
              (⟨g.name, g.kind.isList⟩ :: ⟨f.name, f.kind.isList⟩ :: rest) c) =
              (filters.map fun c => FlatFilter.mk (⟨f.name, f.kind.isList⟩ :: rest) c).map
                (prepend [n.segment]) := by
            rw [List.map_map, hsegment]
            rfl
          rw [placed_eq, placed_eq, hadded, List.mem_append, List.mem_append, or_assoc]
          refine or_congr Iff.rfl ?_
          show k ∈ (placedOf (changeChild _ _ _)).map (prepend [n.segment]) ↔ _
          simp only [List.mem_map, mem_placedOf_changeChild hinner hf hplaces hchildren,
            or_and_right, exists_or]

end FilterNode

namespace FilterTree

open FilterNode

/-! ## Building trees -/

/-- The tree fits the shape, keeps these filters and no other, and has no search. -/
structure Keeps (shape : RecordShape) (t : FilterTree) (fs : List FlatFilter) : Prop where
  fit : FitAll shape t.root.children
  mem : ∀ f, f ∈ placedOf t.root.children ↔ f ∈ fs
  search : t.search? = none

theorem keeps_empty (shape : RecordShape) : Keeps shape empty [] :=
  ⟨⟨List.nodup_nil, by simp [empty, bare]⟩, fun _ => Iff.rfl, rfl⟩

/-- A change at a declared field adds filters there. -/
theorem Keeps.changeAt {shape : RecordShape} (hnames : shape.HasDistinctNames) {t : FilterTree}
    {fs : List FlatFilter} (h : Keeps shape t fs) {field : ResolvedField}
    (hdeclares : shape.Declares field.segments) {change : FilterNode → FilterNode}
    {filters : List ColumnFilter} (hadds : Adds change filters) :
    Keeps shape (t.changeAt field change)
      (fs ++ filters.map fun f => ⟨field.segments, f⟩) := by
  obtain ⟨⟨hnodup, hfits⟩, hmem, hsearch⟩ := h
  obtain ⟨s, rest, hsegments⟩ := List.exists_cons_of_ne_nil hdeclares.ne_nil
  rw [hsegments] at hdeclares
  obtain ⟨f, hf, rfl⟩ := hdeclares.exists_field
  have hplaces := places_changeAt hadds hnames hdeclares
  have hchildren : (t.changeAt field change).root.children =
      changeChild ⟨f.name, f.kind.isList⟩ (FilterNode.changeAt change rest) t.root.children := by
    rw [FilterTree.changeAt, hsegments]
    rfl
  refine ⟨?_, fun g => ?_, hsearch⟩
  · rw [hchildren]
    exact fitAll_changeChild hnames hf hplaces ⟨hnodup, hfits⟩
  · rw [hchildren, mem_placedOf_changeChild hnames hf hplaces hfits, hmem, hsegments,
      List.mem_append]

theorem Keeps.addFilter {shape : RecordShape} (hnames : shape.HasDistinctNames) {t : FilterTree}
    {fs : List FlatFilter} (h : Keeps shape t fs) {entry : String × FilterExpression}
    {field : ResolvedField} (hresolve : shape.resolve entry.1 = .ok field) :
    ∃ t', t.addFilter shape entry = .ok t' ∧
      Keeps shape t' (fs ++ (ofMember? shape entry).toList) := by
  have hdeclares := RecordShape.declares_of_resolve hresolve
  simp only [FilterTree.addFilter, ofMember?, hresolve, bind, Except.bind]
  split
  · exact ⟨_, rfl, h.changeAt hnames hdeclares adds_id⟩
  · exact ⟨_, rfl, h.changeAt hnames hdeclares (adds_addFilter _)⟩

/-- Entering filters one after the other keeps all of them. -/
theorem Keeps.foldlM {shape : RecordShape} (hnames : shape.HasDistinctNames)
    {filters : Keyed FilterExpression}
    (hresolve : ∀ entry ∈ filters, ∃ field, shape.resolve entry.1 = .ok field) {t : FilterTree}
    {fs : List FlatFilter} (h : Keeps shape t fs) :
    ∃ t', filters.foldlM (FilterTree.addFilter shape) t = .ok t' ∧
      Keeps shape t' (fs ++ ofEntries shape filters) := by
  induction filters generalizing t fs with
  | nil => exact ⟨t, rfl, by rwa [ofEntries, List.filterMap_nil, List.append_nil]⟩
  | cons entry filters ih =>
    obtain ⟨⟨field, hfield⟩, hrest⟩ := List.forall_mem_cons.1 hresolve
    obtain ⟨t', ht', hkeeps⟩ := h.addFilter hnames hfield
    obtain ⟨t'', ht'', hkeeps'⟩ := ih hrest hkeeps
    refine ⟨t'', ?_, ?_⟩
    · rw [List.foldlM_cons, ht']
      exact ht''
    · rw [List.append_assoc] at hkeeps'
      rw [ofEntries]
      cases hentry : ofMember? shape entry with
      | none =>
        rw [List.filterMap_cons_none hentry]
        simpa [hentry, ofEntries] using hkeeps'
      | some f =>
        rw [List.filterMap_cons_some hentry]
        simpa [hentry, ofEntries] using hkeeps'

/-- A tree means what the filters it keeps mean. -/
theorem Keeps.predicate_holds_iff {shape : RecordShape} {t : FilterTree} {fs : List FlatFilter}
    (h : Keeps shape t fs) (d : Json) : t.predicate.holds d = true ↔ Hold fs d := by
  have hsearch : t.searchPart = [] := by rw [searchPart, h.search]
  rw [predicate, hsearch, holds_conj, List.forall_mem_singleton, holds_conj,
    columnsOf_hold_placedOf h.fit.nodup fun n hn => (h.fit.fits n hn).hasDistinctChildren]
  exact hold_congr h.mem d

/-- The predicate of the tree that is built from the filters of a query holds of a document exactly if
the filters, as a flat list, do. -/
theorem build_predicate_holds_iff {shape : RecordShape} (hnames : shape.HasDistinctNames)
    {filters : Keyed FilterExpression}
    (hresolve : ∀ entry ∈ filters, ∃ field, shape.resolve entry.1 = .ok field) :
    ∃ t, build shape filters = .ok t ∧
      ∀ d, t.predicate.holds d = true ↔ Hold (ofEntries shape filters) d := by
  obtain ⟨t, ht, hkeeps⟩ := (keeps_empty shape).foldlM hnames hresolve
  exact ⟨t, ht, hkeeps.predicate_holds_iff⟩

/-- Orders with a status and a list of items. -/
def stockShape : RecordShape := ⟨"Order", [
  ⟨"items", some "lines", .list (.record ⟨"Item", [
    ⟨"sku", none, .scalar .string⟩, ⟨"count", none, .scalar .i64⟩]⟩)⟩,
  ⟨"status", none, .scalar .string⟩]⟩

/-- Paid orders with more than two of an item; the list goes by both its names. -/
def stockFilters : Keyed FilterExpression := [
  ("items.sku", { eq? := some (.string "A-1") }),
  ("status", { eq? := some (.string "paid") }),
  ("lines.count", { gt? := some (Json.ofNat 2) })]

theorem hasDistinctNames_stockShape : stockShape.HasDistinctNames := by
  rw [RecordShape.hasDistinctNames_iff]
  refine ⟨by decide, ?_⟩
  intro f hf inner hinner
  simp only [stockShape, List.mem_cons, List.not_mem_nil, or_false] at hf
  rcases hf with rfl | rfl
  · cases hinner
    rw [RecordShape.hasDistinctNames_iff]
    refine ⟨by decide, ?_⟩
    simp [FieldKind.record?]
  · cases hinner

theorem build_stockFilters_holds_iff :
    ∃ t, build stockShape stockFilters = .ok t ∧
      ∀ d, t.predicate.holds d = true ↔ Hold (ofEntries stockShape stockFilters) d := by
  have hresolve : ∀ entry ∈ stockFilters, ∃ field, stockShape.resolve entry.1 = .ok field := by
    intro entry h
    simp only [stockFilters, List.mem_cons, List.not_mem_nil, or_false] at h
    rcases h with rfl | rfl | rfl <;> exact ⟨_, rfl⟩
  exact build_predicate_holds_iff hasDistinctNames_stockShape hresolve

end FilterTree

end ListingQuery
