import ListingQuery.Proofs.Filter.Search

/-!
# The levels of a search

The lists on the way to a field cut its path into levels: the paths to these lists and the path from
the last of them, each from an element of the list before.  A search tests a marked field below one
list for each level but the last, and tests nothing else:

    p ∈ searches needle base n ↔ segments lead along n to a mark and p tests below their levels
                                                                              (mem_searches_iff)

If names are distinct, the lists on the way are those of the shape    (segments_eq_of_leadsAlong).
-/

namespace ListingQuery

open FlatFilter Predicate

namespace FlatFilter

/-! ## Levels -/

/-- The paths to the lists that the segments go on below, and the path from the last of them; the
first starts at the base. -/
def levels (base : FieldPath) : List ResolvedSegment → List FieldPath × FieldPath
  | [] => ([], base)
  | [s] => ([], base.child s.name)
  | s :: t :: rest =>
    if s.isList then (base.child s.name :: (levels [] (t :: rest)).1, (levels [] (t :: rest)).2)
    else levels (base.child s.name) (t :: rest)

theorem levels_cons_of_list {s : ResolvedSegment} {rest : List ResolvedSegment}
    (hs : s.isList = true) (hrest : rest ≠ []) (base : FieldPath) :
    levels base (s :: rest) = (base.child s.name :: (levels [] rest).1, (levels [] rest).2) := by
  obtain ⟨t, rest, rfl⟩ := List.exists_cons_of_ne_nil hrest
  rw [levels, if_pos hs]

theorem levels_cons {s : ResolvedSegment} {rest : List ResolvedSegment} (hs : s.isList = false)
    (hrest : rest ≠ []) (base : FieldPath) :
    levels base (s :: rest) = levels (base.child s.name) rest := by
  obtain ⟨t, rest, rfl⟩ := List.exists_cons_of_ne_nil hrest
  rw [levels, if_neg (by simp [hs])]

/-- Together the levels are the path. -/
theorem flatten_levels (base : FieldPath) (segments : List ResolvedSegment) :
    (levels base segments).1.flatten ++ (levels base segments).2 = base ++ pathOf segments := by
  induction segments generalizing base with
  | nil => simp [levels, pathOf]
  | cons s rest ih =>
    by_cases hrest : rest = []
    · subst hrest
      simp [levels, pathOf, FieldPath.child]
    · cases hs : s.isList with
      | true =>
        rw [levels_cons_of_list hs hrest, List.flatten_cons, List.append_assoc, ih]
        simp [pathOf, FieldPath.child]
      | false =>
        rw [levels_cons hs hrest, ih]
        simp [pathOf, FieldPath.child]

/-- There is one level for each list before the last segment. -/
theorem length_levels (base : FieldPath) (segments : List ResolvedSegment) :
    (levels base segments).1.length = segments.dropLast.countP (·.isList) := by
  induction segments generalizing base with
  | nil => rfl
  | cons s rest ih =>
    by_cases hrest : rest = []
    · subst hrest
      rfl
    · rw [List.dropLast_cons_of_ne_nil hrest, List.countP_cons]
      cases hs : s.isList with
      | true => simp [levels_cons_of_list hs hrest, ih]
      | false => simp [levels_cons hs hrest, ih]

/-- The test for a text in the field at the end of the levels. -/
def searchBelow (needle : String) (lists : List FieldPath) (last : FieldPath) : Predicate :=
  lists.foldr nested (contains last needle)

theorem within_searchBelow (needle : String) (f : FieldPath) (lists : List FieldPath)
    (last : FieldPath) :
    within f (searchBelow needle lists last) = searchBelow needle (f :: lists) last := by
  cases lists <;> rfl

end FlatFilter

namespace FilterNode

/-! ## Nodes -/

/-- The segments lead from the node, whose own they start with, to one with the property. -/
inductive LeadsAlong (Q : FilterNode → Prop) : FilterNode → List ResolvedSegment → Prop
  | here {n : FilterNode} (prop : Q n) : LeadsAlong Q n [n.segment]
  | deeper {n c : FilterNode} {rest : List ResolvedSegment} (mem : c ∈ n.children)
      (leads : LeadsAlong Q c rest) : LeadsAlong Q n (n.segment :: rest)

section Leads

variable {Q : FilterNode → Prop}

theorem LeadsAlong.ne_nil {n : FilterNode} {segments : List ResolvedSegment}
    (h : LeadsAlong Q n segments) : segments ≠ [] := by
  cases h <;> simp

/-- A path leads to where some segments with its names do. -/
theorem LeadsTo.exists_leadsAlong {n : FilterNode} {path : FieldPath} (h : LeadsTo Q n path) :
    ∃ segments, LeadsAlong Q n segments ∧ pathOf segments = path := by
  induction h with
  | here prop => exact ⟨_, .here prop, rfl⟩
  | deeper mem _ ih =>
    obtain ⟨rest, hleads, rfl⟩ := ih
    exact ⟨_, .deeper mem hleads, rfl⟩

/-- Some segments to such a node have the property: those of the node itself, or those through a
child. -/
theorem exists_leadsAlong_iff (n : FilterNode) (P : List ResolvedSegment → Prop) :
    (∃ segments, LeadsAlong Q n segments ∧ P segments) ↔ Q n ∧ P [n.segment] ∨
      ∃ c ∈ n.children, ∃ rest, LeadsAlong Q c rest ∧ P (n.segment :: rest) := by
  constructor
  · rintro ⟨segments, hleads, hP⟩
    cases hleads with
    | here prop => exact .inl ⟨prop, hP⟩
    | deeper mem hleads => exact .inr ⟨_, mem, _, hleads, hP⟩
  · rintro (⟨prop, hP⟩ | ⟨c, mem, rest, hleads, hP⟩)
    · exact ⟨_, .here prop, hP⟩
    · exact ⟨_, .deeper mem hleads, hP⟩

/-- Along nodes that fit, the segments are declared. -/
theorem LeadsAlong.declares {n : FilterNode} {segments : List ResolvedSegment}
    (h : LeadsAlong Q n segments) {shape : RecordShape} (hfits : Fits shape n) :
    shape.Declares segments := by
  induction h generalizing shape with
  | here prop =>
    obtain ⟨hmem, hsegment, -, -⟩ := hfits
    rw [hsegment]
    exact .last hmem
  | deeper mem _ ih =>
    obtain ⟨hmem, hsegment, -, hchildren⟩ := hfits
    next f =>
      have hchild := hchildren _ mem
      rw [hsegment]
      cases hrecord : f.kind.record? with
      | some inner =>
        rw [hrecord, Option.getD_some] at hchild
        exact .more hmem hrecord (ih hchild)
      | none =>
        -- nothing is below a field that is no record
        rw [hrecord, Option.getD_none] at hchild
        obtain ⟨hnone, -, -, -⟩ := hchild
        cases hnone

end Leads

/-- A search tests what the marks lead to, below the lists on the way. -/
theorem mem_searches_iff {needle : String} (n : FilterNode) : ∀ base p,
    p ∈ searches needle base n ↔ ∃ segments, LeadsAlong IsMarked n segments ∧
      p = searchBelow needle (levels base segments).1 (levels base segments).2 := by
  induction n using childInduction with
  | node n ih =>
    intro base p
    have below (base : FieldPath) (p : Predicate) : p ∈ searchesOf needle base n.children ↔
        ∃ c ∈ n.children, ∃ rest, LeadsAlong IsMarked c rest ∧
          p = searchBelow needle (levels base rest).1 (levels base rest).2 := by
      rw [searchesOf_eq_flatMap, List.mem_flatMap]
      exact exists_congr fun c => and_congr_right fun hc => ih c hc base p
    rw [exists_leadsAlong_iff, searches_eq, List.mem_append]
    refine or_congr ?_ ?_
    · have hhere : searchBelow needle (levels base [n.segment]).1 (levels base [n.segment]).2 =
          contains (base.child n.name) needle := rfl
      rw [hhere]
      by_cases h : n.isSearchable = true <;> simp [h, IsMarked]
    · cases hlist : n.isList with
      | false =>
        simp only [Bool.false_and, Bool.false_eq_true, if_false]
        rw [below]
        refine exists_congr fun c => and_congr_right fun _ => exists_congr fun rest =>
          and_congr_right fun hleads => ?_
        rw [levels_cons hlist hleads.ne_nil]
        rfl
      | true =>
        have hwithin : p ∈ (searchesOf needle [] n.children).map (within (base.child n.name)) ↔
            ∃ c ∈ n.children, ∃ rest, LeadsAlong IsMarked c rest ∧
              p = searchBelow needle (levels base (n.segment :: rest)).1
                (levels base (n.segment :: rest)).2 := by
          rw [List.mem_map]
          constructor
          · rintro ⟨q, hq, rfl⟩
            obtain ⟨c, hc, rest, hleads, rfl⟩ := (below [] q).1 hq
            refine ⟨c, hc, rest, hleads, ?_⟩
            rw [levels_cons_of_list hlist hleads.ne_nil, within_searchBelow]
            rfl
          · rintro ⟨c, hc, rest, hleads, rfl⟩
            refine ⟨_, (below [] _).2 ⟨c, hc, rest, hleads, rfl⟩, ?_⟩
            rw [levels_cons_of_list hlist hleads.ne_nil, within_searchBelow]
            rfl
        cases hempty : n.children.isEmpty with
        | false => simpa using hwithin
        | true =>
          rw [List.isEmpty_iff] at hempty
          simp [hempty, searchesOf]

end FilterNode

namespace RecordShape

/-- Under distinct names, segments are declared with one path only. -/
theorem Declares.eq_of_pathOf_eq {shape : RecordShape} (hnames : shape.HasDistinctNames)
    {segments segments' : List ResolvedSegment} (h : shape.Declares segments)
    (h' : shape.Declares segments') (heq : pathOf segments = pathOf segments') :
    segments = segments' := by
  have tail_eq_nil {rest : List ResolvedSegment} (hrest : pathOf rest = []) : rest = [] :=
    List.map_eq_nil_iff.1 hrest
  induction h generalizing segments' with
  | last hf =>
    cases h' with
    | last hg =>
      rw [hnames.eq_of_name_eq hf hg (List.cons.inj heq).1]
    | more _ _ hbelow => exact absurd (tail_eq_nil (List.cons.inj heq).2.symm) hbelow.ne_nil
  | more hf hrecord hbelow ih =>
    cases h' with
    | last _ => exact absurd (tail_eq_nil (List.cons.inj heq).2) hbelow.ne_nil
    | more hg hrecord' hbelow' =>
      obtain ⟨hname, hrest⟩ := List.cons.inj heq
      obtain rfl := hnames.eq_of_name_eq hf hg hname
      obtain rfl := Option.some.inj (hrecord.symm.trans hrecord')
      rw [ih (hnames.inner hf hrecord) hbelow' hrest]

end RecordShape

namespace FilterTree

open FilterNode

variable {shape : RecordShape}

/-! ## Trees -/

/-- The tree of the filters of a query fits the shape. -/
theorem exists_keeps_build (hnames : shape.HasDistinctNames) {filters : Keyed FilterExpression}
    {t : FilterTree} (h : build shape filters = .ok t) : ∃ fs, Keeps shape t fs := by
  refine foldlM_induction (P := fun t => ∃ fs, Keeps shape t fs) ⟨[], keeps_empty shape⟩ ?_ h
  rintro entry - t t' ⟨fs, hkeeps⟩ hadd
  cases hfield : shape.resolve entry.1 with
  | error e =>
    rw [addFilter, hfield] at hadd
    cases hadd
  | ok field =>
    obtain ⟨t'', hadd', hkeeps'⟩ := hkeeps.addFilter hnames hfield
    cases hadd.symm.trans hadd'
    exact ⟨_, hkeeps'⟩

/-- Marking leaves the filters of a tree as they are, and the tree still fits. -/
theorem Keeps.markAll (hnames : shape.HasDistinctNames) {paths : List String} {t t' : FilterTree}
    {fs : List FlatFilter} (hkeeps : Keeps shape t fs)
    (h : markAll shape paths t = (t', none)) : Keeps shape t' fs := by
  induction paths generalizing t with
  | nil =>
    cases h
    exact hkeeps
  | cons path paths ih =>
    rw [FilterTree.markAll] at h
    split at h
    · cases h
    · next field hfield =>
      have hmarked := hkeeps.changeAt hnames (RecordShape.declares_of_resolve hfield)
        adds_markSearchable
      rw [List.map_nil, List.append_nil] at hmarked
      exact ih hmarked h

/-- Under distinct names, the segments in the tree are those of the field. -/
theorem segments_eq_of_leadsAlong (hnames : shape.HasDistinctNames) {t : FilterTree}
    {fs : List FlatFilter} (hkeeps : Keeps shape t fs) {n : FilterNode}
    (hn : n ∈ t.root.children) {Q : FilterNode → Prop} {segments : List ResolvedSegment}
    (hleads : LeadsAlong Q n segments) {path : String} {field : ResolvedField}
    (hfield : shape.resolve path = .ok field) (hpath : pathOf segments = field.path) :
    segments = field.segments :=
  (hleads.declares (hkeeps.fit.fits n hn)).eq_of_pathOf_eq hnames
    (RecordShape.declares_of_resolve hfield) hpath

/-- Once the searchable fields of a query are marked, the search has a test for each of them. -/
theorem exists_mem_searchesOf {filters : Keyed FilterExpression} {t t' : FilterTree}
    (hbuild : build shape filters = .ok t) {paths : List String}
    (hmark : markAll shape paths t = (t', none)) (needle : String) :
    ∀ path ∈ paths, ∃ field segments, shape.resolve path = .ok field ∧
      pathOf segments = field.path ∧ (shape.HasDistinctNames → segments = field.segments) ∧
      searchBelow needle (levels [] segments).1 (levels [] segments).2 ∈
        searchesOf needle [] t'.root.children := by
  intro path hpath
  obtain ⟨field, hfield⟩ := exists_of_markAll hmark path hpath
  obtain ⟨n, hn, hleads⟩ : t'.LeadsTo IsMarked field.path :=
    (leadsTo_markAll_iff isOwn_isMarked gives_markSearchable hmark).2
      (.inr ⟨trivial, path, hpath, field, hfield, rfl⟩)
  obtain ⟨segments, hleads, hsegments⟩ := hleads.exists_leadsAlong
  refine ⟨field, segments, hfield, hsegments, fun hnames => ?_, ?_⟩
  · obtain ⟨fs, hkeeps⟩ := exists_keeps_build hnames hbuild
    exact segments_eq_of_leadsAlong hnames (hkeeps.markAll hnames hmark) hn hleads hfield hsegments
  · rw [searchesOf_eq_flatMap, List.mem_flatMap]
    exact ⟨n, hn, (mem_searches_iff n [] _).2 ⟨segments, hleads, rfl⟩⟩

end FilterTree

end ListingQuery
