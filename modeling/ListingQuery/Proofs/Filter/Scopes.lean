import ListingQuery.Proofs.Filter.Flat
import ListingQuery.Proofs.Filter.Vacuous
import ListingQuery.Proofs.Predicate.Meaning

/-!
# What the nodes of a tree mean
-/

namespace ListingQuery

open FlatFilter Predicate

namespace FilterNode

/-- The segment of a node. -/
def segment (n : FilterNode) : ResolvedSegment := ⟨n.name, n.isList⟩

mutual

/-- The filters on a field and below it, as a flat list. -/
def placed : FilterNode → List FlatFilter
  | ⟨name, isList, filters, _, children⟩ =>
    filters.map (fun f => ⟨[⟨name, isList⟩], f⟩)
      ++ (placedOf children).map (prepend [⟨name, isList⟩])
  termination_by structural n => n

/-- The filters on some fields and below them. -/
def placedOf : List FilterNode → List FlatFilter
  | [] => []
  | n :: ns => placed n ++ placedOf ns
  termination_by structural ns => ns

end

/-- Fields of one record have different names, here and below. -/
inductive HasDistinctChildren : FilterNode → Prop
  | node {n : FilterNode} (nodup : (n.children.map (·.name)).Nodup)
      (children : ∀ c ∈ n.children, HasDistinctChildren c) : HasDistinctChildren n

/-! ## Placed filters -/

theorem placed_eq (n : FilterNode) :
    placed n = n.filters.map (fun f => ⟨[n.segment], f⟩)
      ++ (placedOf n.children).map (prepend [n.segment]) := by
  cases n
  rfl

theorem placedOf_eq_flatMap (ns : List FilterNode) : placedOf ns = ns.flatMap placed := by
  induction ns with
  | nil => rfl
  | cons n ns ih => rw [placedOf, ih, List.flatMap_cons]

/-- The path of a placed filter starts with the segment of its node. -/
theorem exists_of_mem_placed {n : FilterNode} {f : FlatFilter} (h : f ∈ placed n) :
    ∃ rest, f.segments = n.segment :: rest := by
  rw [placed_eq] at h
  rcases List.mem_append.1 h with h | h
  · obtain ⟨filter, -, rfl⟩ := List.mem_map.1 h
    exact ⟨[], rfl⟩
  · obtain ⟨g, -, rfl⟩ := List.mem_map.1 h
    exact ⟨g.segments, rfl⟩

theorem ne_nil_of_mem_placedOf {ns : List FilterNode} {f : FlatFilter} (h : f ∈ placedOf ns) :
    f.segments ≠ [] := by
  rw [placedOf_eq_flatMap] at h
  obtain ⟨n, -, h⟩ := List.mem_flatMap.1 h
  obtain ⟨rest, hrest⟩ := exists_of_mem_placed h
  simp [hrest]

/-! ## Filters that ask for nothing -/

theorem prepend_predicate_eq_always_iff {f : FlatFilter} (hne : f.segments ≠ [])
    (b : List ResolvedSegment) : (prepend b f).predicate = always ↔ f.predicate = always := by
  have hlast : endInList (b ++ f.segments) = endInList f.segments := by
    rw [endInList, endInList, List.getLast?_append]
    cases hlast : f.segments.getLast? with
    | none => exact absurd (List.getLast?_eq_none_iff.1 hlast) hne
    | some s => rfl
  rw [FlatFilter.predicate, FlatFilter.predicate, prepend, hlast]
  exact FilterExpression.compile_eq_always_iff _ _ _ _ _

/-- The predicates of a node all hold always exactly if its filters ask for nothing. -/
theorem columns_eq_always_iff (n : FilterNode) : ∀ base,
    (∀ p ∈ columns base n, p = always) ↔ ∀ f ∈ placed n, f.predicate = always := by
  induction n using childInduction with
  | node n ih =>
    intro base
    have below (base : FieldPath) : (∀ p ∈ columnsOf base n.children, p = always) ↔
        ∀ f ∈ (placedOf n.children).map (prepend [n.segment]), f.predicate = always := by
      have hprepend : (∀ f ∈ (placedOf n.children).map (prepend [n.segment]),
          f.predicate = always) ↔ ∀ f ∈ placedOf n.children, f.predicate = always := by
        rw [List.forall_mem_map]
        exact forall₂_congr fun f hf =>
          prepend_predicate_eq_always_iff (ne_nil_of_mem_placedOf hf) _
      rw [hprepend, columnsOf_eq_flatMap, placedOf_eq_flatMap, List.forall_mem_flatMap,
        List.forall_mem_flatMap]
      exact forall₂_congr fun c hc => ih c hc base
    rw [columns_eq, placed_eq, List.forall_mem_append, List.forall_mem_append]
    refine and_congr ?_ ?_
    · simp only [List.forall_mem_map]
      exact forall₂_congr fun f _ => by
        show _ ↔ FilterExpression.compile _ _ _ _ = always
        exact FilterExpression.compile_eq_always_iff _ _ _ _ _
    · split
      · rw [List.forall_mem_singleton, within_eq_always_iff,
          conj_eq_always_iff isNormal_of_mem_columnsOf]
        exact below []
      · exact below _

theorem columnsOf_eq_always_iff (base : FieldPath) (ns : List FilterNode) :
    (∀ p ∈ columnsOf base ns, p = always) ↔ ∀ f ∈ placedOf ns, f.predicate = always := by
  rw [columnsOf_eq_flatMap, placedOf_eq_flatMap, List.forall_mem_flatMap, List.forall_mem_flatMap]
  exact forall₂_congr fun n _ => columns_eq_always_iff n base

/-! ## Filters on documents -/

theorem prepend_prepend (b c : List ResolvedSegment) (f : FlatFilter) :
    prepend b (prepend c f) = prepend (b ++ c) f := by
  simp [prepend]

theorem pathOf_concat (b : List ResolvedSegment) (n : FilterNode) :
    pathOf (b ++ [n.segment]) = (pathOf b).child n.name := by
  simp [pathOf, FieldPath.child, segment]

section Base

variable {b : List ResolvedSegment} (hb : ∀ s ∈ b, s.isList = false)
include hb

/-- The scope of a filter starts with the first segment after those that lead to no list. -/
theorem prefix_of_cutAtList {s : ResolvedSegment} {rest l r : List ResolvedSegment}
    (h : cutAtList (b ++ s :: rest) = some (l, r)) : b ++ [s] <+: l := by
  induction b generalizing l with
  | nil =>
    obtain ⟨heq, hne⟩ := eq_append_of_cutAtList h
    obtain ⟨t, tail, rfl⟩ := List.exists_cons_of_ne_nil hne
    have hs : s = t := by simpa using congrArg List.head? heq
    simp [hs]
  | cons t b ih =>
    obtain ⟨ht, hb⟩ := List.forall_mem_cons.1 hb
    rw [List.cons_append, cutAtList_cons ht, Option.map_eq_some_iff] at h
    obtain ⟨cut, hcut, heq⟩ := h
    cases heq
    rw [List.cons_append, List.cons_prefix_cons]
    exact ⟨rfl, ih hb hcut⟩

theorem prefix_of_mem_scopes {n : FilterNode} {l : List ResolvedSegment}
    (h : l ∈ scopes ((placed n).map (prepend b))) : b ++ [n.segment] <+: l := by
  obtain ⟨f, hf, rest, hcut⟩ := mem_scopes.1 h
  obtain ⟨g, hg, rfl⟩ := List.mem_map.1 hf
  obtain ⟨more, hmore⟩ := exists_of_mem_placed hg
  rw [prepend, hmore] at hcut
  exact prefix_of_cutAtList hb hcut

/-- Filters on a field itself are outside scopes. -/
theorem scopes_here (s : ResolvedSegment) (filters : List ColumnFilter) :
    scopes (filters.map fun f => ⟨b ++ [s], f⟩) = [] := by
  rw [List.eq_nil_iff_forall_not_mem]
  intro l hl
  obtain ⟨f, hf, rest, hcut⟩ := mem_scopes.1 hl
  obtain ⟨filter, -, rfl⟩ := List.mem_map.1 hf
  rw [cutAtList_concat hb] at hcut
  cases hcut

theorem hold_here (s : ResolvedSegment) (filters : List ColumnFilter) (d : Json) :
    Hold (filters.map fun f => ⟨b ++ [s], f⟩) d ↔
      ∀ f ∈ filters, (FlatFilter.mk (b ++ [s]) f).predicate.holds d = true := by
  rw [hold_iff, scopes_here hb]
  simp [cutAtList_concat hb]

/-- Seen from the elements of a list, the filters below it are without its segments. -/
theorem below_prepend {s : ResolvedSegment} (hs : s.isList = true) {fs : List FlatFilter}
    (hne : ∀ f ∈ fs, f.segments ≠ []) :
    below (b ++ [s]) (fs.map (prepend (b ++ [s]))) = fs := by
  induction fs with
  | nil => rfl
  | cons f fs ih =>
    obtain ⟨hf, hfs⟩ := List.forall_mem_cons.1 hne
    have hscope : inScope? (b ++ [s]) (prepend (b ++ [s]) f) = some f := by
      rw [inScope?, prepend, cutAtList_append hb hs hf]
      simp
    rw [List.map_cons, below, List.filterMap_cons_some hscope, ← below, ih hfs]

/-- Filters below a list make one scope. -/
theorem hold_below {s : ResolvedSegment} (hs : s.isList = true) {fs : List FlatFilter}
    (hne : ∀ f ∈ fs, f.segments ≠ []) (d : Json) :
    Hold (fs.map (prepend (b ++ [s]))) d ↔ (∀ f ∈ fs, f.predicate = always) ∨
      ∃ e ∈ d.elementsAt (pathOf (b ++ [s])), Hold fs e := by
  have hcut (f : FlatFilter) (hf : f ∈ fs) :
      cutAtList (prepend (b ++ [s]) f).segments = some (b ++ [s], f.segments) :=
    cutAtList_append hb hs (hne f hf)
  have hbelow := below_prepend hb hs hne
  have hscopes (l : List ResolvedSegment) :
      l ∈ scopes (fs.map (prepend (b ++ [s]))) ↔ fs ≠ [] ∧ l = b ++ [s] := by
    rw [mem_scopes]
    constructor
    · rintro ⟨f, hf, rest, hl⟩
      obtain ⟨g, hg, rfl⟩ := List.mem_map.1 hf
      rw [hcut g hg] at hl
      cases hl
      exact ⟨List.ne_nil_of_mem hg, rfl⟩
    · rintro ⟨hfs, rfl⟩
      obtain ⟨f, hf⟩ := List.exists_mem_of_ne_nil fs hfs
      exact ⟨_, List.mem_map_of_mem hf, f.segments, hcut f hf⟩
  rw [hold_iff]
  constructor
  · rintro ⟨-, hscope⟩
    by_cases hfs : fs = []
    · exact .inl (by simp [hfs])
    · have := hscope (b ++ [s]) ((hscopes _).2 ⟨hfs, rfl⟩)
      rwa [hbelow] at this
  · intro h
    constructor
    · intro f hf hnone
      obtain ⟨g, hg, rfl⟩ := List.mem_map.1 hf
      rw [hcut g hg] at hnone
      cases hnone
    · intro l hl
      obtain ⟨-, rfl⟩ := (hscopes l).1 hl
      rwa [hbelow]

/-- Fields of different names have no common scope. -/
theorem columnsOf_hold_iff {ns : List FilterNode} (hnodup : (ns.map (·.name)).Nodup) {d : Json}
    (h : ∀ n ∈ ns, (∀ p ∈ columns (pathOf b) n, p.holds d = true) ↔
      Hold ((placed n).map (prepend b)) d) :
    (∀ p ∈ columnsOf (pathOf b) ns, p.holds d = true) ↔
      Hold ((placedOf ns).map (prepend b)) d := by
  induction ns with
  | nil => simp [columnsOf, placedOf, hold_nil]
  | cons n ns ih =>
    obtain ⟨hn, hns⟩ := List.forall_mem_cons.1 h
    rw [List.map_cons, List.nodup_cons] at hnodup
    have hdisjoint : ∀ l ∈ scopes ((placed n).map (prepend b)),
        l ∉ scopes ((placedOf ns).map (prepend b)) := by
      intro l hl hl'
      rw [placedOf_eq_flatMap, List.map_flatMap, mem_scopes] at hl'
      obtain ⟨f, hf, rest, hcut⟩ := hl'
      obtain ⟨m, hm, hf⟩ := List.mem_flatMap.1 hf
      have hpre := prefix_of_mem_scopes hb hl
      have hpre' := prefix_of_mem_scopes hb (mem_scopes.2 ⟨f, hf, rest, hcut⟩)
      have heq := (List.prefix_of_prefix_length_le hpre hpre' (by simp)).eq_of_length (by simp)
      have hname : n.name = m.name := by
        have hseg : n.segment = m.segment := by simpa using heq
        exact congrArg ResolvedSegment.name hseg
      exact hnodup.1 (hname ▸ List.mem_map_of_mem hm)
    rw [columnsOf, placedOf, List.map_append, List.forall_mem_append, hold_append hdisjoint, hn,
      ih hnodup.2 hns]

end Base

/-- The predicates of a node hold exactly if its filters do, all those below one list of the same
element. -/
theorem columns_hold_iff (n : FilterNode) : n.HasDistinctChildren → ∀ b : List ResolvedSegment,
    (∀ s ∈ b, s.isList = false) → ∀ d,
      (∀ p ∈ columns (pathOf b) n, p.holds d = true) ↔ Hold ((placed n).map (prepend b)) d := by
  induction n using childInduction with
  | node n ih =>
    rintro ⟨hnodup, hchildren⟩ b hb d
    have hbelow (c : List ResolvedSegment) (hc : ∀ s ∈ c, s.isList = false) (e : Json) :
        (∀ p ∈ columnsOf (pathOf c) n.children, p.holds e = true) ↔
          Hold ((placedOf n.children).map (prepend c)) e :=
      columnsOf_hold_iff hc hnodup fun m hm => ih m hm (hchildren m hm) c hc e
    have hhere : (∀ p ∈ n.filters.map (fun f => f.expression.compile ((pathOf b).child n.name)
        f.columnType n.isList), p.holds d = true) ↔
          Hold (n.filters.map fun f => ⟨b ++ [n.segment], f⟩) d := by
      rw [hold_here hb, List.forall_mem_map]
      refine forall₂_congr fun f _ => ?_
      rw [FlatFilter.predicate, pathOf_concat, endInList_concat]
      rfl
    have hdisjoint : ∀ fs : List FlatFilter,
        ∀ l ∈ scopes (n.filters.map fun f => ⟨b ++ [n.segment], f⟩), l ∉ scopes fs := by
      rw [scopes_here hb]
      simp
    have hplaced : (placed n).map (prepend b) =
        (n.filters.map fun f => ⟨b ++ [n.segment], f⟩)
          ++ (placedOf n.children).map (prepend (b ++ [n.segment])) := by
      have hcomp : prepend b ∘ prepend [n.segment] = prepend (b ++ [n.segment]) :=
        funext fun f => prepend_prepend b [n.segment] f
      rw [placed_eq, List.map_append, List.map_map, List.map_map, hcomp]
      rfl
    rw [columns_eq, hplaced, List.forall_mem_append, hold_append (hdisjoint _), hhere]
    refine and_congr_right fun _ => ?_
    have hchild : (pathOf b).child n.name = pathOf (b ++ [n.segment]) := (pathOf_concat b n).symm
    cases hlist : n.isList with
    | false =>
      have hc : ∀ s ∈ b ++ [n.segment], s.isList = false :=
        List.forall_mem_append.2 ⟨hb, List.forall_mem_singleton.2 hlist⟩
      rw [hchild]
      exact hbelow _ hc d
    | true =>
      have hne : ∀ f ∈ placedOf n.children, f.segments ≠ [] := fun _ => ne_nil_of_mem_placedOf
      rw [hold_below hb hlist hne, ← columnsOf_eq_always_iff [],
        ← conj_eq_always_iff isNormal_of_mem_columnsOf]
      cases hempty : n.children.isEmpty with
      | true =>
        rw [List.isEmpty_iff] at hempty
        simp [hempty, columnsOf, conj, conjuncts?]
      | false =>
        have helement (e : Json) : (conj (columnsOf [] n.children)).holds e = true ↔
            Hold (placedOf n.children) e := by
          have hprepend : (placedOf n.children).map (prepend []) = placedOf n.children :=
            List.map_id _
          rw [holds_conj, ← hprepend]
          exact hbelow [] (by simp) e
        simp only [Bool.true_and, Bool.not_false, if_true, List.forall_mem_singleton, holds_within,
          helement, hchild]

/-- The predicates of fields of one record. -/
theorem columnsOf_hold_placedOf {ns : List FilterNode} (hnodup : (ns.map (·.name)).Nodup)
    (hchildren : ∀ n ∈ ns, n.HasDistinctChildren) (d : Json) :
    (∀ p ∈ columnsOf [] ns, p.holds d = true) ↔ Hold (placedOf ns) d := by
  have hprepend : (placedOf ns).map (prepend []) = placedOf ns := List.map_id _
  rw [← hprepend]
  exact columnsOf_hold_iff (by simp) hnodup fun n hn =>
    columns_hold_iff n (hchildren n hn) [] (by simp) d

end FilterNode

end ListingQuery
