import ListingQuery.Filter.Tree
import ListingQuery.Predicate.Matches

/-!
# Flat filters

The filters of a query as a flat list, each with the segments of its field, and what they mean without
any tree.  A filter whose segments go on below a list belongs to the scope of the first such list.
Filters outside scopes hold of the document itself.  The filters of one scope, with the segments that
lead to its list taken off, hold of one and the same element; a scope in which no filter asks for
anything asks for no element either.

    Hold (fs ++ gs) d ↔ Hold fs d ∧ Hold gs d    for lists without a common scope    (hold_append)
-/

namespace ListingQuery

/-- A filter on the field that the segments name. -/
structure FlatFilter where
  segments : List ResolvedSegment
  filter : ColumnFilter

namespace FlatFilter

/-- The filter of an entry of a query, if its path resolves and it carries an operator. -/
def ofMember? (shape : RecordShape) (entry : String × FilterExpression) : Option FlatFilter :=
  match shape.resolve entry.1 with
  | .error _ => none
  | .ok field =>
    if entry.2.hasNoOperator then none
    else some ⟨field.segments, ⟨entry.2.columnType?.getD field.columnType, entry.2⟩⟩

/-- The filters of a query. -/
def ofEntries (shape : RecordShape) (filters : Keyed FilterExpression) : List FlatFilter :=
  filters.filterMap (ofMember? shape)

/-- The path of canonical names. -/
def pathOf (segments : List ResolvedSegment) : FieldPath := segments.map (·.name)

/-- Whether the segments lead to a list. -/
def endInList (segments : List ResolvedSegment) : Bool := segments.getLast?.any (·.isList)

/-- The segments up to the first list that they go on below, and the rest. -/
def cutAtList : List ResolvedSegment → Option (List ResolvedSegment × List ResolvedSegment)
  | [] => none
  | [_] => none
  | s :: t :: rest =>
    if s.isList then some ([s], t :: rest)
    else (cutAtList (t :: rest)).map fun cut => (s :: cut.1, cut.2)

/-- The predicate of the filter at its path. -/
def predicate (f : FlatFilter) : Predicate :=
  f.filter.expression.compile (pathOf f.segments) f.filter.columnType (endInList f.segments)

/-- The filter as one of the scope, if it belongs to it. -/
def inScope? (scope : List ResolvedSegment) (f : FlatFilter) : Option FlatFilter :=
  match cutAtList f.segments with
  | none => none
  | some (l, rest) => if l = scope then some ⟨rest, f.filter⟩ else none

/-- The filters of a scope, seen from the elements of its list. -/
def below (scope : List ResolvedSegment) (fs : List FlatFilter) : List FlatFilter :=
  fs.filterMap (inScope? scope)

/-- The scopes of filters. -/
def scopes (fs : List FlatFilter) : List (List ResolvedSegment) :=
  fs.filterMap fun f => (cutAtList f.segments).map Prod.fst

/-- The number of segments. -/
def size : List FlatFilter → Nat
  | [] => 0
  | f :: fs => f.segments.length + size fs

/-- The same filter with segments before its own. -/
def prepend (segments : List ResolvedSegment) (f : FlatFilter) : FlatFilter :=
  ⟨segments ++ f.segments, f.filter⟩

/-! ## Cutting at lists -/

theorem endInList_concat (segments : List ResolvedSegment) (s : ResolvedSegment) :
    endInList (segments ++ [s]) = s.isList := by
  simp [endInList]

theorem cutAtList_cons_of_list {s : ResolvedSegment} {rest : List ResolvedSegment}
    (hs : s.isList = true) (hrest : rest ≠ []) : cutAtList (s :: rest) = some ([s], rest) := by
  cases rest with
  | nil => exact absurd rfl hrest
  | cons t rest => rw [cutAtList, hs]; rfl

theorem cutAtList_cons {s : ResolvedSegment} (hs : s.isList = false)
    (rest : List ResolvedSegment) :
    cutAtList (s :: rest) = (cutAtList rest).map fun cut => (s :: cut.1, cut.2) := by
  cases rest with
  | nil => rfl
  | cons t rest => rw [cutAtList, hs]; rfl

theorem eq_append_of_cutAtList {segments l rest : List ResolvedSegment}
    (h : cutAtList segments = some (l, rest)) : segments = l ++ rest ∧ l ≠ [] := by
  induction segments generalizing l rest with
  | nil => cases h
  | cons s tail ih =>
    cases hs : s.isList with
    | true =>
      have hne : tail ≠ [] := by
        rintro rfl
        cases h
      rw [cutAtList_cons_of_list hs hne] at h
      cases h
      simp
    | false =>
      rw [cutAtList_cons hs, Option.map_eq_some_iff] at h
      obtain ⟨⟨l', rest'⟩, hcut, heq⟩ := h
      cases heq
      simp [(ih hcut).1]

variable {b : List ResolvedSegment} (hb : ∀ s ∈ b, s.isList = false)
include hb

/-- Without a list before its last segment, nothing is cut off. -/
theorem cutAtList_concat (s : ResolvedSegment) : cutAtList (b ++ [s]) = none := by
  induction b with
  | nil => rfl
  | cons t b ih =>
    obtain ⟨ht, hb⟩ := List.forall_mem_cons.1 hb
    rw [List.cons_append, cutAtList_cons ht, ih hb]
    rfl

/-- The cut is after the first list. -/
theorem cutAtList_append {s : ResolvedSegment} {rest : List ResolvedSegment}
    (hs : s.isList = true) (hrest : rest ≠ []) :
    cutAtList (b ++ [s] ++ rest) = some (b ++ [s], rest) := by
  induction b with
  | nil => exact cutAtList_cons_of_list hs hrest
  | cons t b ih =>
    obtain ⟨ht, hb⟩ := List.forall_mem_cons.1 hb
    rw [List.cons_append, List.cons_append, cutAtList_cons ht, ih hb]
    rfl

omit hb

/-! ## Scopes -/

theorem mem_scopes {fs : List FlatFilter} {l : List ResolvedSegment} :
    l ∈ scopes fs ↔ ∃ f ∈ fs, ∃ rest, cutAtList f.segments = some (l, rest) := by
  simp [scopes]

theorem mem_below {fs : List FlatFilter} {l : List ResolvedSegment} {g : FlatFilter} :
    g ∈ below l fs ↔ ∃ f ∈ fs, cutAtList f.segments = some (l, g.segments) ∧ f.filter = g.filter := by
  simp only [below, List.mem_filterMap]
  refine exists_congr fun f => and_congr_right fun _ => ?_
  rw [inScope?]
  cases hcut : cutAtList f.segments with
  | none => simp
  | some cut =>
    obtain ⟨l', rest⟩ := cut
    obtain ⟨segments, filter⟩ := g
    by_cases hl : l' = l <;> simp [hl]

theorem below_append (l : List ResolvedSegment) (fs gs : List FlatFilter) :
    below l (fs ++ gs) = below l fs ++ below l gs := List.filterMap_append

theorem below_eq_nil {fs : List FlatFilter} {l : List ResolvedSegment} (h : l ∉ scopes fs) :
    below l fs = [] := by
  rw [List.eq_nil_iff_forall_not_mem]
  intro g hg
  obtain ⟨f, hf, hcut, -⟩ := mem_below.1 hg
  exact h (mem_scopes.2 ⟨f, hf, _, hcut⟩)

theorem size_append (fs gs : List FlatFilter) : size (fs ++ gs) = size fs + size gs := by
  induction fs with
  | nil => simp [size]
  | cons f fs ih => rw [List.cons_append, size, size, ih, Nat.add_assoc]

/-- A filter seen from its scope has fewer segments. -/
theorem length_lt_of_inScope? {l : List ResolvedSegment} {f g : FlatFilter}
    (h : inScope? l f = some g) : g.segments.length < f.segments.length := by
  rw [inScope?] at h
  split at h
  · cases h
  · next l' rest hcut =>
    split at h
    · cases h
      obtain ⟨heq, hne⟩ := eq_append_of_cutAtList hcut
      have hpos : 0 < l'.length := List.length_pos_iff.2 hne
      rw [heq, List.length_append]
      show rest.length < l'.length + rest.length
      omega
    · cases h

theorem size_below_le (l : List ResolvedSegment) (fs : List FlatFilter) :
    size (below l fs) ≤ size fs := by
  induction fs with
  | nil => exact Nat.le_refl _
  | cons f fs ih =>
    have hsize : size (f :: fs) = f.segments.length + size fs := rfl
    cases hf : inScope? l f with
    | none =>
      rw [below, List.filterMap_cons_none hf, ← below, hsize]
      omega
    | some g =>
      have hlt := length_lt_of_inScope? hf
      have hsize' : size (g :: below l fs) = g.segments.length + size (below l fs) := rfl
      rw [below, List.filterMap_cons_some hf, ← below, hsize, hsize']
      omega

/-- The filters of a scope have fewer segments together. -/
theorem size_below_lt {fs : List FlatFilter} {l : List ResolvedSegment} (h : l ∈ scopes fs) :
    size (below l fs) < size fs := by
  obtain ⟨f, hf, rest, hcut⟩ := mem_scopes.1 h
  obtain ⟨before, after, rfl⟩ := List.append_of_mem hf
  have hscope : inScope? l f = some ⟨rest, f.filter⟩ := by simp [inScope?, hcut]
  have hlt := length_lt_of_inScope? hscope
  have hbefore := size_below_le l before
  have hafter := size_below_le l after
  have hbelow : below l [f] = [⟨rest, f.filter⟩] := by simp [below, hscope]
  have hone (g : FlatFilter) : size [g] = g.segments.length := rfl
  rw [← List.singleton_append, below_append, below_append, hbelow, size_append, size_append,
    size_append, size_append, hone, hone]
  omega

/-! ## Meaning -/

/-- Whether all filters hold of a document. -/
def Hold (fs : List FlatFilter) (d : Json) : Prop :=
  (∀ f ∈ fs, cutAtList f.segments = none → f.predicate.holds d = true) ∧
  ∀ scope ∈ scopes fs, (∀ f ∈ below scope fs, f.predicate = .always) ∨
    ∃ e ∈ d.elementsAt (pathOf scope), Hold (below scope fs) e
termination_by size fs
decreasing_by exact size_below_lt ‹_›

theorem hold_iff (fs : List FlatFilter) (d : Json) :
    Hold fs d ↔ (∀ f ∈ fs, cutAtList f.segments = none → f.predicate.holds d = true) ∧
      ∀ scope ∈ scopes fs, (∀ f ∈ below scope fs, f.predicate = .always) ∨
        ∃ e ∈ d.elementsAt (pathOf scope), Hold (below scope fs) e := by
  rw [Hold]

theorem hold_nil (d : Json) : Hold [] d := by
  rw [hold_iff]
  simp [scopes]

theorem mem_scopes_congr {fs gs : List FlatFilter} (h : ∀ f, f ∈ fs ↔ f ∈ gs)
    (l : List ResolvedSegment) : l ∈ scopes fs ↔ l ∈ scopes gs := by
  simp only [mem_scopes, h]

theorem mem_below_congr {fs gs : List FlatFilter} (h : ∀ f, f ∈ fs ↔ f ∈ gs)
    (l : List ResolvedSegment) (f : FlatFilter) : f ∈ below l fs ↔ f ∈ below l gs := by
  simp only [mem_below, h]

/-- Order and repetition of filters do not matter. -/
theorem hold_congr {fs gs : List FlatFilter} (h : ∀ f, f ∈ fs ↔ f ∈ gs) (d : Json) :
    Hold fs d ↔ Hold gs d := by
  rw [hold_iff, hold_iff]
  simp only [mem_scopes_congr h, mem_below_congr h]
  refine and_congr (by simp only [h]) ?_
  refine forall_congr' fun l => forall_congr' fun hl => or_congr_right ?_
  have hlt := size_below_lt ((mem_scopes_congr h l).2 hl)
  exact exists_congr fun e => and_congr_right fun _ => hold_congr (mem_below_congr h l) e
termination_by size fs

/-- Filters without a common scope are independent of each other. -/
theorem hold_append {fs gs : List FlatFilter} (h : ∀ l ∈ scopes fs, l ∉ scopes gs) (d : Json) :
    Hold (fs ++ gs) d ↔ Hold fs d ∧ Hold gs d := by
  have hscopes (l : List ResolvedSegment) : l ∈ scopes (fs ++ gs) ↔ l ∈ scopes fs ∨ l ∈ scopes gs := by
    rw [scopes, List.filterMap_append, List.mem_append]
    rfl
  have hleft (l : List ResolvedSegment) (hl : l ∈ scopes fs) : below l (fs ++ gs) = below l fs := by
    rw [below_append, below_eq_nil (h l hl), List.append_nil]
  have hright (l : List ResolvedSegment) (hl : l ∈ scopes gs) : below l (fs ++ gs) = below l gs := by
    rw [below_append, below_eq_nil fun hf => h l hf hl, List.nil_append]
  rw [hold_iff, hold_iff fs, hold_iff gs]
  constructor
  · rintro ⟨hhere, hbelow⟩
    refine ⟨⟨fun f hf => hhere f (by simp [hf]), fun l hl => ?_⟩,
      fun f hf => hhere f (by simp [hf]), fun l hl => ?_⟩
    · have := hbelow l ((hscopes l).2 (.inl hl))
      rwa [hleft l hl] at this
    · have := hbelow l ((hscopes l).2 (.inr hl))
      rwa [hright l hl] at this
  · rintro ⟨⟨hhere, hbelow⟩, hhere', hbelow'⟩
    constructor
    · intro f hf
      rcases List.mem_append.1 hf with hf | hf
      · exact hhere f hf
      · exact hhere' f hf
    · intro l hl
      rcases (hscopes l).1 hl with hl | hl
      · rw [hleft l hl]
        exact hbelow l hl
      · rw [hright l hl]
        exact hbelow' l hl

end FlatFilter

end ListingQuery
