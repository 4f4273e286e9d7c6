import ListingQuery.Proofs.Shape.Composition
import ListingQuery.Query.Assembly

/-!
# Assembling, step by step

A description is assembled in steps that may fail: its page, the tree of its filters and its search,
and its sort keys.  What is assembled consists of what the steps give.

    assemble schema d max = .ok q ↔ d.page max, tree schema d and the sort keys of d succeed, and
      q is made of them                                               (assemble_eq_ok_iff)
-/

namespace ListingQuery

/-- What holds at first and is kept by every step holds in the end. -/
theorem foldlM_induction {α β ε : Type} {f : β → α → Except ε β} {P : β → Prop} {xs : List α}
    {b b' : β} (hb : P b) (step : ∀ x ∈ xs, ∀ b b', P b → f b x = .ok b' → P b')
    (h : xs.foldlM f b = .ok b') : P b' := by
  induction xs generalizing b with
  | nil =>
    cases h
    exact hb
  | cons x xs ih =>
    rw [List.foldlM_cons] at h
    cases hx : f b x with
    | error e =>
      rw [hx] at h
      cases h
    | ok b₁ =>
      rw [hx] at h
      exact ih (step x List.mem_cons_self b b₁ hb hx)
        (fun y hy => step y (List.mem_cons_of_mem _ hy)) h

theorem exists_of_mapM_error {α β ε : Type} {f : α → Except ε β} {xs : List α} {e : ε}
    (h : xs.mapM f = .error e) : ∃ x ∈ xs, f x = .error e := by
  induction xs with
  | nil => cases h
  | cons x xs ih =>
    rw [List.mapM_cons] at h
    cases hx : f x with
    | error e' =>
      rw [hx] at h
      cases h
      exact ⟨x, List.mem_cons_self, hx⟩
    | ok y =>
      rw [hx] at h
      cases hxs : xs.mapM f with
      | error e' =>
        rw [hxs] at h
        cases h
        obtain ⟨y, hy, hfail⟩ := ih hxs
        exact ⟨y, List.mem_cons_of_mem _ hy, hfail⟩
      | ok ys =>
        rw [hxs] at h
        cases h

namespace RecordShape

/-! ## Paths that do not resolve -/

/-- A path fails to resolve where a field is missing. -/
theorem exists_of_resolve_error {shape : RecordShape} {path : String} {e : QueryError}
    (h : shape.resolve path = .error e) : ∃ segment record, e = .fieldNotFound path segment record := by
  obtain ⟨-, segment, -, record, -, -, he⟩ := resolve_eq_error_iff.1 h
  exact ⟨segment, record.name, he⟩

end RecordShape

namespace FilterTree

variable {shape : RecordShape}

/-! ## Trees -/

/-- A search is attached as it is, or with all its fields marked, or fails at one of its paths. -/
theorem attachSearch_cases (value : String) (paths : List String) (t : FilterTree) :
    (Text.trim value = "" ∧ t.attachSearch shape value paths = (t, none)) ∨
    (Text.trim value ≠ "" ∧ ((∃ t', markAll shape paths t = (t', none) ∧
        t.attachSearch shape value paths = ({ t' with search? := some (Text.trim value) }, none)) ∨
      ∃ t' e, markAll shape paths t = (t', some e) ∧
        t.attachSearch shape value paths = (t', some e))) := by
  by_cases hblank : Text.trim value = ""
  · exact .inl ⟨hblank, by simp [attachSearch, hblank]⟩
  · refine .inr ⟨hblank, ?_⟩
    have hne : (Text.trim value).isEmpty = false := by simp [hblank]
    cases hmark : markAll shape paths t with
    | mk t' e? =>
      cases e? with
      | none => exact .inl ⟨t', rfl, by simp [attachSearch, hne, hmark]⟩
      | some e => exact .inr ⟨t', e, rfl, by simp [attachSearch, hne, hmark]⟩

end FilterTree

namespace AssembledQuery

variable {schema : CollectionSchema} {d : QueryDescription} {maxPageSize : Nat}

/-! ## Queries -/

theorem tree_eq_ok_iff {t : FilterTree} : tree schema d = .ok t ↔
    ∃ t₀, FilterTree.build schema.shape d.filters = .ok t₀ ∧
      (d.search? = none ∧ t = t₀ ∨ ∃ text, d.search? = some text ∧
        t₀.attachSearch schema.shape text schema.searchable = (t, none)) := by
  rw [tree]
  cases hb : FilterTree.build schema.shape d.filters with
  | error e => simp [bind, Except.bind]
  | ok t₀ =>
    simp only [bind, Except.bind, Except.ok.injEq, exists_eq_left']
    cases hs : d.search? with
    | none => simp [eq_comm]
    | some text =>
      cases ha : t₀.attachSearch schema.shape text schema.searchable with
      | mk t' e? => cases e? <;> simp [ha]

theorem assemble_eq_ok_iff {q : AssembledQuery} : assemble schema d maxPageSize = .ok q ↔
    ∃ page t sort, d.page maxPageSize = .ok page ∧ tree schema d = .ok t ∧
      d.orderBy.mapM (sortKey schema.shape) = .ok sort ∧
      q = ⟨t.predicate, page, sort, d.draw?⟩ := by
  rw [assemble]
  cases d.page maxPageSize with
  | error e => simp [bind, Except.bind]
  | ok page =>
    cases tree schema d with
    | error e => simp [bind, Except.bind]
    | ok t =>
      cases d.orderBy.mapM (sortKey schema.shape) with
      | error e => simp [bind, Except.bind]
      | ok sort => simp [bind, Except.bind, eq_comm]

end AssembledQuery

end ListingQuery
