import ListingQuery.Proofs.Filter.Search
import ListingQuery.Schema.Declaration

/-!
# The first fault of a description

A description is checked in a fixed order: the limit, the paths of its filters, the searchable paths
if it searches for something, and the paths of its sort keys.  Assembling reports the first fault in
this order, and fails for no other reason.  What is asked of a field never matters: a filter with a
value of the wrong type, or with an operator that the field has no use for, is part of the predicate.

    assemble schema d max = .error e ↔ d.limit < -1, and e says so, or
      e is the fault of the first path of asked schema d that names no field
                                                                (assemble_fails_at_first_fault)
-/

namespace ListingQuery

/-! ## Steps that may fail -/

theorem exists_eq_ok_iff {α ε : Type} {x : Except ε α} :
    (∃ a, x = .ok a) ↔ ¬ ∃ e, x = .error e := by
  cases x <;> simp

/-- Of two steps the second fails only after the first has succeeded. -/
theorem bind_eq_error_iff {α β ε : Type} {x : Except ε α} {f : α → Except ε β} {e : ε} :
    (x >>= f) = .error e ↔ x = .error e ∨ ∃ a, x = .ok a ∧ f a = .error e := by
  cases x <;> simp [bind, Except.bind]

/-- A list is mapped exactly if each element is. -/
theorem mapM_eq_ok_iff {α β ε : Type} {f : α → Except ε β} {xs : List α} : ∀ {ys : List β},
    xs.mapM f = .ok ys ↔ List.Forall₂ (fun x y => f x = .ok y) xs ys := by
  induction xs with
  | nil => simp [pure, Except.pure, eq_comm]
  | cons x xs ih =>
    intro ys
    rw [List.mapM_cons, List.forall₂_cons_left_iff]
    cases hx : f x with
    | error e => simp [bind, Except.bind]
    | ok y =>
      simp only [bind, Except.bind, Except.ok.injEq, exists_and_left, exists_eq_left', ← ih]
      cases xs.mapM f <;> simp [pure, Except.pure, eq_comm]

namespace RecordShape

variable {shape : RecordShape}

/-! ## Lists of paths -/

/-- The path names a field. -/
def Resolves (shape : RecordShape) (path : String) : Prop := ∃ field, shape.resolve path = .ok field

/-- `e` is the fault of the first of the paths that names no field. -/
def FaultsFirst (shape : RecordShape) (paths : List String) (e : QueryError) : Prop :=
  ∃ before path after segment record, paths = before ++ path :: after ∧
    (∀ p ∈ before, shape.Resolves p) ∧ e = .fieldNotFound path segment record ∧
    shape.resolve path = .error e

theorem not_resolves_of_error {path : String} {e : QueryError} (h : shape.resolve path = .error e) :
    ¬ shape.Resolves path := by
  rintro ⟨field, hfield⟩
  cases h.symm.trans hfield

theorem faultsFirst_nil (e : QueryError) : ¬ shape.FaultsFirst [] e := by
  rintro ⟨before, path, after, _, _, h, -⟩
  simp at h

theorem faultsFirst_cons_iff {path : String} {paths : List String} {e : QueryError} :
    shape.FaultsFirst (path :: paths) e ↔
      shape.resolve path = .error e ∨ shape.Resolves path ∧ shape.FaultsFirst paths e := by
  constructor
  · rintro ⟨before, p, after, segment, record, hpaths, hbefore, he, hp⟩
    cases before with
    | nil =>
      obtain ⟨rfl, -⟩ := List.cons.inj hpaths
      exact .inl hp
    | cons q before =>
      obtain ⟨rfl, rfl⟩ := List.cons.inj hpaths
      obtain ⟨hq, hbefore⟩ := List.forall_mem_cons.1 hbefore
      exact .inr ⟨hq, before, p, after, segment, record, rfl, hbefore, he, hp⟩
  · rintro (hp | ⟨hq, before, p, after, segment, record, rfl, hbefore, he, hp⟩)
    · obtain ⟨segment, record, he⟩ := exists_of_resolve_error hp
      exact ⟨[], path, paths, segment, record, rfl, by simp, he, hp⟩
    · exact ⟨path :: before, p, after, segment, record, rfl,
        List.forall_mem_cons.2 ⟨hq, hbefore⟩, he, hp⟩

/-- Later paths matter only if all earlier ones name fields. -/
theorem faultsFirst_append_iff {paths more : List String} {e : QueryError} :
    shape.FaultsFirst (paths ++ more) e ↔
      shape.FaultsFirst paths e ∨ (∀ p ∈ paths, shape.Resolves p) ∧ shape.FaultsFirst more e := by
  induction paths with
  | nil => simp [faultsFirst_nil]
  | cons path paths ih =>
    rw [List.cons_append, faultsFirst_cons_iff, faultsFirst_cons_iff, ih, List.forall_mem_cons]
    tauto

/-- Paths in between that name fields change nothing. -/
theorem faultsFirst_skip_iff {paths skipped more : List String} {e : QueryError}
    (h : ∀ p ∈ skipped, shape.Resolves p) :
    shape.FaultsFirst (paths ++ skipped ++ more) e ↔ shape.FaultsFirst (paths ++ more) e := by
  have hnone : ¬ shape.FaultsFirst skipped e := by
    rintro ⟨before, path, after, _, _, rfl, -, -, hpath⟩
    exact not_resolves_of_error hpath (h path (by simp))
  rw [List.append_assoc, faultsFirst_append_iff, faultsFirst_append_iff, faultsFirst_append_iff]
  tauto

theorem exists_faultsFirst_iff {paths : List String} :
    (∃ e, shape.FaultsFirst paths e) ↔ ¬ ∀ p ∈ paths, shape.Resolves p := by
  induction paths with
  | nil => simp [faultsFirst_nil]
  | cons path paths ih =>
    simp only [faultsFirst_cons_iff, List.forall_mem_cons]
    cases h : shape.resolve path with
    | error e => simp [not_resolves_of_error h]
    | ok field =>
      have hpath : shape.Resolves path := ⟨field, h⟩
      simp [hpath, ih]

/-- Entries are mapped up to the first whose path names no field. -/
theorem mapM_eq_error_iff {α β : Type} {f : α → Except QueryError β} {path : α → String}
    (hf : ∀ x e, f x = .error e ↔ shape.resolve (path x) = .error e) {xs : List α}
    {e : QueryError} : xs.mapM f = .error e ↔ shape.FaultsFirst (xs.map path) e := by
  induction xs with
  | nil => simp [faultsFirst_nil, pure, Except.pure]
  | cons x xs ih =>
    have hx : (∃ y, f x = .ok y) ↔ shape.Resolves (path x) := by
      simp only [exists_eq_ok_iff, hf, Resolves]
    rw [List.mapM_cons, List.map_cons, faultsFirst_cons_iff, bind_eq_error_iff, hf, ← hx, ← ih]
    simp [bind_eq_error_iff, pure, Except.pure]

end RecordShape

open RecordShape

namespace FilterTree

variable {shape : RecordShape}

/-! ## Trees -/

theorem addFilter_eq_error_iff {t : FilterTree} {entry : String × FilterExpression}
    {e : QueryError} :
    addFilter shape t entry = .error e ↔ shape.resolve entry.1 = .error e := by
  rw [addFilter]
  cases shape.resolve entry.1 with
  | error e' => simp [bind, Except.bind]
  | ok field =>
    simp only [bind, Except.bind, reduceCtorEq, iff_false]
    split <;> simp

theorem exists_of_addFilter {t t' : FilterTree} {entry : String × FilterExpression}
    (h : addFilter shape t entry = .ok t') : shape.Resolves entry.1 := by
  cases hr : shape.resolve entry.1 with
  | error e => cases (addFilter_eq_error_iff.2 hr).symm.trans h
  | ok field => exact ⟨field, hr⟩

/-- The filters of a description are added in order, whatever they ask for. -/
theorem foldlM_addFilter_eq_error_iff {filters : Keyed FilterExpression} {e : QueryError} :
    ∀ t, filters.foldlM (addFilter shape) t = .error e ↔
      shape.FaultsFirst (filters.map Prod.fst) e := by
  induction filters with
  | nil => simp [faultsFirst_nil, pure, Except.pure]
  | cons entry filters ih =>
    intro t
    rw [List.foldlM_cons, List.map_cons, faultsFirst_cons_iff, ← addFilter_eq_error_iff (t := t)]
    cases h : addFilter shape t entry with
    | error e' =>
      have hnot := not_resolves_of_error (addFilter_eq_error_iff.1 h)
      simp [bind, Except.bind, hnot]
    | ok t' =>
      simp only [bind, Except.bind, ih, reduceCtorEq, false_or, exists_of_addFilter h, true_and]

theorem build_eq_error_iff {filters : Keyed FilterExpression} {e : QueryError} :
    build shape filters = .error e ↔ shape.FaultsFirst (filters.map Prod.fst) e :=
  foldlM_addFilter_eq_error_iff empty

theorem markAll_eq_some_iff {paths : List String} {e : QueryError} :
    ∀ t, (markAll shape paths t).2 = some e ↔ shape.FaultsFirst paths e := by
  induction paths with
  | nil => simp [markAll, faultsFirst_nil]
  | cons path paths ih =>
    intro t
    rw [markAll, faultsFirst_cons_iff]
    cases h : shape.resolve path with
    | error e' => simp [not_resolves_of_error h]
    | ok field =>
      have hpath : shape.Resolves path := ⟨field, h⟩
      simp [hpath, ih]

/-- The filters are added exactly if all their paths name fields. -/
theorem exists_build_iff {filters : Keyed FilterExpression} :
    (∃ t, build shape filters = .ok t) ↔ ∀ p ∈ filters.map Prod.fst, shape.Resolves p := by
  simp only [exists_eq_ok_iff, build_eq_error_iff, exists_faultsFirst_iff, not_not]

theorem attachSearch_eq_some_iff {value : String} {paths : List String} {e : QueryError}
    (t : FilterTree) : (t.attachSearch shape value paths).2 = some e ↔
      Text.trim value ≠ "" ∧ shape.FaultsFirst paths e := by
  rw [← markAll_eq_some_iff t]
  have hcases := @attachSearch_cases shape value paths t
  rcases hcases with ⟨hblank, h⟩ | ⟨hblank, ⟨t', hmark, h⟩ | ⟨t', e', hmark, h⟩⟩
  · simp [h, hblank]
  · simp [h, hmark]
  · simp [h, hmark, hblank]

end FilterTree

/-- The description searches for something. -/
def QueryDescription.Searches (d : QueryDescription) : Prop :=
  ∃ text, d.search? = some text ∧ ¬ Text.IsBlankText text

/-- The searchable paths of a collection name fields. -/
theorem SchemaConfig.resolves_of_collection {config : SchemaConfig} {name : String}
    {schema : CollectionSchema} (h : config.collection name = .ok schema) :
    ∀ path ∈ schema.searchable, schema.shape.Resolves path := by
  rw [collection] at h
  split at h
  · cases h
  · next c _ =>
    rw [CollectionConfig.toSchema] at h
    split at h
    · cases h
    · dsimp only at h
      split at h
      · cases h
      · next fields hfields =>
        cases h
        intro path hpath
        obtain ⟨n, hn, rfl⟩ := List.mem_iff_getElem.1 hpath
        have hall := mapM_eq_ok_iff.1 hfields
        exact ⟨_, hall.get hn (hall.length_eq ▸ hn)⟩

namespace AssembledQuery

variable {schema : CollectionSchema} {d : QueryDescription} {maxPageSize : Nat}

/-! ## Queries -/

/-- The searchable paths, if the description searches for something. -/
def searched (schema : CollectionSchema) (d : QueryDescription) : List String :=
  match d.search? with
  | none => []
  | some text => if Text.trim text = "" then [] else schema.searchable

/-- The paths that a description asks for, in the order in which they are resolved. -/
def asked (schema : CollectionSchema) (d : QueryDescription) : List String :=
  d.filters.map Prod.fst ++ searched schema d ++ d.orderBy.map Prod.fst

theorem mem_searched_iff {path : String} :
    path ∈ searched schema d ↔ d.Searches ∧ path ∈ schema.searchable := by
  rw [searched, QueryDescription.Searches]
  cases d.search? with
  | none => simp
  | some text => by_cases h : Text.trim text = "" <;> simp [← Text.trim_eq_empty_iff, h]

theorem tree_eq_error_iff {e : QueryError} : tree schema d = .error e ↔
    schema.shape.FaultsFirst (d.filters.map Prod.fst ++ searched schema d) e := by
  rw [tree, bind_eq_error_iff, faultsFirst_append_iff, FilterTree.build_eq_error_iff,
    ← FilterTree.exists_build_iff, searched]
  rw [← exists_and_right]
  refine or_congr_right (exists_congr fun t => and_congr_right fun _ => ?_)
  cases d.search? with
  | none => simp [faultsFirst_nil]
  | some text =>
    have hattach : (t.attachSearch schema.shape text schema.searchable).2 = some e ↔
        Text.trim text ≠ "" ∧ schema.shape.FaultsFirst schema.searchable e :=
      FilterTree.attachSearch_eq_some_iff t
    cases h : t.attachSearch schema.shape text schema.searchable with
    | mk t' e? =>
      rw [h] at hattach
      by_cases hblank : Text.trim text = "" <;> cases e? <;>
        simp_all [faultsFirst_nil]

theorem sortKey_eq_error_iff {shape : RecordShape} {entry : String × Direction} {e : QueryError} :
    sortKey shape entry = .error e ↔ shape.resolve entry.1 = .error e := by
  rw [sortKey]
  cases shape.resolve entry.1 <;> simp [bind, Except.bind]

theorem sortKey_eq_ok_iff {shape : RecordShape} {entry : String × Direction} {key : SortKey} :
    sortKey shape entry = .ok key ↔
      ∃ field, shape.resolve entry.1 = .ok field ∧ key = ⟨field.path, entry.2⟩ := by
  rw [sortKey]
  cases shape.resolve entry.1 <;> simp [bind, Except.bind, eq_comm]

/-- Sort keys fail at the first that names no field. -/
theorem sort_eq_error_iff {shape : RecordShape} {entries : Keyed Direction} {e : QueryError} :
    entries.mapM (sortKey shape) = .error e ↔ shape.FaultsFirst (entries.map Prod.fst) e :=
  mapM_eq_error_iff fun _ _ => sortKey_eq_error_iff

theorem page_eq_error_iff {e : QueryError} : d.page maxPageSize = .error e ↔
    d.limit < -1 ∧ e = .invalidQuery (.limitOutOfRange d.limit) := by
  rw [QueryDescription.page]
  split
  · next h => simp [h, eq_comm]
  · next h => split <;> simp [h]

theorem page_of_eq_ok {page : Page} (h : d.page maxPageSize = .ok page) :
    page = if d.limit = -1 then ⟨0, maxPageSize⟩
      else ⟨d.offset, min d.limit.toNat maxPageSize⟩ := by
  rw [QueryDescription.page] at h
  split at h
  · cases h
  · split at h <;> cases h <;> simp [*]

/-- A description fails at its limit, or at the first path that names no field. -/
theorem assemble_eq_error_iff {e : QueryError} : assemble schema d maxPageSize = .error e ↔
    d.limit < -1 ∧ e = .invalidQuery (.limitOutOfRange d.limit) ∨
      -1 ≤ d.limit ∧ schema.shape.FaultsFirst (asked schema d) e := by
  have hpage : (∃ page, d.page maxPageSize = .ok page) ↔ -1 ≤ d.limit := by
    simp [exists_eq_ok_iff, page_eq_error_iff]
  have htree : (∃ t, tree schema d = .ok t) ↔
      ∀ p ∈ d.filters.map Prod.fst ++ searched schema d, schema.shape.Resolves p := by
    simp only [exists_eq_ok_iff, tree_eq_error_iff, exists_faultsFirst_iff, not_not]
  rw [assemble, bind_eq_error_iff, page_eq_error_iff, ← hpage, asked, faultsFirst_append_iff,
    ← htree, ← tree_eq_error_iff, ← sort_eq_error_iff]
  simp only [bind_eq_error_iff, reduceCtorEq, and_false, exists_false, or_false, exists_and_right]

/-- Whoever sent the description is told that the request was bad. -/
theorem status_of_assemble {e : QueryError} (h : assemble schema d maxPageSize = .error e) :
    e.status = 400 := by
  rcases assemble_eq_error_iff.1 h with ⟨-, rfl⟩ | ⟨-, _, _, _, _, _, -, -, rfl, -⟩
  · rfl
  · rfl

/-- A fault reads the same in any wording, unless it is about the limit. -/
theorem message_of_assemble {e : QueryError} (h : assemble schema d maxPageSize = .error e)
    (a b : Wording) : e.message a = e.message b ∨
      d.limit < -1 ∧ e = .invalidQuery (.limitOutOfRange d.limit) := by
  rcases assemble_eq_error_iff.1 h with hlimit | ⟨-, _, _, _, _, _, -, -, rfl, -⟩
  · exact .inr hlimit
  · exact .inl rfl

/-- Nothing but the limit and the paths decides whether a description is assembled. -/
theorem exists_assemble_iff : (∃ q, assemble schema d maxPageSize = .ok q) ↔
    -1 ≤ d.limit ∧ ∀ path ∈ asked schema d, schema.shape.Resolves path := by
  have hfault : (∃ e, assemble schema d maxPageSize = .error e) ↔
      d.limit < -1 ∨ -1 ≤ d.limit ∧ ¬ ∀ path ∈ asked schema d, schema.shape.Resolves path := by
    simp only [assemble_eq_error_iff, exists_or, exists_and_left, exists_faultsFirst_iff,
      exists_eq, and_true]
  rw [exists_eq_ok_iff, hfault, ← Int.not_le]
  tauto

theorem forall_mem_asked_iff {P : String → Prop} : (∀ path ∈ asked schema d, P path) ↔
    (∀ entry ∈ d.filters, P entry.1) ∧ (d.Searches → ∀ path ∈ schema.searchable, P path) ∧
      ∀ entry ∈ d.orderBy, P entry.1 := by
  simp only [asked, List.forall_mem_append, List.forall_mem_map, mem_searched_iff, and_assoc,
    and_imp, forall_comm (α := String)]

/-- A description is assembled exactly if its limit is in range and all it asks for are fields.  The
first fault is reported, and no other: what is asked of a field cannot fail, nor can the search of a
declared collection.  The page and the sort keys are those of the description. -/
theorem assemble_fails_at_first_fault (schema : CollectionSchema) (d : QueryDescription)
    (maxPageSize : Nat) :
    ((∃ q, assemble schema d maxPageSize = .ok q) ↔ -1 ≤ d.limit ∧
      (∀ entry ∈ d.filters, schema.shape.Resolves entry.1) ∧
      (d.Searches → ∀ path ∈ schema.searchable, schema.shape.Resolves path) ∧
      ∀ entry ∈ d.orderBy, schema.shape.Resolves entry.1) ∧
    (∀ e, assemble schema d maxPageSize = .error e ↔
      d.limit < -1 ∧ e = .invalidQuery (.limitOutOfRange d.limit) ∨
        -1 ≤ d.limit ∧ schema.shape.FaultsFirst (asked schema d) e) ∧
    (∀ d' : QueryDescription, d'.limit = d.limit → d'.search? = d.search? →
      d'.filters.map Prod.fst = d.filters.map Prod.fst →
      d'.orderBy.map Prod.fst = d.orderBy.map Prod.fst →
      ∀ e, assemble schema d' maxPageSize = .error e ↔ assemble schema d maxPageSize = .error e) ∧
    (∀ q, assemble schema d maxPageSize = .ok q →
      q.page = (if d.limit = -1 then ⟨0, maxPageSize⟩
        else ⟨d.offset, min d.limit.toNat maxPageSize⟩) ∧
      List.Forall₂ (fun entry key => ∃ field, schema.shape.resolve entry.1 = .ok field ∧
        key = ⟨field.path, entry.2⟩) d.orderBy q.sort) ∧
    ∀ (config : SchemaConfig) (name : String), config.collection name = .ok schema →
      ∀ e, assemble schema d maxPageSize = .error e ↔
        assemble schema (withoutSearch d) maxPageSize = .error e := by
  refine ⟨?_, fun e => assemble_eq_error_iff, ?_, ?_, ?_⟩
  · rw [exists_assemble_iff, forall_mem_asked_iff]
  · intro d' hlimit hsearch hfilters horder e
    have hasked : asked schema d' = asked schema d := by
      simp only [asked, searched, hsearch, hfilters, horder]
    rw [assemble_eq_error_iff, assemble_eq_error_iff, hlimit, hasked]
  · intro q hq
    obtain ⟨page, t, sort, hpage, -, hsort, rfl⟩ := assemble_eq_ok_iff.1 hq
    refine ⟨page_of_eq_ok hpage, (mapM_eq_ok_iff.1 hsort).imp ?_⟩
    intro entry key hkey
    exact sortKey_eq_ok_iff.1 hkey
  · intro config name hconfig e
    have hsearchable := SchemaConfig.resolves_of_collection hconfig
    have hsearched : ∀ path ∈ searched schema d, schema.shape.Resolves path :=
      fun path hpath => hsearchable path (mem_searched_iff.1 hpath).2
    have hnone : ∀ path ∈ ([] : List String), schema.shape.Resolves path := by simp
    have hskip : schema.shape.FaultsFirst (asked schema d) e ↔
        schema.shape.FaultsFirst (asked schema (withoutSearch d)) e :=
      (faultsFirst_skip_iff hsearched).trans (faultsFirst_skip_iff hnone).symm
    rw [assemble_eq_error_iff, assemble_eq_error_iff, hskip]
    rfl

/-- Orders that are searched by their status, the only field they have. -/
def statusConfig : SchemaConfig where
  collections := [{
    name := "orders"
    searchable := ["status"]
    fields := [{ name := "status", type? := some "string" }] }]

/-- What `statusConfig` declares. -/
def statusSchema : CollectionSchema :=
  ⟨"orders", ⟨"orders", [⟨"status", none, .scalar .string⟩]⟩, ["status"]⟩

/-- A search with a filter and a sort key that are not on the status. -/
def colorQuery (bound : Json) : QueryDescription where
  filters := [("status", { gt? := some bound }), ("color", {})]
  orderBy := [("size", .asc)]
  search? := some " paid "

theorem colorQuery_fails_at_color :
    statusConfig.collection "orders" = .ok statusSchema ∧
    statusSchema.shape.FaultsFirst (asked statusSchema (colorQuery .null))
      (.fieldNotFound "color" "color" "orders") ∧
    (∀ d ∈ [colorQuery .null, colorQuery (.array []), withoutSearch (colorQuery .null)],
      assemble statusSchema d 10 = .error (.fieldNotFound "color" "color" "orders")) ∧
    ∃ q, assemble statusSchema { limit := -1, orderBy := [("status", .desc)] } 10 = .ok q ∧
      q.page = ⟨0, 10⟩ := by
  have hconfig : statusConfig.collection "orders" = .ok statusSchema := rfl
  have hstatus : statusSchema.shape.Resolves "status" := ⟨⟨.string, [⟨"status", false⟩]⟩, rfl⟩
  have hfirst : statusSchema.shape.FaultsFirst (asked statusSchema (colorQuery .null))
      (.fieldNotFound "color" "color" "orders") :=
    ⟨["status"], "color", ["status", "size"], "color", "orders", by decide,
      by simpa using hstatus, rfl, rfl⟩
  obtain ⟨-, herror, halike, -, hsearch⟩ :=
    assemble_fails_at_first_fault statusSchema (colorQuery .null) 10
  have hfails := (herror _).2 (.inr ⟨by decide, hfirst⟩)
  refine ⟨hconfig, hfirst, ?_, ?_⟩
  · simp only [List.forall_mem_cons]
    exact ⟨hfails, (halike (colorQuery (.array [])) rfl rfl rfl rfl _).2 hfails,
      (hsearch statusConfig "orders" hconfig _).1 hfails, by simp⟩
  · obtain ⟨hok, -, -, hquery, -⟩ := assemble_fails_at_first_fault statusSchema
      { limit := -1, orderBy := [("status", .desc)] } 10
    obtain ⟨q, hq⟩ := hok.2 ⟨by decide, by simp, by rintro ⟨text, ⟨⟩, -⟩, by simpa using hstatus⟩
    exact ⟨q, hq, (hquery q hq).1⟩

end AssembledQuery

end ListingQuery
