import ListingQuery.Proofs.Filter.Paths
import ListingQuery.Proofs.Filter.Placement
import ListingQuery.Proofs.Predicate.Mentions

/-!
# The global search

A search asks whether some searchable field mentions a text.  In the tree it becomes one test for each
marked node, with a scope of its own for every list above.  Such a scope asks for some element, and so
does the path that fans lists out, so the tests mean what they would mean without any scope.

Marking may make nodes, even below lists that had none, but asks for nothing more: the predicate of
the filters stays what it was.

    the search holds ↔ some marked path mentions the text            (exists_search_holds_iff)
    conj (columnsOf [] marked) = conj (columnsOf [] unmarked)         (conj_columnsOf_markAll)
    assembled predicate ↔ that without search, and some searchable field mentions the text
                                                                      (search_holds_iff)
-/

namespace ListingQuery

open Predicate

namespace FilterNode

/-! ## Searches -/

theorem LeadsTo.ne_nil {Q : FilterNode → Prop} {n : FilterNode} {path : FieldPath}
    (h : LeadsTo Q n path) : path ≠ [] := by
  cases h <;> simp

/-- Some path to a marked node has the property: that of the node itself, or one through a child. -/
theorem exists_leadsTo_isMarked_iff (n : FilterNode) (P : FieldPath → Prop) :
    (∃ path, LeadsTo IsMarked n path ∧ P path) ↔ IsMarked n ∧ P [n.name] ∨
      ∃ c ∈ n.children, ∃ rest, LeadsTo IsMarked c rest ∧ P (n.name :: rest) := by
  constructor
  · rintro ⟨path, hleads, hP⟩
    cases hleads with
    | here hmarked => exact .inl ⟨hmarked, hP⟩
    | deeper hc hleads => exact .inr ⟨_, hc, _, hleads, hP⟩
  · rintro (⟨hmarked, hP⟩ | ⟨c, hc, rest, hleads, hP⟩)
    · exact ⟨_, .here hmarked, hP⟩
    · exact ⟨_, .deeper hc hleads, hP⟩

/-- A search asks for nothing exactly if there are no marks. -/
theorem searches_eq_nil_iff (needle : String) (n : FilterNode) : ∀ base,
    searches needle base n = [] ↔ ∀ path, ¬ LeadsTo IsMarked n path := by
  induction n using childInduction with
  | node n ih =>
    intro base
    have below (base : FieldPath) : searchesOf needle base n.children = [] ↔
        ∀ c ∈ n.children, ∀ path, ¬ LeadsTo IsMarked c path := by
      rw [searchesOf_eq_flatMap, List.flatMap_eq_nil_iff]
      exact forall₂_congr fun c hc => ih c hc base
    have hmarks : (∀ path, ¬ LeadsTo IsMarked n path) ↔
        ¬ IsMarked n ∧ ∀ c ∈ n.children, ∀ path, ¬ LeadsTo IsMarked c path := by
      constructor
      · exact fun h => ⟨fun hmarked => h _ (.here hmarked),
          fun c hc path hleads => h _ (.deeper hc hleads)⟩
      · rintro ⟨hhere, hbelow⟩ path (hmarked | ⟨hc, hleads⟩)
        · exact hhere hmarked
        · exact hbelow _ hc _ hleads
    rw [hmarks, searches_eq, List.append_eq_nil_iff]
    refine and_congr ?_ ?_
    · by_cases h : n.isSearchable = true <;> simp [h, IsMarked]
    · split
      · rw [List.map_eq_nil_iff]
        exact below []
      · exact below _

theorem exists_mem_searchesOf_iff {needle : String} {base : FieldPath} {ns : List FilterNode}
    {P : Predicate → Prop} : (∃ p ∈ searchesOf needle base ns, P p) ↔
      ∃ n ∈ ns, ∃ p ∈ searches needle base n, P p := by
  rw [searchesOf_eq_flatMap]
  constructor
  · rintro ⟨p, hp, hP⟩
    obtain ⟨n, hn, hp⟩ := List.mem_flatMap.1 hp
    exact ⟨n, hn, p, hp, hP⟩
  · rintro ⟨n, hn, p, hp, hP⟩
    exact ⟨p, List.mem_flatMap.2 ⟨n, hn, hp⟩, hP⟩

/-- The tests of a search hold of a document as the marked fields mention the text. -/
theorem exists_search_holds_iff (needle : String) (n : FilterNode) : ∀ base d,
    (∃ p ∈ searches needle base n, p.holds d = true) ↔
      ∃ path, LeadsTo IsMarked n path ∧ d.Mentions (base ++ path) needle := by
  induction n using childInduction with
  | node n ih =>
    intro base d
    have below (base : FieldPath) (d : Json) :
        (∃ p ∈ searchesOf needle base n.children, p.holds d = true) ↔
          ∃ c ∈ n.children, ∃ rest, LeadsTo IsMarked c rest ∧ d.Mentions (base ++ rest) needle := by
      rw [exists_mem_searchesOf_iff]
      exact exists_congr fun c => and_congr_right fun hc => ih c hc base d
    rw [exists_leadsTo_isMarked_iff, searches_eq]
    simp only [List.mem_append, or_and_right, exists_or]
    refine or_congr ?_ ?_
    · by_cases h : n.isSearchable = true <;> simp [h, IsMarked, holds_contains_iff, FieldPath.child]
    · split
      -- each test has a scope of its own, and some element satisfies it
      · constructor
        · rintro ⟨_, hp, hholds⟩
          obtain ⟨q, hq, rfl⟩ := List.mem_map.1 hp
          rcases (holds_within _ _ _).1 hholds with rfl | ⟨e, he, hholds⟩
          · exact absurd rfl (isSolid_of_mem_searchesOf _ hq).ne_always
          · obtain ⟨c, hc, rest, hleads, hmentions⟩ := (below [] e).1 ⟨q, hq, hholds⟩
            refine ⟨c, hc, rest, hleads, ?_⟩
            rw [List.append_cons]
            exact (mentions_append_iff hleads.ne_nil needle).2 ⟨e, he, hmentions⟩
        · rintro ⟨c, hc, rest, hleads, hmentions⟩
          rw [List.append_cons] at hmentions
          obtain ⟨e, he, hmentions⟩ := (mentions_append_iff hleads.ne_nil needle).1 hmentions
          obtain ⟨p, hp, hholds⟩ := (below [] e).2 ⟨c, hc, rest, hleads, hmentions⟩
          exact ⟨_, List.mem_map_of_mem hp, (holds_within _ _ _).2 (.inr ⟨e, he, hholds⟩)⟩
      · rw [below]
        simp only [FieldPath.child, List.append_assoc, List.singleton_append]

/-! ## Columns -/

/-- The predicates that ask for something. -/
def asking (ps : List Predicate) : List Predicate := ps.filter fun p => !p.isAlways

theorem asking_append (ps qs : List Predicate) : asking (ps ++ qs) = asking ps ++ asking qs :=
  List.filter_append ..

theorem conjuncts_asking (ps : List Predicate) : conjuncts? (asking ps) = conjuncts? ps := by
  induction ps with
  | nil => rfl
  | cons p ps ih =>
    have hkept (h : p.isAlways = false) : asking (p :: ps) = p :: asking ps :=
      List.filter_cons_of_pos (by simp [h])
    cases p with
    | always => exact ih
    | _ => rw [hkept rfl]; simp only [conjuncts?, ih]

/-- A conjunction depends on nothing but the operands that ask for something. -/
theorem conj_eq_of_asking_eq {ps qs : List Predicate} (h : asking ps = asking qs) :
    conj ps = conj qs := by
  rw [conj, conj, ← conjuncts_asking ps, ← conjuncts_asking qs, h]

theorem asking_columnsOf_changeChild {s : ResolvedSegment} {change : FilterNode → FilterNode}
    {base : FieldPath} (h : ∀ n, asking (columns base (change n)) = asking (columns base n))
    (ns : List FilterNode) :
    asking (columnsOf base (changeChild s change ns)) = asking (columnsOf base ns) := by
  induction ns with
  | nil =>
    have hbare : columns base (bare s.name s.isList) = [] := by
      cases hs : s.isList <;> rfl
    show asking (columns base (change (bare s.name s.isList)) ++ columnsOf base []) = _
    rw [asking_append, h, hbare]
    rfl
  | cons n ns ih =>
    rw [changeChild]
    split
    · rw [columnsOf, columnsOf, asking_append, asking_append, h]
    · rw [columnsOf, columnsOf, asking_append, asking_append, ih]

/-- A change that adds no filters, wherever it is made, makes the tree ask for nothing more. -/
theorem asking_columns_changeAt {change : FilterNode → FilterNode} (hadds : Adds change [])
    {rest : List ResolvedSegment} : ∀ n base,
      asking (columns base (changeAt change rest n)) = asking (columns base n) := by
  induction rest with
  | nil =>
    intro n base
    have hname : (change n).name = n.name := congrArg ResolvedSegment.name (hadds.segment n)
    have hlist : (change n).isList = n.isList := congrArg ResolvedSegment.isList (hadds.segment n)
    rw [changeAt, columns_eq, columns_eq, hname, hlist, hadds.filters, hadds.children,
      List.append_nil]
  | cons s rest ih =>
    intro n base
    have hchildren (base : FieldPath) :
        asking (columnsOf base (changeChild s (changeAt change rest) n.children)) =
          asking (columnsOf base n.children) :=
      asking_columnsOf_changeChild (fun m => ih m base) n.children
    have hconj := conj_eq_of_asking_eq (hchildren [])
    have hne : (changeChild s (changeAt change rest) n.children).isEmpty = false := by
      cases n.children with
      | nil => rfl
      | cons m ms =>
        rw [changeChild]
        split <;> rfl
    rw [changeAt, columns_eq, columns_eq, asking_append, asking_append]
    refine congrArg _ ?_
    cases hlist : n.isList with
    | false => exact hchildren _
    | true =>
      simp only [hne, Bool.not_false, Bool.and_true, if_true, hconj, Bool.true_and]
      -- a list without nodes below asked for nothing, and its scope is empty now
      cases hnil : n.children with
      | nil => rfl
      | cons m ms => rfl

theorem adds_markSearchable : Adds markSearchable [] :=
  ⟨fun _ => rfl, fun _ => rfl, fun n => (List.append_nil n.filters).symm⟩

end FilterNode

namespace FilterTree

open FilterNode

variable {shape : RecordShape}

/-! ## Trees -/

/-- Marking fields leaves the predicate of the filters as it is. -/
theorem conj_columnsOf_markAll {paths : List String} {t t' : FilterTree}
    (h : markAll shape paths t = (t', none)) :
    conj (columnsOf [] t'.root.children) = conj (columnsOf [] t.root.children) := by
  induction paths generalizing t with
  | nil =>
    cases h
    rfl
  | cons path paths ih =>
    rw [markAll] at h
    split at h
    · cases h
    · next field hfield =>
      rw [ih h]
      obtain ⟨s, rest, hsegments⟩ :=
        List.exists_cons_of_ne_nil (RecordShape.declares_of_resolve hfield).ne_nil
      rw [changeAt, hsegments]
      exact conj_eq_of_asking_eq (asking_columnsOf_changeChild
        (fun n => asking_columns_changeAt adds_markSearchable n []) _)

/-- A tree without marks has no search. -/
theorem searchPart_eq_nil {t : FilterTree} (h : ∀ path, ¬ t.LeadsTo IsMarked path) :
    t.searchPart = [] := by
  have hnone (needle : String) : searchesOf needle [] t.root.children = [] := by
    rw [searchesOf_eq_flatMap, List.flatMap_eq_nil_iff]
    exact fun n hn => (searches_eq_nil_iff needle n []).2 fun path hleads => h path ⟨n, hn, hleads⟩
  rw [searchPart]
  cases t.search? with
  | none => rfl
  | some needle => simp only [hnone]

/-- A search holds of a document exactly if some marked field mentions its text. -/
theorem searchPart_holds_iff {t : FilterTree} {needle : String} (hsearch : t.search? = some needle)
    (hmarked : ∃ path, t.LeadsTo IsMarked path) (d : Json) :
    (∀ p ∈ t.searchPart, p.holds d = true) ↔
      ∃ path, t.LeadsTo IsMarked path ∧ d.Mentions path needle := by
  have hiff : (∃ p ∈ searchesOf needle [] t.root.children, p.holds d = true) ↔
      ∃ path, t.LeadsTo IsMarked path ∧ d.Mentions path needle := by
    simp only [exists_mem_searchesOf_iff, exists_search_holds_iff, List.nil_append, LeadsTo]
    constructor
    · rintro ⟨n, hn, path, hleads, hmentions⟩
      exact ⟨path, ⟨n, hn, hleads⟩, hmentions⟩
    · rintro ⟨path, ⟨n, hn, hleads⟩, hmentions⟩
      exact ⟨n, hn, path, hleads, hmentions⟩
  have hne : searchesOf needle [] t.root.children ≠ [] := by
    obtain ⟨path, n, hn, hleads⟩ := hmarked
    rw [searchesOf_eq_flatMap, ne_eq, List.flatMap_eq_nil_iff]
    exact fun hnil => (searches_eq_nil_iff needle n []).1 (hnil n hn) path hleads
  rw [← hiff, ← holds_disj, searchPart, hsearch]
  cases hfound : searchesOf needle [] t.root.children with
  | nil => exact absurd hfound hne
  | cons p ps => simp [hfound]

theorem exists_of_markAll {paths : List String} {t t' : FilterTree}
    (h : markAll shape paths t = (t', none)) :
    ∀ path ∈ paths, ∃ field, shape.resolve path = .ok field := by
  induction paths generalizing t with
  | nil => simp
  | cons path paths ih =>
    rw [markAll] at h
    split at h
    · cases h
    · next field hfield => exact List.forall_mem_cons.2 ⟨⟨field, hfield⟩, ih h⟩

theorem predicate_holds_iff (t : FilterTree) (d : Json) : t.predicate.holds d = true ↔
    (conj (columnsOf [] t.root.children)).holds d = true ∧
      ∀ p ∈ t.searchPart, p.holds d = true := by
  rw [predicate, holds_conj, List.forall_mem_cons]

/-- A tree with a search holds of a document exactly if the tree without it does and some searchable
field mentions the text. -/
theorem marked_predicate_holds_iff {paths : List String} {t t' : FilterTree} (needle : String)
    (h₀ : ∀ path, ¬ t.LeadsTo IsMarked path) (h : markAll shape paths t = (t', none))
    (hne : paths ≠ []) (d : Json) :
    (predicate { t' with search? := some needle }).holds d = true ↔
      t.predicate.holds d = true ∧
        ∃ path ∈ paths, ∃ field, shape.resolve path = .ok field ∧ d.Mentions field.path needle := by
  have hmarks (path : FieldPath) : LeadsTo IsMarked { t' with search? := some needle } path ↔
      ∃ p ∈ paths, ∃ field, shape.resolve p = .ok field ∧ path = field.path := by
    show t'.LeadsTo IsMarked path ↔ _
    simp [leadsTo_markAll_iff isOwn_isMarked gives_markSearchable h, h₀ path]
  have hmarked : ∃ path, LeadsTo IsMarked { t' with search? := some needle } path := by
    obtain ⟨p, hp⟩ := List.exists_mem_of_ne_nil _ hne
    obtain ⟨field, hfield⟩ := exists_of_markAll h p hp
    exact ⟨field.path, (hmarks _).2 ⟨p, hp, field, hfield, rfl⟩⟩
  rw [predicate_holds_iff, predicate_holds_iff, searchPart_holds_iff rfl hmarked,
    conj_columnsOf_markAll h, searchPart_eq_nil h₀]
  simp only [hmarks]
  refine and_congr (by simp) ?_
  constructor
  · rintro ⟨_, ⟨p, hp, field, hfield, rfl⟩, hmentions⟩
    exact ⟨p, hp, field, hfield, hmentions⟩
  · rintro ⟨p, hp, field, hfield, hmentions⟩
    exact ⟨_, ⟨p, hp, field, hfield, rfl⟩, hmentions⟩

end FilterTree

namespace AssembledQuery

/-! ## Queries -/

variable {schema : CollectionSchema} {d : QueryDescription} {maxPageSize : Nat}

/-- The same description without a search. -/
def withoutSearch (d : QueryDescription) : QueryDescription := { d with search? := none }

/-- Whatever is assembled is also assembled without the search, from the same filters. -/
theorem exists_withoutSearch {q : AssembledQuery} (h : assemble schema d maxPageSize = .ok q) :
    ∃ t₀ t, FilterTree.build schema.shape d.filters = .ok t₀ ∧
      (d.search? = none ∧ t = t₀ ∨ ∃ text, d.search? = some text ∧
        t₀.attachSearch schema.shape text schema.searchable = (t, none)) ∧
      q.predicate = t.predicate ∧
      assemble schema (withoutSearch d) maxPageSize = .ok { q with predicate := t₀.predicate } := by
  obtain ⟨page, t, sort, hpage, ht, hsort, rfl⟩ := assemble_eq_ok_iff.1 h
  obtain ⟨t₀, hbuild, hsearch⟩ := tree_eq_ok_iff.1 ht
  have ht₀ : tree schema (withoutSearch d) = .ok t₀ :=
    tree_eq_ok_iff.2 ⟨t₀, hbuild, .inl ⟨rfl, rfl⟩⟩
  exact ⟨t₀, t, hbuild, hsearch, rfl, assemble_eq_ok_iff.2 ⟨page, t₀, sort, hpage, ht₀, hsort, rfl⟩⟩

/-- A search that looks at some field is joined with the rest: some searchable field mentions its
text, without the blanks around it.  A blank search, or one without fields, changes nothing. -/
theorem search_holds_iff {q : AssembledQuery} (h : assemble schema d maxPageSize = .ok q) :
    ∃ q₀, assemble schema (withoutSearch d) maxPageSize = .ok q₀ ∧
      (∀ text, d.search? = some text → ¬ Text.IsBlankText text → schema.searchable ≠ [] →
        ∀ document, q.predicate.holds document = true ↔ q₀.predicate.holds document = true ∧
          ∃ path ∈ schema.searchable, ∃ field, schema.shape.resolve path = .ok field ∧
            document.Mentions field.path (Text.trim text)) ∧
      ((∀ text, d.search? = some text → Text.IsBlankText text) ∨ schema.searchable = [] →
        q = q₀) := by
  obtain ⟨t₀, t, hbuild, hsearch, hpredicate, hassemble⟩ := exists_withoutSearch h
  have hmarks := FilterTree.not_isMarked_build hbuild
  refine ⟨_, hassemble, ?_⟩
  have same (heq : t.predicate = t₀.predicate) : q = { q with predicate := t₀.predicate } := by
    rw [← heq, ← hpredicate]
  rcases hsearch with ⟨hnone, rfl⟩ | ⟨text, hsome, hattach⟩
  · exact ⟨fun text hsome => by simp [hnone] at hsome, fun _ => same rfl⟩
  · rcases FilterTree.attachSearch_cases text schema.searchable t₀ with
      ⟨hblank, hsame⟩ | ⟨hblank, ⟨t', hmark, hmarked⟩ | ⟨t', e, -, hfail⟩⟩
    · cases hsame.symm.trans hattach
      refine ⟨fun text' hsome' htext => ?_, fun _ => same rfl⟩
      cases hsome.symm.trans hsome'
      exact absurd ((Text.trim_eq_empty_iff text).1 hblank) htext
    · cases hmarked.symm.trans hattach
      refine ⟨fun text' hsome' _ hne document => ?_, ?_⟩
      · cases hsome.symm.trans hsome'
        rw [hpredicate]
        exact FilterTree.marked_predicate_holds_iff _ hmarks hmark hne document
      · rintro (htext | hempty)
        · exact absurd ((Text.trim_eq_empty_iff text).2 (htext text hsome)) hblank
        · rw [hempty] at hmark
          cases hmark
          refine same ?_
          have hnone : FilterTree.searchPart { t₀ with search? := some (Text.trim text) } = [] :=
            FilterTree.searchPart_eq_nil hmarks
          rw [FilterTree.predicate, FilterTree.predicate, hnone, FilterTree.searchPart_eq_nil hmarks]
    · cases hfail.symm.trans hattach

/-- Orders that are searched by their status and by what was ordered. -/
def stockSchema : CollectionSchema := ⟨"orders", FilterTree.stockShape, ["status", "lines.sku"]⟩

/-- A search for an item among paid orders. -/
def stockSearch (text : String) : QueryDescription where
  filters := FilterTree.stockFilters
  search? := some text

theorem stockSearch_holds_iff :
    (¬ Text.IsBlankText " a-1 " ∧ stockSchema.searchable ≠ [] ∧
      ∃ q q₀, assemble stockSchema (stockSearch " a-1 ") 10 = .ok q ∧
        assemble stockSchema (withoutSearch (stockSearch " a-1 ")) 10 = .ok q₀ ∧
        ∀ document, q.predicate.holds document = true ↔ q₀.predicate.holds document = true ∧
          ∃ path ∈ stockSchema.searchable, ∃ field, stockSchema.shape.resolve path = .ok field ∧
            document.Mentions field.path "a-1") ∧
    Text.IsBlankText "  " ∧
      ∃ q, assemble stockSchema (stockSearch "  ") 10 = .ok q ∧
        assemble stockSchema (withoutSearch (stockSearch "  ")) 10 = .ok q := by
  have htext : ¬ Text.IsBlankText " a-1 " := mt (Text.trim_eq_empty_iff _).2 (by decide)
  have hblank : Text.IsBlankText "  " := (Text.trim_eq_empty_iff _).1 (by decide)
  have hne : stockSchema.searchable ≠ [] := by decide
  have htrim : Text.trim " a-1 " = "a-1" := by decide
  refine ⟨⟨htext, hne, ?_⟩, hblank, ?_⟩
  · obtain ⟨q, hq⟩ : ∃ q, assemble stockSchema (stockSearch " a-1 ") 10 = .ok q := ⟨_, rfl⟩
    obtain ⟨q₀, hq₀, hsearch, -⟩ := search_holds_iff hq
    exact ⟨q, q₀, hq, hq₀, htrim ▸ hsearch _ rfl htext hne⟩
  · obtain ⟨q, hq⟩ : ∃ q, assemble stockSchema (stockSearch "  ") 10 = .ok q := ⟨_, rfl⟩
    obtain ⟨q₀, hq₀, -, hsame⟩ := search_holds_iff hq
    have hblank : ∀ text, (stockSearch "  ").search? = some text → Text.IsBlankText text := by
      rintro _ ⟨⟩
      exact hblank
    obtain rfl := hsame (.inl hblank)
    exact ⟨q, hq, hq₀⟩

end AssembledQuery

end ListingQuery
