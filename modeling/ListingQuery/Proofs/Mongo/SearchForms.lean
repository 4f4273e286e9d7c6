import ListingQuery.Proofs.Filter.Levels
import ListingQuery.Proofs.Mongo.Addressing
import ListingQuery.Proofs.Mongo.Occurrences

/-!
# The forms of a search

The search of a field is rendered twice, as a condition below one test of an element for each list
and as an expression that maps over the same lists:

    a.b.c, lists a and b       { a: { $elemMatch: { b: { $elemMatch: { c: regex } } } } }
                               any of $a: any of $$this.b: $$this.c matches

Both are in the filter of an assembled query, unless this never holds.  Their keys and references
spell the same path, unless it goes through an `id` below a list (references_spell_iff): such a key
is renamed like that of a document, and such a reference is not.
-/

namespace ListingQuery.Mongo

open FlatFilter Predicate

/-- A condition on the text of a field, below one test of an element for each list. -/
def textForm (pattern : String) : List String → String → Document
  | [], key => [(key, .document [("$regex", .string pattern), ("$options", .string "i")])]
  | list :: lists, key =>
    [(list, .document [("$elemMatch", .document (textForm pattern lists key))])]

/-- A match of the text of a field, below one map over the elements of each list. -/
def expressionForm (needle : String) : List String → String → Bson
  | [], reference => textMatch reference needle
  | list :: lists, reference => anyElement list (expressionForm needle lists reference)

/-- The condition or the expression. -/
def searchForms (needle : String) (keys : List String) (key : String) (references : List String)
    (reference : String) : Document :=
  [("$or", .array [.document (textForm (literalRegex needle) keys key),
    .document [("$expr", expressionForm needle references reference)]])]

/-- The filter is the part itself, or the operator with the part among its operands. -/
def IsOperand (operator : String) (part d : Document) : Prop :=
  part = d ∨ ∃ operands, d = [(operator, .array operands)] ∧ .document part ∈ operands

/-- The references that spell these keys: the first in the document, the others in an element. -/
def spelled : List String → List String
  | [] => []
  | key :: keys => ("$" ++ key) :: keys.map ("$$this." ++ ·)

/-! ## Forms -/

theorem isSearch_searchBelow (needle : String) (lists : List FieldPath) (last : FieldPath) :
    isSearch (searchBelow needle lists last) = true := by
  induction lists with
  | nil => rfl
  | cons f lists ih => exact ih

theorem searchExpression?_searchBelow (needle : String) (lists : List FieldPath)
    (last : FieldPath) : ∀ inElement : Bool,
      searchExpression? inElement (searchBelow needle lists last) =
        some (expressionForm needle (referencesAlong inElement lists)
          (referenceBelow inElement lists last)) := by
  induction lists with
  | nil =>
    intro inElement
    simp [searchBelow, searchExpression?, expressionForm, referencesAlong, referenceBelow]
  | cons f lists ih =>
    intro inElement
    have hbelow : referenceBelow inElement (f :: lists) last = referenceBelow true lists last := by
      simp [referenceBelow]
    show (searchExpression? true (searchBelow needle lists last)).map _ = _
    rw [ih true, hbelow]
    rfl

/-- In an element only the condition is rendered. -/
theorem filter_element_searchBelow (needle : String) (lists : List FieldPath) (last : FieldPath) :
    filter true (searchBelow needle lists last) =
      textForm (literalRegex needle) (lists.map storedKey) (storedKey last) := by
  induction lists with
  | nil => rfl
  | cons f lists ih =>
    show orExpression true (searchExpression? false (searchBelow needle (f :: lists) last))
      (onField f (withOperator "$elemMatch" (.document (filter true
        (searchBelow needle lists last))))) = _
    rw [searchExpression?_searchBelow, ih]
    rfl

/-- In a document both are. -/
theorem filterDocument_searchBelow (needle : String) (lists : List FieldPath) (last : FieldPath) :
    filterDocument (searchBelow needle lists last) =
      searchForms needle (lists.map storedKey) (storedKey last) (referencesAlong false lists)
        (referenceBelow false lists last) := by
  have hexpression := searchExpression?_searchBelow needle lists last false
  cases lists with
  | nil => rfl
  | cons f lists =>
    show orExpression false (searchExpression? false (searchBelow needle (f :: lists) last))
      (onField f (withOperator "$elemMatch" (.document (filter true
        (searchBelow needle lists last))))) = _
    rw [hexpression, filter_element_searchBelow]
    rfl

theorem length_referencesAlong (chain : List FieldPath) : ∀ inElement : Bool,
    (referencesAlong inElement chain).length = chain.length := by
  induction chain with
  | nil => exact fun _ => rfl
  | cons f chain ih => exact fun _ => congrArg (· + 1) (ih true)

/-! ## Spelling -/

theorem storedKey_eq_dotted_iff {f : FieldPath} :
    storedKey f = FieldPath.dotted f ↔ f ≠ ["id"] := by
  constructor
  · rintro h rfl
    exact absurd h (by decide)
  · exact storedKey_of_ne

theorem referencesAlong_element (chain : List FieldPath) :
    referencesAlong true chain = chain.map fun f => "$$this." ++ FieldPath.dotted f := by
  induction chain with
  | nil => rfl
  | cons f chain ih => rw [referencesAlong, ih]; rfl

theorem referencesAlong_concat (chain : List FieldPath) (f : FieldPath) : ∀ inElement : Bool,
    referencesAlong inElement chain ++ [referenceBelow inElement chain f] =
      referencesAlong inElement (chain ++ [f]) := by
  induction chain with
  | nil => simp [referencesAlong, referenceBelow]
  | cons g chain ih =>
    intro inElement
    have hbelow : referenceBelow inElement (g :: chain) f = referenceBelow true chain f := by
      simp [referenceBelow]
    rw [hbelow, referencesAlong, List.cons_append, ih true]
    rfl

/-- References spell the keys unless the path of a level below a list is `id`. -/
theorem references_spell_iff (lists : List FieldPath) (last : FieldPath) :
    referencesAlong false lists ++ [referenceBelow false lists last] =
      spelled (lists.map storedKey ++ [storedKey last]) ↔
        ["id"] ∉ (lists ++ [last]).tail := by
  have hkeys : lists.map storedKey ++ [storedKey last] = (lists ++ [last]).map storedKey := by
    rw [List.map_append, List.map_singleton]
  rw [referencesAlong_concat, hkeys]
  obtain ⟨f, chain, hchain⟩ := List.exists_cons_of_ne_nil (l := lists ++ [last]) (by simp)
  rw [hchain, List.map_cons, List.tail_cons, referencesAlong, spelled, referencesAlong_element,
    List.map_map]
  have heach : (chain.map fun f => "$$this." ++ FieldPath.dotted f) =
      chain.map (("$$this." ++ ·) ∘ storedKey) ↔ ∀ f ∈ chain, f ≠ ["id"] := by
    rw [List.map_inj_left]
    refine forall₂_congr fun f _ => ?_
    rw [← storedKey_eq_dotted_iff, Function.comp_apply, String.append_right_inj]
    exact eq_comm
  rw [List.cons.injEq, heach]
  constructor
  · rintro ⟨-, h⟩ hmem
    exact h _ hmem rfl
  · intro h
    refine ⟨rfl, ?_⟩
    rintro f hf rfl
    exact h hf

/-! ## Operands -/

theorem disjuncts_of_isSearch {ps : List Predicate} (h : ∀ p ∈ ps, isSearch p = true) :
    disjuncts? ps = some ps := by
  induction ps with
  | nil => rfl
  | cons p ps ih =>
    obtain ⟨hp, hps⟩ := List.forall_mem_cons.1 h
    cases p with
    | contains field needle =>
      show (disjuncts? ps).map (contains field needle :: ·) = _
      rw [ih hps, Option.map_some]
    | nested field p =>
      show (disjuncts? ps).map (nested field p :: ·) = _
      rw [ih hps, Option.map_some]
    | _ => cases hp

theorem disj_ne_of_isSearch {ps : List Predicate} (h : ∀ p ∈ ps, isSearch p = true) :
    disj ps ≠ always ∧ ∀ qs, disj ps ≠ Predicate.and qs := by
  rw [disj, disjuncts_of_isSearch h]
  rcases ps with _ | ⟨p, _ | ⟨q, rest⟩⟩
  · simp
  · have hp : isSearch p = true := h p List.mem_cons_self
    constructor
    · rintro rfl
      cases hp
    · rintro qs rfl
      cases hp
  · simp

theorem mem_filters {inElement : Bool} {ps : List Predicate} {p : Predicate} (h : p ∈ ps) :
    .document (filter inElement p) ∈ filters inElement ps := by
  induction ps with
  | nil => cases h
  | cons q ps ih =>
    rcases List.mem_cons.1 h with rfl | h
    · exact List.mem_cons_self
    · exact List.mem_cons_of_mem _ (ih h)

/-- A disjunction of searches has the filter of each among its operands. -/
theorem isOperand_or_of_mem {ps : List Predicate} (hps : ∀ p ∈ ps, isSearch p = true)
    {p : Predicate} (h : p ∈ ps) :
    IsOperand "$or" (filterDocument p) (filterDocument (disj ps)) := by
  rw [disj, disjuncts_of_isSearch hps]
  rcases ps with _ | ⟨q, _ | ⟨r, rest⟩⟩
  · cases h
  · rw [List.mem_singleton.1 h]
    exact .inl rfl
  · exact .inr ⟨_, rfl, mem_filters h⟩

theorem mem_of_conjuncts {ps parts : List Predicate} (h : conjuncts? ps = some parts)
    {p : Predicate} (hp : p ∈ ps) (hne : p ≠ always) (hand : ∀ qs, p ≠ Predicate.and qs) : p ∈ parts := by
  induction ps generalizing parts with
  | nil => cases hp
  | cons q ps ih =>
    have hrest (first : List Predicate) {rest : List Predicate} (hrest : conjuncts? ps = some rest)
        (hparts : first ++ rest = parts) (hfirst : p = q → p ∈ first) : p ∈ parts := by
      rw [← hparts, List.mem_append]
      rcases List.mem_cons.1 hp with heq | hp
      · exact .inl (hfirst heq)
      · exact .inr (ih hrest hp)
    cases q with
    | always => exact hrest [] h rfl fun heq => absurd heq hne
    | never => cases h
    | and qs =>
      obtain ⟨rest, hps, hparts⟩ := Option.map_eq_some_iff.1 h
      exact hrest qs hps hparts fun heq => absurd heq (hand qs)
    | _ =>
      obtain ⟨rest, hps, hparts⟩ := Option.map_eq_some_iff.1 h
      exact hrest [_] hps hparts fun heq => List.mem_singleton.2 heq

/-- A conjunction that can hold has the filter of each plain operand among its own. -/
theorem isOperand_and_of_mem {ps : List Predicate} (hnever : conj ps ≠ never) {p : Predicate}
    (h : p ∈ ps) (hne : p ≠ always) (hand : ∀ qs, p ≠ Predicate.and qs) :
    IsOperand "$and" (filterDocument p) (filterDocument (conj ps)) := by
  rw [conj] at hnever ⊢
  cases hparts : conjuncts? ps with
  | none =>
    rw [hparts] at hnever
    exact absurd rfl hnever
  | some parts =>
    have hmem := mem_of_conjuncts hparts h hne hand
    rcases parts with _ | ⟨q, _ | ⟨r, rest⟩⟩
    · cases hmem
    · rw [List.mem_singleton.1 hmem]
      exact .inl rfl
    · exact .inr ⟨_, rfl, mem_filters hmem⟩

/-! ## Queries -/

/-- Both forms of the search of a field are in the filter of a search, each over the lists that the
segments go on below.  Their keys and references spell the same paths unless one below a list is
`id`. -/
def Covers (search : Document) (needle : String) (segments : List ResolvedSegment) : Prop :=
  ∃ lists last references reference, levels [] segments = (lists, last) ∧
    lists.flatten ++ last = pathOf segments ∧
    lists.length = segments.dropLast.countP (·.isList) ∧ references.length = lists.length ∧
    IsOperand "$or"
      (searchForms needle (lists.map storedKey) (storedKey last) references reference) search ∧
    (references ++ [reference] = spelled (lists.map storedKey ++ [storedKey last]) ↔
      ["id"] ∉ (lists ++ [last]).tail)

theorem covers_of_isOperand {search : Document} {needle : String}
    {segments : List ResolvedSegment}
    (h : IsOperand "$or" (filterDocument (searchBelow needle (levels [] segments).1
      (levels [] segments).2)) search) : Covers search needle segments := by
  rw [filterDocument_searchBelow] at h
  have hpath : (levels [] segments).1.flatten ++ (levels [] segments).2 = pathOf segments :=
    flatten_levels [] segments
  exact ⟨_, _, _, _, rfl, hpath, length_levels [] segments, length_referencesAlong _ false, h,
    references_spell_iff _ _⟩

/-- The search of a tree is an operand of its filter and covers the searchable fields. -/
theorem exists_search_of_markAll {shape : RecordShape} {filters : Keyed FilterExpression}
    {t t' : FilterTree} (hbuild : FilterTree.build shape filters = .ok t) {paths : List String}
    (hmark : FilterTree.markAll shape paths t = (t', none)) {needle : String}
    (hnever : FilterTree.predicate { t' with search? := some needle } ≠ never) :
    ∃ search, IsOperand "$and" search
        (filterDocument (FilterTree.predicate { t' with search? := some needle })) ∧
      ∀ path ∈ paths, ∃ field segments, shape.resolve path = .ok field ∧
        pathOf segments = field.path ∧ (shape.HasDistinctNames → segments = field.segments) ∧
        Covers search needle segments := by
  have htests := FilterTree.exists_mem_searchesOf hbuild hmark needle
  have hsearch (p : Predicate) (hp : p ∈ FilterNode.searchesOf needle [] t'.root.children) :
      isSearch p = true := by
    rw [FilterNode.searchesOf_eq_flatMap, List.mem_flatMap] at hp
    obtain ⟨n, -, hp⟩ := hp
    obtain ⟨segments, -, rfl⟩ := (FilterNode.mem_searches_iff n [] p).1 hp
    exact isSearch_searchBelow _ _ _
  by_cases hfound : FilterNode.searchesOf needle [] t'.root.children = []
  · refine ⟨_, .inl rfl, fun path hpath => ?_⟩
    obtain ⟨_, _, -, -, -, hmem⟩ := htests path hpath
    rw [hfound] at hmem
    cases hmem
  · have hpart : FilterTree.searchPart { t' with search? := some needle } =
        [disj (FilterNode.searchesOf needle [] t'.root.children)] := by
      rw [FilterTree.searchPart]
      cases hcases : FilterNode.searchesOf needle [] t'.root.children with
      | nil => exact absurd hcases hfound
      | cons p ps => simp [hcases]
    obtain ⟨halways, hand⟩ := disj_ne_of_isSearch hsearch
    rw [FilterTree.predicate, hpart] at hnever ⊢
    refine ⟨_, isOperand_and_of_mem hnever (by simp) halways hand, fun path hpath => ?_⟩
    obtain ⟨field, segments, hfield, hsegments, hnames, hmem⟩ := htests path hpath
    exact ⟨field, segments, hfield, hsegments, hnames,
      covers_of_isOperand (isOperand_or_of_mem hsearch hmem)⟩

/-- The filter of an assembled query has no empty conjunctions and disjunctions, and no expressions
below tests of elements but for fields that go by this name.  It covers the search, if it can hold
at all. -/
theorem assembled_filter_forms {schema : CollectionSchema} {d : QueryDescription}
    {maxPageSize : Nat} {q : AssembledQuery}
    (h : AssembledQuery.assemble schema d maxPageSize = .ok q) :
    ((∃ inner v, Occurs "$elemMatch" inner (.document (filterDocument q.predicate)) ∧
      Occurs "$expr" v inner) ↔ ∃ chain, chain ≠ [] ∧ Tests q.predicate chain ["$expr"]) ∧
    (∀ operator ∈ ["$and", "$or"],
      ¬ Occurs operator (.array []) (.document (filterDocument q.predicate))) ∧
    ∀ text, d.search? = some text → ¬ Text.IsBlankText text → q.predicate ≠ never →
      ∃ search, IsOperand "$and" search (filterDocument q.predicate) ∧
        ∀ path ∈ schema.searchable, ∃ field segments, schema.shape.resolve path = .ok field ∧
          pathOf segments = field.path ∧
          (schema.shape.HasDistinctNames → segments = field.segments) ∧
          Covers search (Text.trim text) segments := by
  have hnormal := AssembledQuery.isNormal_of_assemble h
  refine ⟨exists_expression_below_iff hnormal,
    fun operator hoperator => not_occurs_empty_parts hnormal hoperator, ?_⟩
  intro text htext hblank hnever
  obtain ⟨t₀, t, hbuild, hsearch, hpredicate, -⟩ := AssembledQuery.exists_withoutSearch h
  rw [hpredicate] at hnever ⊢
  rcases hsearch with ⟨hnone, -⟩ | ⟨text', hsome, hattach⟩
  · rw [hnone] at htext
    cases htext
  · cases hsome.symm.trans htext
    rcases FilterTree.attachSearch_cases text schema.searchable t₀ with
      ⟨htrim, -⟩ | ⟨-, ⟨t', hmark, hmarked⟩ | ⟨t', e, -, hfail⟩⟩
    · exact absurd ((Text.trim_eq_empty_iff text).1 htrim) hblank
    · cases hmarked.symm.trans hattach
      exact exists_search_of_markAll hbuild hmark hnever
    · cases hfail.symm.trans hattach

theorem stockSearch_forms :
    ¬ Text.IsBlankText " a-1 " ∧ ∃ q,
      AssembledQuery.assemble AssembledQuery.stockSchema (AssembledQuery.stockSearch " a-1 ") 10 =
        .ok q ∧ q.predicate ≠ never ∧
      (∀ operator ∈ ["$and", "$or"],
        ¬ Occurs operator (.array []) (.document (filterDocument q.predicate))) ∧
      ∃ search, IsOperand "$and" search (filterDocument q.predicate) ∧
        ∀ path ∈ AssembledQuery.stockSchema.searchable, ∃ field,
          FilterTree.stockShape.resolve path = .ok field ∧ Covers search "a-1" field.segments := by
  have hblank : ¬ Text.IsBlankText " a-1 " := mt (Text.trim_eq_empty_iff _).2 (by decide)
  have htrim : Text.trim " a-1 " = "a-1" := by decide
  obtain ⟨q, hq, hnever⟩ : ∃ q, AssembledQuery.assemble AssembledQuery.stockSchema
      (AssembledQuery.stockSearch " a-1 ") 10 = .ok q ∧ q.predicate ≠ never := ⟨_, rfl, nofun⟩
  obtain ⟨-, hparts, hsearch⟩ := assembled_filter_forms hq
  obtain ⟨search, hoperand, hcovers⟩ := hsearch _ rfl hblank hnever
  refine ⟨hblank, q, hq, hnever, hparts, search, hoperand, fun path hpath => ?_⟩
  obtain ⟨field, segments, hfield, -, hsegments, hcovers⟩ := hcovers path hpath
  rw [hsegments FilterTree.hasDistinctNames_stockShape, htrim] at hcovers
  exact ⟨field, hfield, hcovers⟩

/-- Orders that are searched by the identifiers of their items. -/
def itemSchema : CollectionSchema :=
  ⟨"orders", ⟨"Order", [⟨"items", none, .list (.record ⟨"Item", [⟨"id", none, .scalar .i64⟩]⟩)⟩]⟩,
    ["items.id"]⟩

/-- The condition and the expression of one search look at different members of an item. -/
theorem itemSearch_forms_differ :
    ∃ q, AssembledQuery.assemble itemSchema { search? := some "7" } 10 = .ok q ∧
      filterDocument q.predicate = searchForms "7" ["items"] "_id" ["$items"] "$$this.id" ∧
      ["$items"] ++ ["$$this.id"] ≠ spelled (["items"] ++ ["_id"]) :=
  ⟨_, rfl, rfl, by decide⟩

end ListingQuery.Mongo
