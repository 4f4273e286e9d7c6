import ListingQuery.Proofs.Mongo.Keys

/-!
# The references of search expressions

A search expression refers to the fields that are searched, and to the lists on the way, each from
the element of the list before it.  A filter has the expressions of its searches, and refers to no
other fields; below a test of an element it has none:

    Expresses (filter p) references reference ↔ p searches f below lists fs,
        reference = that of f, references = those of fs              (expressesSearched_filter)
-/

namespace ListingQuery.Mongo

/-- The expression refers to a field or list, below a chain of references to lists. -/
inductive Refers : Bson → List String → String → Prop
  | text (input needle : String) : Refers (textMatch input needle) [] input
  | list (list : String) (e : Bson) : Refers (anyElement list e) [] list
  | element {e : Bson} {references : List String} {reference : String} (list : String)
      (below : Refers e references reference) :
      Refers (anyElement list e) (list :: references) reference

/-- An expression anywhere in the filter refers to a field or list. -/
inductive Expresses : Document → List String → String → Prop
  | expression {d : Document} {e : Bson} {references : List String} {reference : String}
      (mem : ("$expr", e) ∈ d) (refers : Refers e references reference) :
      Expresses d references reference
  | element {d inner : Document} {list reference : String} {references : List String}
      (mem : (list, withOperator "$elemMatch" (.document inner)) ∈ d)
      (below : Expresses inner references reference) : Expresses d references reference
  | part {d inner : Document} {operator reference : String} {parts : List Bson}
      {references : List String} (mem : (operator, .array parts) ∈ d)
      (part : .document inner ∈ parts) (inside : Expresses inner references reference) :
      Expresses d references reference

/-- Whether the predicate is a search, perhaps below lists. -/
def isSearch : Predicate → Bool
  | .contains _ _ => true
  | .nested _ p => isSearch p
  | _ => false

/-- The predicate has a search of a field or list, below a chain of lists. -/
inductive Searches : Predicate → List FieldPath → FieldPath → Prop
  | search {p : Predicate} {chain : List FieldPath} {f : FieldPath} (isSearch : isSearch p = true)
      (tests : Tests p chain f) : Searches p chain f
  | not {p : Predicate} {chain : List FieldPath} {f : FieldPath} (inside : Searches p chain f) :
      Searches (.not p) chain f
  | and {p : Predicate} {parts : List Predicate} {chain : List FieldPath} {f : FieldPath}
      (mem : p ∈ parts) (part : Searches p chain f) : Searches (.and parts) chain f
  | or {p : Predicate} {parts : List Predicate} {chain : List FieldPath} {f : FieldPath}
      (mem : p ∈ parts) (part : Searches p chain f) : Searches (.or parts) chain f

/-- The references to the lists of a chain, each from an element of the one before. -/
def referencesAlong (inElement : Bool) : List FieldPath → List String
  | [] => []
  | f :: chain => reference inElement f :: referencesAlong true chain

/-- The reference to a field, from an element of the last list of a chain. -/
def referenceBelow (inElement : Bool) (chain : List FieldPath) (f : FieldPath) : String :=
  reference (inElement || !chain.isEmpty) f

/-! ## References of search expressions -/

theorem searchExpression?_isSome (p : Predicate) : ∀ inElement : Bool,
    (searchExpression? inElement p).isSome = isSearch p := by
  induction p using Predicate.connectiveInduction with
  | nested f p ih =>
    intro inElement
    rw [searchExpression?, Option.isSome_map, ih, isSearch]
  | test p h =>
    intro inElement
    cases p <;> first | rfl | cases h
  | _ => intros; rfl

theorem input_eq_of_textMatch_eq {input input' needle needle' : String}
    (h : textMatch input needle = textMatch input' needle') : input = input' := by
  simp only [textMatch, Bson.document.injEq, List.cons.injEq, Prod.mk.injEq,
    Bson.string.injEq, true_and, and_true] at h
  exact h.1

theorem eq_of_anyElement_eq {list list' : String} {e e' : Bson}
    (h : anyElement list e = anyElement list' e') : list = list' ∧ e = e' := by
  simp only [anyElement, Bson.document.injEq, Bson.array.injEq, List.cons.injEq, Prod.mk.injEq,
    Bson.string.injEq, true_and, and_true] at h
  exact ⟨h.1.1, h.2⟩

theorem textMatch_ne_anyElement (input needle list : String) (e : Bson) :
    textMatch input needle ≠ anyElement list e := by
  intro h
  simp [textMatch, anyElement] at h

theorem refers_textMatch (input needle : String) (references : List String) (reference : String) :
    Refers (textMatch input needle) references reference ↔
      references = [] ∧ reference = input := by
  constructor
  · generalize he : textMatch input needle = e
    intro hr
    cases hr with
    | text => exact ⟨rfl, (input_eq_of_textMatch_eq he).symm⟩
    | list => exact absurd he (textMatch_ne_anyElement _ _ _ _)
    | element => exact absurd he (textMatch_ne_anyElement _ _ _ _)
  · rintro ⟨rfl, rfl⟩
    exact .text _ needle

theorem refers_anyElement (list : String) (e : Bson) (references : List String)
    (reference : String) :
    Refers (anyElement list e) references reference ↔
      (references = [] ∧ reference = list) ∨
        ∃ rest, references = list :: rest ∧ Refers e rest reference := by
  constructor
  · generalize he' : anyElement list e = e'
    intro hr
    cases hr with
    | text => exact absurd he'.symm (textMatch_ne_anyElement _ _ _ _)
    | list => exact .inl ⟨rfl, (eq_of_anyElement_eq he').1.symm⟩
    | element _ below =>
      obtain ⟨rfl, rfl⟩ := eq_of_anyElement_eq he'
      exact .inr ⟨_, rfl, below⟩
  · rintro (⟨rfl, rfl⟩ | ⟨rest, rfl, hr⟩)
    · exact .list _ e
    · exact .element list hr

/-- The expression of a search refers to the fields that are tested. -/
theorem refers_searchExpression_iff (p : Predicate) : ∀ (inElement : Bool) (e : Bson),
    searchExpression? inElement p = some e → ∀ references text,
    (Refers e references text ↔ ∃ chain f, Tests p chain f ∧
      references = referencesAlong inElement chain ∧ text = referenceBelow inElement chain f) := by
  induction p using Predicate.connectiveInduction with
  | test p h =>
    intro inElement e he references text
    cases p with
    | contains field needle =>
      cases he
      rw [refers_textMatch]
      simp only [tests_iff_of_isTest h rfl]
      constructor
      · rintro ⟨rfl, rfl⟩
        exact ⟨[], field, ⟨rfl, rfl⟩, rfl, by simp [referenceBelow]⟩
      · rintro ⟨chain, f, ⟨rfl, rfl⟩, rfl, rfl⟩
        exact ⟨rfl, by simp [referenceBelow]⟩
    | nested => cases h
    | _ => cases he
  | nested f p ih =>
    intro inElement e he references text
    rw [searchExpression?, Option.map_eq_some_iff] at he
    obtain ⟨inner, hinner, rfl⟩ := he
    rw [refers_anyElement]
    simp only [tests_nested]
    constructor
    · rintro (⟨rfl, rfl⟩ | ⟨rest, rfl, hr⟩)
      · exact ⟨[], f, .inl ⟨rfl, rfl⟩, rfl, by simp [referenceBelow]⟩
      · obtain ⟨chain, g, ht, rfl, rfl⟩ := (ih true inner hinner rest text).1 hr
        exact ⟨f :: chain, g, .inr ⟨chain, rfl, ht⟩, rfl, by simp [referenceBelow]⟩
    · rintro ⟨chain, g, ⟨rfl, rfl⟩ | ⟨rest, rfl, ht⟩, rfl, rfl⟩
      · exact .inl ⟨rfl, by simp [referenceBelow]⟩
      · have hr := (ih true inner hinner _ _).2 ⟨rest, g, ht, rfl, rfl⟩
        exact .inr ⟨_, rfl, by simpa [referenceBelow] using hr⟩
  | _ => intros _ _ he; cases he

/-! ## Expressions in parts -/

theorem not_refers_of_isFieldCondition {condition : Bson} (h : isFieldCondition condition = true)
    (references : List String) (reference : String) :
    ¬ Refers condition references reference := by
  intro hr
  cases hr <;> simp [isFieldCondition, textMatch, anyElement, fieldOperators] at h

theorem not_expresses_onField {f : FieldPath} {condition : Bson} (h : IsPlainCondition condition)
    (references : List String) (reference : String) :
    ¬ Expresses (onField f condition) references reference := by
  intro he
  cases he with
  | expression mem refers =>
    obtain ⟨-, rfl⟩ := Prod.mk.inj (List.mem_singleton.1 mem)
    exact not_refers_of_isFieldCondition h.1 _ _ refers
  | element mem _ =>
    cases List.mem_singleton.1 mem
    exact h.2 _ rfl
  | part mem _ _ =>
    cases List.mem_singleton.1 mem
    exact absurd h.1 (by simp [isFieldCondition])

theorem expresses_elemMatch (f : FieldPath) (inner : Document) (references : List String)
    (reference : String) :
    Expresses (onField f (withOperator "$elemMatch" (.document inner))) references reference ↔
      Expresses inner references reference := by
  constructor
  · intro he
    cases he with
    | expression mem refers =>
      obtain ⟨-, rfl⟩ := Prod.mk.inj (List.mem_singleton.1 mem)
      exact absurd refers (not_refers_of_isFieldCondition rfl _ _)
    | element mem below =>
      cases List.mem_singleton.1 mem
      exact below
    | part mem _ _ => cases List.mem_singleton.1 mem
  · exact .element List.mem_cons_self

theorem expresses_parts (operator : String) (parts : List Bson) (references : List String)
    (reference : String) :
    Expresses [(operator, .array parts)] references reference ↔
      ∃ inner, .document inner ∈ parts ∧ Expresses inner references reference := by
  constructor
  · intro he
    cases he with
    | expression mem refers =>
      cases List.mem_singleton.1 mem
      cases refers
    | element mem _ => cases List.mem_singleton.1 mem
    | part mem part inside =>
      cases List.mem_singleton.1 mem
      exact ⟨_, part, inside⟩
  · rintro ⟨inner, hinner, he⟩
    exact .part List.mem_cons_self hinner he

theorem expresses_expression {inElement : Bool} {p : Predicate} {e : Bson}
    (h : searchExpression? inElement p = some e) (references : List String) (reference : String) :
    Expresses [("$expr", e)] references reference ↔ Refers e references reference := by
  refine ⟨fun he => ?_, .expression List.mem_cons_self⟩
  rcases searchExpression?_forms h with ⟨input, needle, rfl⟩ | ⟨list, inner, rfl⟩
  all_goals
    cases he with
    | expression mem refers =>
      cases List.mem_singleton.1 mem
      exact refers
    | element mem _ => simp [withOperator, textMatch, anyElement] at mem
    | part mem _ _ => simp [textMatch, anyElement] at mem

/-- An expression stands beside a filter of a document only. -/
theorem expresses_orExpression {inElement : Bool} {p : Predicate} (d : Document)
    (references : List String) (reference : String) :
    Expresses (orExpression inElement (searchExpression? false p) d) references reference ↔
      Expresses d references reference ∨
        (inElement = false ∧ isSearch p = true ∧ ∃ chain f, Tests p chain f ∧
          references = referencesAlong false chain ∧ reference = referenceBelow false chain f) := by
  have hsome := searchExpression?_isSome p false
  cases he : searchExpression? false p with
  | none =>
    rw [he] at hsome
    simp [orExpression, ← hsome]
  | some e =>
    rw [he] at hsome
    cases inElement with
    | true => simp [orExpression]
    | false =>
      show Expresses [("$or", .array [.document d, .document [("$expr", e)]])] _ _ ↔ _
      rw [expresses_parts]
      simp only [List.mem_cons, List.not_mem_nil, or_false, Bson.document.injEq,
        exists_eq_or_imp, exists_eq_left, expresses_expression he,
        refers_searchExpression_iff p false e he]
      simp [← hsome]

/-! ## Expressions of filters -/

theorem searches_of_isTest {p : Predicate} (h : p.isTest = true) (chain : List FieldPath)
    (f : FieldPath) : Searches p chain f ↔ isSearch p = true ∧ Tests p chain f := by
  constructor
  · intro hs
    cases hs with
    | search hsearch ht => exact ⟨hsearch, ht⟩
    | _ => cases h
  · exact fun ⟨hsearch, ht⟩ => .search hsearch ht

theorem searches_nested (f : FieldPath) (p : Predicate) (chain : List FieldPath) (g : FieldPath) :
    Searches (.nested f p) chain g ↔
      isSearch (.nested f p) = true ∧ Tests (.nested f p) chain g := by
  constructor
  · intro hs
    cases hs with
    | search hsearch ht => exact ⟨hsearch, ht⟩
  · exact fun ⟨hsearch, ht⟩ => .search hsearch ht

theorem searches_not (p : Predicate) (chain : List FieldPath) (f : FieldPath) :
    Searches (.not p) chain f ↔ Searches p chain f := by
  refine ⟨fun hs => ?_, .not⟩
  cases hs with
  | search hsearch _ => cases hsearch
  | not inside => exact inside

theorem searches_and (parts : List Predicate) (chain : List FieldPath) (f : FieldPath) :
    Searches (.and parts) chain f ↔ ∃ p ∈ parts, Searches p chain f := by
  constructor
  · intro hs
    cases hs with
    | search hsearch _ => cases hsearch
    | and mem part => exact ⟨_, mem, part⟩
  · rintro ⟨p, hp, hs⟩
    exact .and hp hs

theorem searches_or (parts : List Predicate) (chain : List FieldPath) (f : FieldPath) :
    Searches (.or parts) chain f ↔ ∃ p ∈ parts, Searches p chain f := by
  constructor
  · intro hs
    cases hs with
    | search hsearch _ => cases hsearch
    | or mem part => exact ⟨_, mem, part⟩
  · rintro ⟨p, hp, hs⟩
    exact .or hp hs

theorem not_searches_constant {p : Predicate} (h : p = .always ∨ p = .never)
    (chain : List FieldPath) (f : FieldPath) : ¬ Searches p chain f := by
  intro hs
  rcases h with rfl | rfl <;> cases hs <;> next isSearch _ => cases isSearch

/-- The negation of a test or a filter has the expressions of this one. -/
theorem expresses_not (p : Predicate) (inElement : Bool) (references : List String)
    (reference : String) :
    Expresses (filter inElement (.not p)) references reference ↔
      Expresses (filter inElement p) references reference := by
  have hparts : Expresses [("$nor", .array [.document (filter inElement p)])] references reference ↔
      Expresses (filter inElement p) references reference := by
    rw [expresses_parts]
    simp
  cases p with
  | isNull field =>
    exact iff_of_false
      (not_expresses_onField (f := field) ⟨by decide, by simp [withOperator]⟩ _ _)
      (not_expresses_onField (f := field) ⟨rfl, by simp [withOperator]⟩ _ _)
  | _ => exact hparts

/-- The filter refers to the fields that are searched; in an element, to nothing. -/
def ExpressesSearched (inElement : Bool) (d : Document)
    (searches : List FieldPath → FieldPath → Prop) : Prop :=
  ∀ (references : List String) (reference : String), Expresses d references reference ↔
    inElement = false ∧ ∃ chain f, searches chain f ∧
      references = referencesAlong false chain ∧ reference = referenceBelow false chain f

/-- The step from the parts to a conjunction or disjunction. -/
theorem expressesSearched_parts {inElement : Bool} {parts : List Predicate} (operator : String)
    (h : ∀ p ∈ parts, ExpressesSearched inElement (filter inElement p) (Searches p)) :
    ExpressesSearched inElement [(operator, .array (filters inElement parts))]
      (fun chain f => ∃ p ∈ parts, Searches p chain f) := by
  intro references reference
  rw [expresses_parts, exists_mem_filters]
  constructor
  · rintro ⟨p, hp, he⟩
    obtain ⟨hdocument, chain, f, hs, hreferences⟩ := (h p hp _ _).1 he
    exact ⟨hdocument, chain, f, ⟨p, hp, hs⟩, hreferences⟩
  · rintro ⟨hdocument, chain, f, ⟨p, hp, hs⟩, hreferences⟩
    exact ⟨p, hp, (h p hp _ _).2 ⟨hdocument, chain, f, hs, hreferences⟩⟩

/-- The filter of a document refers to what its predicate searches; that of an element, to
nothing. -/
theorem expressesSearched_filter (p : Predicate) :
    ∀ inElement : Bool, ExpressesSearched inElement (filter inElement p) (Searches p) := by
  induction p using Predicate.connectiveInduction with
  | always =>
    intro inElement references reference
    refine iff_of_false (fun he => ?_) ?_
    · cases he with
      | expression mem _ => cases mem
      | element mem _ => cases mem
      | part mem _ _ => cases mem
    · rintro ⟨-, chain, f, hs, -⟩
      exact not_searches_constant (.inl rfl) chain f hs
  | never =>
    intro inElement references reference
    refine iff_of_false (fun he => ?_) ?_
    · cases he with
      | expression mem refers =>
        cases List.mem_singleton.1 mem
        cases refers
      | element mem _ => cases List.mem_singleton.1 mem
      | part mem _ _ => cases List.mem_singleton.1 mem
    · rintro ⟨-, chain, f, hs, -⟩
      exact not_searches_constant (.inr rfl) chain f hs
  | test p h =>
    intro inElement references reference
    obtain ⟨f, condition, -, hcondition, heq⟩ := filter_test h inElement
    rw [heq, expresses_orExpression]
    simp only [not_expresses_onField hcondition, false_or, searches_of_isTest h, and_assoc,
      exists_and_left]
  | nested f p ih =>
    intro inElement references reference
    show Expresses (orExpression inElement (searchExpression? false (.nested f p))
      (onField f (withOperator "$elemMatch" (.document (filter true p))))) references reference ↔ _
    rw [expresses_orExpression, expresses_elemMatch, ih true references reference]
    simp only [Bool.true_eq_false, false_and, false_or, searches_nested, and_assoc,
      exists_and_left]
  | not p ih =>
    intro inElement references reference
    simp only [expresses_not, searches_not]
    exact ih inElement references reference
  | and parts ih =>
    intro inElement references reference
    simp only [filter, searches_and]
    exact expressesSearched_parts "$and" (fun p hp => ih p hp inElement) references reference
  | or parts ih =>
    intro inElement references reference
    simp only [filter, searches_or]
    exact expressesSearched_parts "$or" (fun p hp => ih p hp inElement) references reference

end ListingQuery.Mongo
