import ListingQuery.Mongo.Filter
import ListingQuery.Proofs.Predicate.Normal

/-!
# The keys of filters

A filter writes a key where it has a condition on a field, in a document or in the element of a list.
It writes one for each test of its predicate and for each list on the way to a test, and no others:

    Writes (filter p) keys key ↔ p tests f below lists fs,
                                 key = storedKey f, keys = storedKey of each of fs
                                                                        (writesTested_filter)

Search expressions beside a filter have no keys.
-/

namespace ListingQuery.Mongo

/-- The field of a test. -/
def testedField? : Predicate → Option FieldPath
  | .compare field _ _ => some field
  | .among field _ => some field
  | .notAmong field _ => some field
  | .like field _ => some field
  | .regex field _ => some field
  | .contains field _ => some field
  | .present field _ => some field
  | .isNull field => some field
  | .isEmpty field => some field
  | _ => none

/-- The predicate tests a field, below a chain of lists; a list is itself tested for an element. -/
inductive Tests : Predicate → List FieldPath → FieldPath → Prop
  | field {p : Predicate} {f : FieldPath} (tested : testedField? p = some f) : Tests p [] f
  | list (f : FieldPath) (p : Predicate) : Tests (.nested f p) [] f
  | nested {p : Predicate} {chain : List FieldPath} {f g : FieldPath} (below : Tests p chain g) :
      Tests (.nested f p) (f :: chain) g
  | not {p : Predicate} {chain : List FieldPath} {f : FieldPath} (inside : Tests p chain f) :
      Tests (.not p) chain f
  | and {p : Predicate} {parts : List Predicate} {chain : List FieldPath} {f : FieldPath}
      (mem : p ∈ parts) (part : Tests p chain f) : Tests (.and parts) chain f
  | or {p : Predicate} {parts : List Predicate} {chain : List FieldPath} {f : FieldPath}
      (mem : p ∈ parts) (part : Tests p chain f) : Tests (.or parts) chain f

/-- The operators that stand in the condition on a field. -/
def fieldOperators : List String :=
  ["$eq", "$ne", "$gt", "$gte", "$lt", "$lte", "$in", "$nin", "$regex", "$exists", "$elemMatch"]

/-- Whether a value is a condition on a field, rather than an expression or a list of filters. -/
def isFieldCondition : Bson → Bool
  | .null => true
  | .document ((operator, _) :: _) => operator ∈ fieldOperators
  | _ => false

/-- The filter has a condition under the key, below a chain of keys with conditions on list
elements. -/
inductive Writes : Document → List String → String → Prop
  | field {d : Document} {key : String} {condition : Bson} (mem : (key, condition) ∈ d)
      (isCondition : isFieldCondition condition = true) : Writes d [] key
  | element {d inner : Document} {list key : String} {chain : List String}
      (mem : (list, withOperator "$elemMatch" (.document inner)) ∈ d)
      (below : Writes inner chain key) : Writes d (list :: chain) key
  | part {d inner : Document} {operator key : String} {parts : List Bson} {chain : List String}
      (mem : (operator, .array parts) ∈ d) (part : .document inner ∈ parts)
      (inside : Writes inner chain key) : Writes d chain key

/-! ## Keys of parts -/

/-- A condition on the field itself, not on the elements of a list. -/
def IsPlainCondition (condition : Bson) : Prop :=
  isFieldCondition condition = true ∧
    ∀ inner, condition ≠ withOperator "$elemMatch" (.document inner)

theorem writes_onField {f : FieldPath} {condition : Bson} (h : IsPlainCondition condition)
    (chain : List String) (key : String) :
    Writes (onField f condition) chain key ↔ chain = [] ∧ key = storedKey f := by
  constructor
  · intro hw
    cases hw with
    | field mem _ =>
      cases List.mem_singleton.1 mem
      exact ⟨rfl, rfl⟩
    | element mem _ =>
      cases List.mem_singleton.1 mem
      exact absurd rfl (h.2 _)
    | part mem _ _ =>
      cases List.mem_singleton.1 mem
      exact absurd h.1 (by simp [isFieldCondition])
  · rintro ⟨rfl, rfl⟩
    exact .field List.mem_cons_self h.1

theorem writes_elemMatch (f : FieldPath) (inner : Document) (chain : List String) (key : String) :
    Writes (onField f (withOperator "$elemMatch" (.document inner))) chain key ↔
      (chain = [] ∧ key = storedKey f) ∨
        ∃ rest, chain = storedKey f :: rest ∧ Writes inner rest key := by
  constructor
  · intro hw
    cases hw with
    | field mem _ =>
      cases List.mem_singleton.1 mem
      exact .inl ⟨rfl, rfl⟩
    | element mem below =>
      cases List.mem_singleton.1 mem
      exact .inr ⟨_, rfl, below⟩
    | part mem _ _ => cases List.mem_singleton.1 mem
  · rintro (⟨rfl, rfl⟩ | ⟨rest, rfl, hw⟩)
    · exact .field List.mem_cons_self rfl
    · exact .element List.mem_cons_self hw

theorem writes_parts (operator : String) (parts : List Bson) (chain : List String) (key : String) :
    Writes [(operator, .array parts)] chain key ↔
      ∃ inner, .document inner ∈ parts ∧ Writes inner chain key := by
  constructor
  · intro hw
    cases hw with
    | field mem isCondition =>
      cases List.mem_singleton.1 mem
      simp [isFieldCondition] at isCondition
    | element mem _ => cases List.mem_singleton.1 mem
    | part mem part inside =>
      cases List.mem_singleton.1 mem
      exact ⟨_, part, inside⟩
  · rintro ⟨inner, hinner, hw⟩
    exact .part List.mem_cons_self hinner hw

/-- The filters of parts are those of each of them. -/
theorem exists_mem_filters {inElement : Bool} {parts : List Predicate} {holds : Document → Prop} :
    (∃ inner, .document inner ∈ filters inElement parts ∧ holds inner) ↔
      ∃ p ∈ parts, holds (filter inElement p) := by
  induction parts with
  | nil => simp [filters]
  | cons p ps ih => simp [filters, or_and_right, exists_or, ih]

/-- The forms of search expressions. -/
theorem searchExpression?_forms {inElement : Bool} {p : Predicate} {e : Bson}
    (h : searchExpression? inElement p = some e) :
    (∃ input needle, e = textMatch input needle) ∨ ∃ list inner, e = anyElement list inner := by
  cases p with
  | contains field needle =>
    cases h
    exact .inl ⟨_, _, rfl⟩
  | nested field p =>
    rw [searchExpression?, Option.map_eq_some_iff] at h
    obtain ⟨inner, -, rfl⟩ := h
    exact .inr ⟨_, _, rfl⟩
  | _ => cases h

theorem not_writes_expression {inElement : Bool} {p : Predicate} {e : Bson}
    (h : searchExpression? inElement p = some e) (chain : List String) (key : String) :
    ¬ Writes [("$expr", e)] chain key := by
  intro hw
  rcases searchExpression?_forms h with ⟨input, needle, rfl⟩ | ⟨list, inner, rfl⟩
  all_goals
    cases hw with
    | field mem isCondition =>
      cases List.mem_singleton.1 mem
      revert isCondition
      simp [isFieldCondition, textMatch, anyElement, fieldOperators]
    | element mem _ => simp [withOperator, textMatch, anyElement] at mem
    | part mem _ _ => simp [textMatch, anyElement] at mem

/-- A search expression beside a filter has no conditions on fields. -/
theorem writes_orExpression {inElement inside : Bool} {p : Predicate} (d : Document)
    (chain : List String) (key : String) :
    Writes (orExpression inElement (searchExpression? inside p) d) chain key ↔
      Writes d chain key := by
  cases he : searchExpression? inside p with
  | none => exact Iff.rfl
  | some e =>
    cases inElement with
    | true => exact Iff.rfl
    | false =>
      show Writes [("$or", .array [.document d, .document [("$expr", e)]])] chain key ↔ _
      rw [writes_parts]
      constructor
      · rintro ⟨inner, hinner, hw⟩
        simp only [List.mem_cons, List.not_mem_nil, or_false, Bson.document.injEq] at hinner
        rcases hinner with rfl | rfl
        · exact hw
        · exact absurd hw (not_writes_expression he chain key)
      · exact fun hw => ⟨d, List.mem_cons_self, hw⟩

/-- A test is rendered as a condition on its field, perhaps beside an expression. -/
theorem filter_test {p : Predicate} (h : p.isTest = true) (inElement : Bool) :
    ∃ f condition, testedField? p = some f ∧ IsPlainCondition condition ∧
      filter inElement p =
        orExpression inElement (searchExpression? false p) (onField f condition) := by
  have operator (name : String) (value : Bson) (hname : name ∈ fieldOperators)
      (hne : name ≠ "$elemMatch") : IsPlainCondition (withOperator name value) :=
    ⟨by simpa [isFieldCondition, withOperator] using hname, by simp [withOperator, hne]⟩
  have regex (text : String) : IsPlainCondition (anyCaseRegex text) :=
    ⟨by simp [isFieldCondition, anyCaseRegex, fieldOperators], by simp [withOperator, anyCaseRegex]⟩
  cases p with
  | compare field op value =>
    exact ⟨field, _, rfl, operator _ _ (by cases op <;> decide) (by cases op <;> decide), rfl⟩
  | among field values => exact ⟨field, _, rfl, operator _ _ (by decide) (by decide), rfl⟩
  | notAmong field values => exact ⟨field, _, rfl, operator _ _ (by decide) (by decide), rfl⟩
  | like field pattern => exact ⟨field, _, rfl, regex _, rfl⟩
  | regex field pattern => exact ⟨field, _, rfl, operator _ _ (by decide) (by decide), rfl⟩
  | contains field needle => exact ⟨field, _, rfl, regex _, rfl⟩
  | present field wanted => exact ⟨field, _, rfl, operator _ _ (by decide) (by decide), rfl⟩
  | isNull field => exact ⟨field, .null, rfl, ⟨rfl, by simp [withOperator]⟩, rfl⟩
  | isEmpty field => exact ⟨field, _, rfl, operator _ _ (by decide) (by decide), rfl⟩
  | _ => cases h

/-! ## Keys of filters -/

theorem not_tests_constant {p : Predicate} (h : p = .always ∨ p = .never) (chain : List FieldPath)
    (f : FieldPath) : ¬ Tests p chain f := by
  intro ht
  rcases h with rfl | rfl <;> cases ht <;> next tested => cases tested

theorem tests_iff_of_isTest {p : Predicate} (h : p.isTest = true) {f : FieldPath}
    (hf : testedField? p = some f) (chain : List FieldPath) (g : FieldPath) :
    Tests p chain g ↔ chain = [] ∧ g = f := by
  constructor
  · intro ht
    cases ht with
    | field tested =>
      rw [hf] at tested
      exact ⟨rfl, (Option.some.inj tested).symm⟩
    | _ => cases h
  · rintro ⟨rfl, rfl⟩
    exact .field hf

theorem tests_not (p : Predicate) (chain : List FieldPath) (f : FieldPath) :
    Tests (.not p) chain f ↔ Tests p chain f := by
  refine ⟨fun ht => ?_, .not⟩
  cases ht with
  | field tested => cases tested
  | not inside => exact inside

theorem tests_and (parts : List Predicate) (chain : List FieldPath) (f : FieldPath) :
    Tests (.and parts) chain f ↔ ∃ p ∈ parts, Tests p chain f := by
  constructor
  · intro ht
    cases ht with
    | field tested => cases tested
    | and mem part => exact ⟨_, mem, part⟩
  · rintro ⟨p, hp, ht⟩
    exact .and hp ht

theorem tests_or (parts : List Predicate) (chain : List FieldPath) (f : FieldPath) :
    Tests (.or parts) chain f ↔ ∃ p ∈ parts, Tests p chain f := by
  constructor
  · intro ht
    cases ht with
    | field tested => cases tested
    | or mem part => exact ⟨_, mem, part⟩
  · rintro ⟨p, hp, ht⟩
    exact .or hp ht

theorem tests_nested (f : FieldPath) (p : Predicate) (chain : List FieldPath) (g : FieldPath) :
    Tests (.nested f p) chain g ↔
      (chain = [] ∧ g = f) ∨ ∃ rest, chain = f :: rest ∧ Tests p rest g := by
  constructor
  · intro ht
    cases ht with
    | field tested => cases tested
    | list => exact .inl ⟨rfl, rfl⟩
    | nested below => exact .inr ⟨_, rfl, below⟩
  · rintro (⟨rfl, rfl⟩ | ⟨rest, rfl, ht⟩)
    · exact .list _ p
    · exact .nested ht

/-- The negation of a test is rendered with the same keys. -/
theorem writes_not (p : Predicate) (inElement : Bool) (chain : List String) (key : String) :
    Writes (filter inElement (.not p)) chain key ↔ Writes (filter inElement p) chain key := by
  have hparts : Writes [("$nor", .array [.document (filter inElement p)])] chain key ↔
      Writes (filter inElement p) chain key := by
    rw [writes_parts]
    simp
  cases p with
  | isNull field =>
    show Writes (onField field (withOperator "$ne" .null)) chain key ↔
      Writes (onField field .null) chain key
    rw [writes_onField ⟨by decide, by simp [withOperator]⟩,
      writes_onField ⟨rfl, by simp [withOperator]⟩]
  | _ => exact hparts

/-- The filter has the keys of the fields that are tested. -/
def WritesTested (d : Document) (tests : List FieldPath → FieldPath → Prop) : Prop :=
  ∀ (keys : List String) (key : String), Writes d keys key ↔
    ∃ chain f, tests chain f ∧ keys = chain.map storedKey ∧ key = storedKey f

/-- The step from the parts to a conjunction or disjunction. -/
theorem writesTested_parts {inElement : Bool} {parts : List Predicate} (operator : String)
    (h : ∀ p ∈ parts, WritesTested (filter inElement p) (Tests p)) :
    WritesTested [(operator, .array (filters inElement parts))]
      (fun chain f => ∃ p ∈ parts, Tests p chain f) := by
  intro keys key
  rw [writes_parts, exists_mem_filters]
  constructor
  · rintro ⟨p, hp, hw⟩
    obtain ⟨chain, f, ht, hkeys⟩ := (h p hp keys key).1 hw
    exact ⟨chain, f, ⟨p, hp, ht⟩, hkeys⟩
  · rintro ⟨chain, f, ⟨p, hp, ht⟩, hkeys⟩
    exact ⟨p, hp, (h p hp keys key).2 ⟨chain, f, ht, hkeys⟩⟩

/-- The step from the inside of a list. -/
theorem writesTested_nested {inElement : Bool} {f : FieldPath} {p : Predicate}
    (h : WritesTested (filter true p) (Tests p)) :
    WritesTested (filter inElement (.nested f p)) (Tests (.nested f p)) := by
  intro keys key
  show Writes (orExpression inElement (searchExpression? false (.nested f p))
    (onField f (withOperator "$elemMatch" (.document (filter true p))))) keys key ↔ _
  rw [writes_orExpression, writes_elemMatch]
  simp only [tests_nested]
  constructor
  · rintro (⟨rfl, rfl⟩ | ⟨rest, rfl, hw⟩)
    · exact ⟨[], f, .inl ⟨rfl, rfl⟩, rfl, rfl⟩
    · obtain ⟨chain, g, ht, rfl, rfl⟩ := (h rest key).1 hw
      exact ⟨f :: chain, g, .inr ⟨chain, rfl, ht⟩, rfl, rfl⟩
  · rintro ⟨chain, g, ⟨rfl, rfl⟩ | ⟨rest, rfl, ht⟩, rfl, rfl⟩
    · exact .inl ⟨rfl, rfl⟩
    · exact .inr ⟨_, rfl, (h _ _).2 ⟨rest, g, ht, rfl, rfl⟩⟩

/-- The keys of a filter are those of the fields that its predicate tests, list by list. -/
theorem writesTested_filter (p : Predicate) :
    ∀ inElement : Bool, WritesTested (filter inElement p) (Tests p) := by
  induction p using Predicate.connectiveInduction with
  | always =>
    intro inElement keys key
    refine iff_of_false (fun hw => ?_) ?_
    · cases hw with
      | field mem _ => cases mem
      | element mem _ => cases mem
      | part mem _ _ => cases mem
    · rintro ⟨chain, f, ht, -⟩
      exact not_tests_constant (.inl rfl) chain f ht
  | never =>
    intro inElement keys key
    refine iff_of_false (fun hw => ?_) ?_
    · cases hw with
      | field mem isCondition =>
        cases List.mem_singleton.1 mem
        cases isCondition
      | element mem _ => cases List.mem_singleton.1 mem
      | part mem _ _ => cases List.mem_singleton.1 mem
    · rintro ⟨chain, f, ht, -⟩
      exact not_tests_constant (.inr rfl) chain f ht
  | test p h =>
    intro inElement keys key
    obtain ⟨f, condition, hf, hcondition, heq⟩ := filter_test h inElement
    rw [heq, writes_orExpression, writes_onField hcondition]
    simp only [tests_iff_of_isTest h hf]
    constructor
    · rintro ⟨rfl, rfl⟩
      exact ⟨[], f, ⟨rfl, rfl⟩, rfl, rfl⟩
    · rintro ⟨chain, g, ⟨rfl, rfl⟩, rfl, rfl⟩
      exact ⟨rfl, rfl⟩
  | nested f p ih => exact fun inElement => writesTested_nested (ih true)
  | not p ih =>
    intro inElement keys key
    simp only [writes_not, tests_not]
    exact ih inElement keys key
  | and parts ih =>
    intro inElement keys key
    simp only [filter, tests_and]
    exact writesTested_parts "$and" (fun p hp => ih p hp inElement) keys key
  | or parts ih =>
    intro inElement keys key
    simp only [filter, tests_or]
    exact writesTested_parts "$or" (fun p hp => ih p hp inElement) keys key

end ListingQuery.Mongo
