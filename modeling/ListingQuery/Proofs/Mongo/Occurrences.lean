import ListingQuery.Proofs.Mongo.Keys
import ListingQuery.Proofs.Shape.Dotted

/-!
# What occurs in filters

A filter of a solid predicate has, at any depth, keys of fields that are tested, operators of
conditions and expressions, conjunctions and disjunctions of at least one filter, tests of list
elements, and expressions, which do not stand in the filter of an element   (isEntry_of_occurs).

So an expression is below the test of an element exactly if a field there is called as an expression
is:

    $expr below $elemMatch ↔ the predicate tests a field $expr below a list
                                                              (exists_expression_below_iff)
-/

namespace ListingQuery.Mongo

open Predicate

/-! ## Occurrences -/

/-- The key has the value somewhere in this one, at any depth. -/
inductive Occurs (key : String) (v : Bson) : Bson → Prop
  | here {members : Document} (mem : (key, v) ∈ members) : Occurs key v (.document members)
  | member {members : Document} {k : String} {b : Bson} (mem : (k, b) ∈ members)
      (inside : Occurs key v b) : Occurs key v (.document members)
  | item {items : List Bson} {b : Bson} (mem : b ∈ items) (inside : Occurs key v b) :
      Occurs key v (.array items)

section Occurrences

variable {key : String} {v : Bson}

@[simp]
theorem not_occurs_empty : ¬ Occurs key v (.document []) := by
  intro h
  cases h with
  | here mem => cases mem
  | member mem _ => cases mem

@[simp]
theorem occurs_document_cons {k : String} {b : Bson} {members : Document} :
    Occurs key v (.document ((k, b) :: members)) ↔
      (key = k ∧ v = b) ∨ Occurs key v b ∨ Occurs key v (.document members) := by
  constructor
  · intro h
    cases h with
    | here mem =>
      rcases List.mem_cons.1 mem with heq | mem
      · exact .inl (Prod.mk.inj heq)
      · exact .inr (.inr (.here mem))
    | member mem inside =>
      rcases List.mem_cons.1 mem with heq | mem
      · obtain ⟨-, rfl⟩ := Prod.mk.inj heq
        exact .inr (.inl inside)
      · exact .inr (.inr (.member mem inside))
  · rintro (⟨rfl, rfl⟩ | inside | h)
    · exact .here List.mem_cons_self
    · exact .member List.mem_cons_self inside
    · cases h with
      | here mem => exact .here (List.mem_cons_of_mem _ mem)
      | member mem inside => exact .member (List.mem_cons_of_mem _ mem) inside

@[simp]
theorem occurs_array {items : List Bson} :
    Occurs key v (.array items) ↔ ∃ b ∈ items, Occurs key v b := by
  constructor
  · rintro ⟨⟩
    exact ⟨_, ‹_›, ‹_›⟩
  · rintro ⟨b, mem, inside⟩
    exact .item mem inside

@[simp]
theorem not_occurs_null : ¬ Occurs key v .null := nofun

@[simp]
theorem not_occurs_boolean {b : Bool} : ¬ Occurs key v (.boolean b) := nofun

@[simp]
theorem not_occurs_string {s : String} : ¬ Occurs key v (.string s) := nofun

@[simp]
theorem not_occurs_literal (value : Literal) : ¬ Occurs key v (literalBson value) := by
  cases value <;> nofun

end Occurrences

/-! ## Conditions and expressions -/

/-- The keys in a condition on a field. -/
def conditionKeys : List String :=
  ["$eq", "$ne", "$gt", "$gte", "$lt", "$lte", "$in", "$nin", "$regex", "$options", "$exists"]

/-- The keys in a search expression. -/
def expressionKeys : List String :=
  ["$regexMatch", "input", "$convert", "to", "onError", "onNull", "regex", "options",
    "$anyElementTrue", "$map", "$cond", "$isArray", "in"]

/-- A test is rendered as a condition on its field, which has keys of conditions only. -/
theorem filter_test_keys {p : Predicate} (h : p.isTest = true) (inElement : Bool) :
    ∃ f condition, testedField? p = some f ∧ isFieldCondition condition = true ∧
      (∀ key v, Occurs key v condition → key ∈ conditionKeys) ∧
      filter inElement p =
        orExpression inElement (searchExpression? false p) (onField f condition) := by
  have hone (name : String) (value : Bson) (hname : name ∈ conditionKeys)
      (hvalue : ∀ key v, ¬ Occurs key v value) (key : String) (v : Bson)
      (hocc : Occurs key v (withOperator name value)) : key ∈ conditionKeys := by
    rw [withOperator, occurs_document_cons] at hocc
    rcases hocc with ⟨rfl, -⟩ | hocc | hocc
    · exact hname
    · exact absurd hocc (hvalue key v)
    · exact absurd hocc not_occurs_empty
  have hregex (text : String) (key : String) (v : Bson)
      (hocc : Occurs key v (anyCaseRegex text)) : key ∈ conditionKeys := by
    simp only [anyCaseRegex, occurs_document_cons, not_occurs_string, not_occurs_empty, or_false,
      false_or] at hocc
    rcases hocc with ⟨rfl, -⟩ | ⟨rfl, -⟩ <;> decide
  have hliterals (values : List Literal) (key : String) (v : Bson) :
      ¬ Occurs key v (.array (values.map literalBson)) := by
    simp
  cases p with
  | compare field op value =>
    refine ⟨field, _, rfl, ?_, hone _ _ ?_ (fun _ _ => not_occurs_literal value), rfl⟩
    · cases op <;> rfl
    · cases op <;> decide
  | among field values =>
    exact ⟨field, _, rfl, rfl, hone _ _ (by decide) (hliterals values), rfl⟩
  | notAmong field values =>
    exact ⟨field, _, rfl, rfl, hone _ _ (by decide) (hliterals values), rfl⟩
  | like field pattern => exact ⟨field, _, rfl, rfl, hregex _, rfl⟩
  | regex field pattern =>
    exact ⟨field, _, rfl, rfl, hone _ _ (by decide) (fun _ _ => not_occurs_string), rfl⟩
  | contains field needle => exact ⟨field, _, rfl, rfl, hregex _, rfl⟩
  | present field wanted =>
    exact ⟨field, _, rfl, rfl, hone _ _ (by decide) (fun _ _ => not_occurs_boolean), rfl⟩
  | isNull field => exact ⟨field, .null, rfl, rfl, fun _ _ h => absurd h not_occurs_null, rfl⟩
  | isEmpty field => exact ⟨field, _, rfl, rfl, hone _ _ (by decide) (by simp), rfl⟩
  | _ => cases h

theorem mem_expressionKeys_of_occurs_textMatch {input needle key : String} {v : Bson}
    (h : Occurs key v (textMatch input needle)) : key ∈ expressionKeys := by
  simp only [textMatch, occurs_document_cons, not_occurs_string, not_occurs_empty, or_false,
    false_or] at h
  rcases h with ⟨rfl, -⟩ | ⟨rfl, -⟩ | (⟨rfl, -⟩ | ⟨rfl, -⟩ | ⟨rfl, -⟩ | ⟨rfl, -⟩ | ⟨rfl, -⟩) |
    ⟨rfl, -⟩ | ⟨rfl, -⟩
  all_goals decide

theorem occurs_anyElement {list key : String} {e v : Bson}
    (h : Occurs key v (anyElement list e)) : key ∈ expressionKeys ∨ Occurs key v e := by
  simp only [anyElement, occurs_document_cons, occurs_array, List.mem_cons, List.not_mem_nil,
    exists_eq_or_imp, exists_eq_left, not_occurs_string, not_occurs_empty, or_false,
    exists_false, false_and, or_self] at h
  rcases h with ⟨rfl, -⟩ | ⟨rfl, -⟩ | ⟨rfl, -⟩ | (⟨rfl, -⟩ | ⟨rfl, -⟩) | ⟨rfl, -⟩ | hocc
  all_goals first | exact .inr hocc | exact .inl (by decide)

/-- The keys in a search expression are those of its parts. -/
theorem mem_expressionKeys {p : Predicate} : ∀ {inElement : Bool} {e : Bson},
    searchExpression? inElement p = some e → ∀ key v, Occurs key v e → key ∈ expressionKeys := by
  induction p using Predicate.connectiveInduction with
  | test p h =>
    intro inElement e he key v hocc
    cases p with
    | contains field needle =>
      cases he
      exact mem_expressionKeys_of_occurs_textMatch hocc
    | nested => cases h
    | _ => cases he
  | nested f p ih =>
    intro inElement e he key v hocc
    rw [searchExpression?, Option.map_eq_some_iff] at he
    obtain ⟨inner, hinner, rfl⟩ := he
    rcases occurs_anyElement hocc with hkey | hocc
    · exact hkey
    · exact ih hinner key v hocc
  | _ => intro _ _ he; cases he

/-! ## Occurrences in parts -/

section Parts

variable {inElement : Bool} {key : String} {v : Bson}

/-- An expression beside a filter brings in a disjunction, the expression and its keys. -/
theorem occurs_orExpression {p : Predicate} {d : Document}
    (h : Occurs key v (.document (orExpression inElement (searchExpression? false p) d))) :
    Occurs key v (.document d) ∨ key ∈ expressionKeys ∨
      (key = "$or" ∧ ∃ item items, v = .array (item :: items)) ∨
        (key = "$expr" ∧ inElement = false) := by
  cases he : searchExpression? false p with
  | none =>
    rw [he] at h
    exact .inl h
  | some e =>
    rw [he] at h
    cases inElement with
    | true => exact .inl h
    | false =>
      simp only [orExpression, Bool.false_eq_true, if_false, occurs_document_cons, occurs_array,
        List.mem_cons, List.not_mem_nil, or_false, exists_eq_or_imp, exists_eq_left,
        not_occurs_empty] at h
      rcases h with ⟨rfl, rfl⟩ | hocc | ⟨rfl, -⟩ | hocc
      · exact .inr (.inr (.inl ⟨rfl, _, _, rfl⟩))
      · exact .inl hocc
      · exact .inr (.inr (.inr ⟨rfl, rfl⟩))
      · exact .inr (.inl (mem_expressionKeys he key v hocc))

theorem occurs_not {p : Predicate}
    (h : Occurs key v (.document (filter inElement (.not p)))) :
    (key = "$nor" ∧ ∃ item items, v = .array (item :: items)) ∨
      Occurs key v (.document (filter inElement p)) ∨
      ∃ f, p = .isNull f ∧
        (key = storedKey f ∧ v = withOperator "$ne" .null ∨ key = "$ne") := by
  have hnor (h : Occurs key v (.document [("$nor", .array [.document (filter inElement p)])])) :
      (key = "$nor" ∧ ∃ item items, v = .array (item :: items)) ∨
        Occurs key v (.document (filter inElement p)) := by
    simp only [occurs_document_cons, occurs_array, List.mem_singleton, exists_eq_left,
      not_occurs_empty, or_false] at h
    rcases h with ⟨rfl, rfl⟩ | h
    · exact .inl ⟨rfl, _, _, rfl⟩
    · exact .inr h
  cases p with
  | isNull field =>
    simp only [filter, onField, withOperator, occurs_document_cons, not_occurs_null,
      not_occurs_empty, or_false] at h
    refine .inr (.inr ⟨field, rfl, ?_⟩)
    rcases h with ⟨rfl, rfl⟩ | ⟨rfl, -⟩
    · exact .inl ⟨rfl, rfl⟩
    · exact .inr rfl
  | _ => exact (hnor h).imp_right .inl

theorem occurs_parts {operator : String} {parts : List Predicate}
    (h : Occurs key v (.document [(operator, .array (filters inElement parts))])) :
    (key = operator ∧ v = .array (filters inElement parts)) ∨
      ∃ p ∈ parts, Occurs key v (.document (filter inElement p)) := by
  simp only [occurs_document_cons, occurs_array, not_occurs_empty, or_false] at h
  refine h.imp_right ?_
  induction parts with
  | nil =>
    rintro ⟨b, hb, -⟩
    cases hb
  | cons p ps ih =>
    rintro ⟨b, hb, hocc⟩
    rcases List.mem_cons.1 hb with rfl | hb
    · exact ⟨p, List.mem_cons_self, hocc⟩
    · obtain ⟨q, hq, hocc⟩ := ih (.inr ⟨b, hb, hocc⟩) ⟨b, hb, hocc⟩
      exact ⟨q, List.mem_cons_of_mem p hq, hocc⟩

end Parts

/-! ## Entries of filters -/

/-- What a key and its value are in a filter whose predicate tests these fields. -/
inductive IsEntry (inElement : Bool) (tests : List FieldPath → FieldPath → Prop) (key : String)
    (v : Bson) : Prop
  | operator (mem : key ∈ conditionKeys ++ expressionKeys)
  | field {chain : List FieldPath} {f : FieldPath} (tested : tests chain f)
      (key_eq : key = storedKey f) (isCondition : isFieldCondition v = true)
  | elements (key_eq : key = "$elemMatch")
  | expression (key_eq : key = "$expr") (inDocument : inElement = false)
  | connective {item : Bson} {items : List Bson} (mem : key ∈ ["$and", "$or", "$nor"])
      (value_eq : v = .array (item :: items))

section Entries

variable {inElement : Bool} {tests : List FieldPath → FieldPath → Prop} {key : String} {v : Bson}

theorem IsEntry.mono {tests' : List FieldPath → FieldPath → Prop}
    (h : IsEntry inElement tests key v)
    (hmono : ∀ chain f, tests chain f → ∃ chain', tests' chain' f) :
    IsEntry inElement tests' key v := by
  cases h with
  | operator mem => exact .operator mem
  | field tested key_eq isCondition =>
    obtain ⟨chain', tested'⟩ := hmono _ _ tested
    exact .field tested' key_eq isCondition
  | elements key_eq => exact .elements key_eq
  | expression key_eq inDocument => exact .expression key_eq inDocument
  | connective mem value_eq => exact .connective mem value_eq

/-- What stands in the filter of an element may stand in that of a document. -/
theorem IsEntry.outside (h : IsEntry true tests key v) : IsEntry inElement tests key v := by
  cases h with
  | operator mem => exact .operator mem
  | field tested key_eq isCondition => exact .field tested key_eq isCondition
  | elements key_eq => exact .elements key_eq
  | expression _ inDocument => cases inDocument
  | connective mem value_eq => exact .connective mem value_eq

theorem isEntry_orExpression {p : Predicate} {d : Document}
    (h : Occurs key v (.document (orExpression inElement (searchExpression? false p) d)))
    (hd : Occurs key v (.document d) → IsEntry inElement tests key v) :
    IsEntry inElement tests key v := by
  rcases occurs_orExpression h with hocc | mem | ⟨rfl, _, _, rfl⟩ | ⟨rfl, hdocument⟩
  · exact hd hocc
  · exact .operator (List.mem_append_right _ mem)
  · exact .connective (by decide) rfl
  · exact .expression rfl hdocument

theorem isEntry_parts {operator : String} (hoperator : operator ∈ ["$and", "$or"])
    {parts : List Predicate} (hlen : 2 ≤ parts.length)
    (h : Occurs key v (.document [(operator, .array (filters inElement parts))]))
    (hparts : ∀ p ∈ parts, Occurs key v (.document (filter inElement p)) →
      IsEntry inElement tests key v) : IsEntry inElement tests key v := by
  rcases occurs_parts h with ⟨rfl, rfl⟩ | ⟨p, hp, hocc⟩
  · have hne : parts ≠ [] := by
      rintro rfl
      exact absurd hlen (by decide)
    obtain ⟨p, ps, rfl⟩ := List.exists_cons_of_ne_nil hne
    exact .connective (List.mem_append_left ["$nor"] hoperator) rfl
  · exact hparts p hp hocc

end Entries

/-- What occurs in the filter of a solid predicate. -/
theorem isEntry_of_occurs (p : Predicate) : p.IsSolid → ∀ (inElement : Bool) (key : String)
    (v : Bson), Occurs key v (.document (filter inElement p)) →
      IsEntry inElement (Tests p) key v := by
  induction p using Predicate.connectiveInduction with
  | always => exact fun hp => absurd hp id
  | never => exact fun hp => absurd hp id
  | test p h =>
    intro _ inElement key v hocc
    obtain ⟨f, condition, hf, hcondition, hkeys, heq⟩ := filter_test_keys h inElement
    rw [heq] at hocc
    refine isEntry_orExpression hocc fun hocc => ?_
    simp only [onField, occurs_document_cons, not_occurs_empty, or_false] at hocc
    rcases hocc with ⟨rfl, rfl⟩ | hocc
    · exact .field (.field hf) rfl hcondition
    · exact .operator (List.mem_append_left _ (hkeys key v hocc))
  | nested f p ih =>
    intro hp inElement key v hocc
    refine isEntry_orExpression (p := .nested f p) hocc fun hocc => ?_
    simp only [onField, withOperator, occurs_document_cons, not_occurs_empty, or_false] at hocc
    rcases hocc with ⟨rfl, rfl⟩ | ⟨rfl, -⟩ | hocc
    · exact .field (.list f p) rfl rfl
    · exact .elements rfl
    · exact ((ih hp true key v hocc).mono fun chain g ht => ⟨f :: chain, .nested ht⟩).outside
  | not p ih =>
    intro hp inElement key v hocc
    rcases occurs_not hocc with ⟨rfl, _, _, rfl⟩ | hocc | ⟨f, rfl, ⟨rfl, rfl⟩ | rfl⟩
    · exact .connective (by decide) rfl
    · exact (ih hp.1 inElement key v hocc).mono fun chain g ht => ⟨chain, .not ht⟩
    · exact .field (.not (.field rfl)) rfl rfl
    · exact .operator (by decide)
  | and parts ih =>
    intro hp inElement key v hocc
    obtain ⟨hlen, hsolid, -⟩ := isSolid_and.1 hp
    exact isEntry_parts (by decide) hlen hocc fun p hmem hocc =>
      (ih p hmem (hsolid p hmem) inElement key v hocc).mono fun chain g ht => ⟨chain, .and hmem ht⟩
  | or parts ih =>
    intro hp inElement key v hocc
    obtain ⟨hlen, hsolid, -⟩ := isSolid_or.1 hp
    exact isEntry_parts (by decide) hlen hocc fun p hmem hocc =>
      (ih p hmem (hsolid p hmem) inElement key v hocc).mono fun chain g ht => ⟨chain, .or hmem ht⟩

/-- No conjunction or disjunction in the filter of a predicate in normal form is empty. -/
theorem not_occurs_empty_parts {p : Predicate} (hp : p.IsNormal) {operator : String}
    (hoperator : operator ∈ ["$and", "$or"]) :
    ¬ Occurs operator (.array []) (.document (filterDocument p)) := by
  intro hocc
  rcases hp with rfl | rfl | hp
  · exact not_occurs_empty hocc
  · simp only [filterDocument, filter, occurs_document_cons, not_occurs_boolean, not_occurs_empty,
      or_false] at hocc
    cases hocc.2
  · have hnot (mem : operator ∈ conditionKeys ++ expressionKeys) : False := by
      simp only [List.mem_cons, List.not_mem_nil, or_false] at hoperator
      rcases hoperator with rfl | rfl <;> revert mem <;> decide
    cases isEntry_of_occurs p hp false operator _ hocc with
    | operator mem => exact hnot mem
    | field _ _ isCondition => cases isCondition
    | elements key_eq => subst key_eq; revert hoperator; decide
    | expression key_eq _ => subst key_eq; revert hoperator; decide
    | connective _ value_eq => cases value_eq

/-! ## Expressions below tests of elements -/

theorem storedKey_eq_expr_iff {f : FieldPath} : storedKey f = "$expr" ↔ f = ["$expr"] := by
  constructor
  · intro h
    rw [storedKey] at h
    split at h
    · exact absurd h (by decide)
    · exact FieldPath.eq_of_dotted_eq (by decide) (by decide) h
  · rintro rfl
    rfl

/-- What goes by the name of expressions in the filter of an element is a condition on a field. -/
theorem exists_tests_of_occurs_expr {p : Predicate} (hp : p.IsSolid) {v : Bson}
    (h : Occurs "$expr" v (.document (filter true p))) : ∃ chain, Tests p chain ["$expr"] := by
  cases isEntry_of_occurs p hp true "$expr" v h with
  | operator mem => exact absurd mem (by decide)
  | field tested key_eq _ => exact ⟨_, storedKey_eq_expr_iff.1 key_eq.symm ▸ tested⟩
  | elements key_eq => exact absurd key_eq (by decide)
  | expression _ inDocument => cases inDocument
  | connective mem _ => exact absurd mem (by decide)

/-- The step of `exists_tests_below` from the inside of a filter that stands beside an
expression. -/
theorem occurs_elemMatch_orExpression {inElement : Bool} {p : Predicate} {d : Document} {v : Bson}
    (h : Occurs "$elemMatch" v (.document (orExpression inElement (searchExpression? false p) d))) :
    Occurs "$elemMatch" v (.document d) := by
  rcases occurs_orExpression h with hocc | mem | ⟨hkey, -⟩ | ⟨hkey, -⟩
  · exact hocc
  · exact absurd mem (by decide)
  · exact absurd hkey (by decide)
  · exact absurd hkey (by decide)

theorem exists_tests_below (p : Predicate) : p.IsSolid → ∀ (inElement : Bool) (inner v : Bson),
    Occurs "$elemMatch" inner (.document (filter inElement p)) → Occurs "$expr" v inner →
      ∃ chain, chain ≠ [] ∧ Tests p chain ["$expr"] := by
  induction p using Predicate.connectiveInduction with
  | always => exact fun hp => absurd hp id
  | never => exact fun hp => absurd hp id
  | test p h =>
    intro _ inElement inner v hocc hexpr
    obtain ⟨f, condition, -, -, hkeys, heq⟩ := filter_test_keys h inElement
    rw [heq] at hocc
    have hocc := occurs_elemMatch_orExpression hocc
    simp only [onField, occurs_document_cons, not_occurs_empty, or_false] at hocc
    rcases hocc with ⟨-, rfl⟩ | hocc
    · exact absurd (hkeys _ v hexpr) (by decide)
    · exact absurd (hkeys _ inner hocc) (by decide)
  | nested f p ih =>
    intro hp inElement inner v hocc hexpr
    have hocc := occurs_elemMatch_orExpression (p := .nested f p) hocc
    have hbelow (hexpr : Occurs "$expr" v (.document (filter true p))) :
        ∃ chain, chain ≠ [] ∧ Tests (.nested f p) chain ["$expr"] := by
      obtain ⟨chain, ht⟩ := exists_tests_of_occurs_expr (p := p) hp hexpr
      exact ⟨f :: chain, by simp, .nested ht⟩
    simp only [onField, withOperator, occurs_document_cons, not_occurs_empty, or_false] at hocc
    rcases hocc with ⟨-, rfl⟩ | ⟨-, rfl⟩ | hocc
    · -- the list itself is called as the test of an element is
      simp only [occurs_document_cons, not_occurs_empty, or_false] at hexpr
      rcases hexpr with ⟨hkey, -⟩ | hexpr
      · exact absurd hkey (by decide)
      · exact hbelow hexpr
    · exact hbelow hexpr
    · obtain ⟨chain, -, ht⟩ := ih hp true inner v hocc hexpr
      exact ⟨f :: chain, by simp, .nested ht⟩
  | not p ih =>
    intro hp inElement inner v hocc hexpr
    rcases occurs_not hocc with ⟨hkey, -⟩ | hocc | ⟨f, -, ⟨-, rfl⟩ | hkey⟩
    · exact absurd hkey (by decide)
    · obtain ⟨chain, hne, ht⟩ := ih hp.1 inElement inner v hocc hexpr
      exact ⟨chain, hne, .not ht⟩
    · simp [withOperator] at hexpr
    · exact absurd hkey (by decide)
  | and parts ih =>
    intro hp inElement inner v hocc hexpr
    rcases occurs_parts hocc with ⟨hkey, -⟩ | ⟨p, hmem, hocc⟩
    · exact absurd hkey (by decide)
    · obtain ⟨chain, hne, ht⟩ :=
        ih p hmem ((isSolid_and.1 hp).2.1 p hmem) inElement inner v hocc hexpr
      exact ⟨chain, hne, .and hmem ht⟩
  | or parts ih =>
    intro hp inElement inner v hocc hexpr
    rcases occurs_parts hocc with ⟨hkey, -⟩ | ⟨p, hmem, hocc⟩
    · exact absurd hkey (by decide)
    · obtain ⟨chain, hne, ht⟩ :=
        ih p hmem ((isSolid_or.1 hp).2.1 p hmem) inElement inner v hocc hexpr
      exact ⟨chain, hne, .or hmem ht⟩

/-- A key that is written occurs; below lists, it occurs in the test of an element. -/
theorem Writes.exists_occurs {d : Document} {chain : List String} {key : String}
    (h : Writes d chain key) : (∃ v, Occurs key v (.document d)) ∧
      (chain ≠ [] → ∃ inner v, Occurs "$elemMatch" inner (.document d) ∧ Occurs key v inner) := by
  induction h with
  | field mem _ => exact ⟨⟨_, .here mem⟩, fun hne => absurd rfl hne⟩
  | element mem _ ih =>
    obtain ⟨⟨v, hocc⟩, -⟩ := ih
    exact ⟨⟨v, .member mem (.member List.mem_cons_self hocc)⟩,
      fun _ => ⟨_, v, .member mem (.here List.mem_cons_self), hocc⟩⟩
  | part mem part _ ih =>
    obtain ⟨⟨v, hocc⟩, hbelow⟩ := ih
    refine ⟨⟨v, .member mem (.item part hocc)⟩, fun hne => ?_⟩
    obtain ⟨inner, v, helements, hocc⟩ := hbelow hne
    exact ⟨inner, v, .member mem (.item part helements), hocc⟩

/-- An expression is below the test of an element exactly if a field there goes by the name of
expressions. -/
theorem exists_expression_below_iff {p : Predicate} (hp : p.IsNormal) :
    (∃ inner v, Occurs "$elemMatch" inner (.document (filterDocument p)) ∧
      Occurs "$expr" v inner) ↔ ∃ chain, chain ≠ [] ∧ Tests p chain ["$expr"] := by
  constructor
  · rintro ⟨inner, v, hocc, hexpr⟩
    rcases hp with rfl | rfl | hp
    · exact absurd hocc not_occurs_empty
    · simp [filterDocument, filter] at hocc
    · exact exists_tests_below p hp false inner v hocc hexpr
  · rintro ⟨chain, hne, ht⟩
    have hwrites : Writes (filterDocument p) (chain.map storedKey) "$expr" :=
      (writesTested_filter p false _ _).2 ⟨chain, ["$expr"], ht, rfl, rfl⟩
    exact hwrites.exists_occurs.2 (by simpa using hne)

end ListingQuery.Mongo
