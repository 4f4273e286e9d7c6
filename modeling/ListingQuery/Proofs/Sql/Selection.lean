import ListingQuery.Proofs.Document.Values
import ListingQuery.Proofs.Filter.Scalars
import ListingQuery.Proofs.Filter.Typed
import ListingQuery.Proofs.Predicate.Meaning

/-!
# What a condition selects

A row of scalars and its document have the same values; a field without value is null in the row and
missing in the document.  Where a field has a value, what a condition asks of it is known, and it is
what the predicate asks of the document.  Where it has none, a predicate finds the field different
from every value, and a condition does not know.  So `ne`, `nin`, and `isEmpty` where it is false,
lose rows without value, and nothing else does:

    selected ↔ the document satisfies the predicate, and no field without value is asked for another
                                                                         (condition_selects_iff)
-/

namespace ListingQuery

open Predicate Sql
open Calendar (Instant)

/-! ## Values -/

/-- The JSON value stands for the value, which is one of the type.  A date may be in any form that
reads as it. -/
inductive ColumnType.Stores : ColumnType → Json → Literal → Prop
  | string (s : String) : Stores string (.string s) (.string s)
  | integer {n : Int} (fits : isInt64 n = true) : Stores integer (.ofInt n) (.integer n)
  | boolean (b : Bool) : Stores boolean (.bool b) (.boolean b)
  | date {v : Json} {t : Instant} (reads : date.convert? v = some (.date t)) :
      Stores date v (.date t)

namespace ColumnType

variable {type : ColumnType} {v : Json} {x value : Literal}

theorem convert?_null (type : ColumnType) : type.convert? .null = none := by
  cases type <;> rfl

theorem Stores.isNull (h : type.Stores v x) : v.isNull = false := by
  cases h with
  | date reads =>
    cases v with
    | null => cases reads
    | _ => rfl
  | _ => rfl

theorem Stores.elements (h : type.Stores v x) : v.elements = [v] := by
  cases h with
  | date reads =>
    cases v with
    | array items => cases reads
    | _ => rfl
  | _ => rfl

/-- A stored value is read as what the row has. -/
theorem Stores.typed? (h : type.Stores v x) (hvalue : value.columnType? = some type) :
    value.typed? v = some x := by
  cases h with
  | string s => cases value <;> first | rfl | cases hvalue
  | integer fits =>
    have hread (n : Int) (fits : isInt64 n = true) : (Number.int n).int64? = some n := by
      rw [Number.int64?, if_pos fits]
    cases value with
    | integer m => simp [Literal.typed?, Json.ofInt, hread _ fits]
    | _ => cases hvalue
  | boolean b => cases value <;> first | rfl | cases hvalue
  | date reads =>
    cases value with
    | date t => exact reads
    | _ => cases hvalue

/-- Values of one type have an order. -/
theorem Stores.exists_compare (h : type.Stores v x) (hvalue : value.columnType? = some type) :
    ∃ o, x.compare value = some o := by
  cases h <;> cases value <;> first | exact ⟨_, rfl⟩ | cases hvalue

/-- A comparison with a value of the type is known, and the same in the row and in the document. -/
theorem Stores.comparesAny (h : type.Stores v x) (hvalue : value.columnType? = some type)
    (op : Comparison) :
    (x.compare value).map op.admits = some (Predicate.comparesAny [v] op value) := by
  obtain ⟨o, ho⟩ := h.exists_compare hvalue
  have hstored : value.compareStored? v = some o := by
    rw [Literal.compareStored?, h.typed? hvalue]
    exact ho
  have hnull : value.isNull = false := by cases value <;> first | rfl | cases hvalue
  rw [ho]
  cases op <;> simp [Predicate.comparesAny, Literal.equalsStored, hnull, hstored,
    Comparison.admits, bne]

theorem Stores.isEmptyValue (h : ColumnType.string.Stores v x) :
    (x.compare (.string "")).map Comparison.eq.admits = some (Predicate.isEmptyValue v) := by
  cases h with
  | string s =>
    have hempty : (Ord.compare s "" == .eq) = s.isEmpty := by
      rw [Bool.eq_iff_iff, beq_iff_eq, Std.compare_eq_iff_eq, String.isEmpty_iff]
    exact congrArg some hempty

end ColumnType

namespace Sql

/-- The column is null and the field missing. -/
structure Row.Lacks (row : Row) (d : Json) (field : FieldPath) : Prop where
  column : row.value? field = none
  document : d.valuesAt field = []

/-- The column and the field have the same value of the type. -/
structure Row.Has (row : Row) (d : Json) (field : FieldPath) (type : ColumnType) (v : Json)
    (x : Literal) : Prop where
  column : row.value? field = some x
  document : d.valuesAt field = [v]
  stores : type.Stores v x

/-- The column and the field have the same value of the type, or none. -/
def Row.Shares (row : Row) (d : Json) (field : FieldPath) (type : ColumnType) : Prop :=
  row.Lacks d field ∨ ∃ v x, row.Has d field type v x

/-- The row and the members of its document have the same values in the fields of a shape. -/
def Row.Records (row : Row) (shape : RecordShape) (members : List (String × Json)) : Prop :=
  ∀ f ∈ shape.fields, (row.value? [f.name] = none ∧ Keyed.get? members f.name = none) ∨
    ∃ v x, row.value? [f.name] = some x ∧ Keyed.get? members f.name = some v ∧
      f.kind.columnType.Stores v x

/-- The truth value of the predicate is known, and is that on the document. -/
def Row.Knows (row : Row) (d : Json) (p : Predicate) : Prop :=
  p.truthIn row [] = some (p.holds d)

/-- The predicate selects the row exactly if the document satisfies it. -/
def Row.Follows (row : Row) (d : Json) (p : Predicate) : Prop :=
  p.truthIn row [] = some true ↔ p.holds d = true

namespace Row

variable {row : Row} {d : Json} {p : Predicate}

/-! ## Connectives -/

theorem Knows.follows (h : row.Knows d p) : row.Follows d p := by
  rw [Follows, h]
  exact Option.some_inj

theorem knows_negate (h : row.Knows d p) : row.Knows d (negate p) := by
  rw [Knows, truthIn_negate, h, holds_negate]
  rfl

theorem follows_conj {ps : List Predicate} (h : ∀ p ∈ ps, row.Follows d p) :
    row.Follows d (conj ps) := by
  rw [Follows, truthIn_conj, Truth.all_eq_true_iff, holds_conj, List.forall_mem_map]
  exact forall₂_congr h

theorem follows_disj {ps : List Predicate} (h : ∀ p ∈ ps, row.Follows d p) :
    row.Follows d (disj ps) := by
  rw [Follows, truthIn_disj, Truth.any_eq_true_iff, holds_disj]
  simp only [List.mem_map, exists_exists_and_eq_and]
  exact exists_congr fun p => and_congr_right (h p)

theorem knows_disj {ps : List Predicate} (h : ∀ p ∈ ps, row.Knows d p) :
    row.Knows d (disj ps) := by
  have hholds : (disj ps).holds d = ps.any fun p => p.holds d := by
    rw [Bool.eq_iff_iff, holds_disj, List.any_eq_true]
  rw [Knows, truthIn_disj, List.map_congr_left h, Truth.any_map_some, hholds]

/-- Neither is the row selected nor does the document satisfy the predicate. -/
theorem follows_of_neither (ht : p.truthIn row [] ≠ some true) (hp : p.holds d = false) :
    row.Follows d p := by
  rw [Follows, hp]
  exact iff_of_false ht Bool.false_ne_true

/-! ## Tests of a field that has a value -/

variable {field : FieldPath} {type : ColumnType} {v : Json} {x value : Literal}
  {values : List Literal}

theorem Has.elementsAt (h : row.Has d field type v x) : d.elementsAt field = [v] := by
  rw [Json.elementsAt, h.document, List.flatMap_singleton, h.stores.elements]

theorem Has.compares_eq (h : row.Has d field type v x) (hvalue : value.columnType? = some type)
    (op : Comparison) :
    row.compares field op value = some (comparesAny (d.elementsAt field) op value) := by
  rw [Row.compares, h.column, h.elementsAt]
  exact h.stores.comparesAny hvalue op

theorem Has.knows_compare (h : row.Has d field type v x)
    (hvalue : value.columnType? = some type) (op : Comparison) :
    row.Knows d (compare field op value) :=
  h.compares_eq hvalue op

theorem Has.any_compares_eq (h : row.Has d field type v x)
    (hvalues : ∀ value ∈ values, value.columnType? = some type) :
    Truth.any (values.map (row.compares field .eq))
      = some (anyAmong (d.elementsAt field) values) := by
  have hequals (value : Literal) : comparesAny [v] .eq value = value.equalsStored v :=
    Bool.or_false _
  rw [List.map_congr_left fun value hvalue => h.compares_eq (hvalues value hvalue) .eq,
    Truth.any_map_some, h.elementsAt, anyAmong, List.any_cons, List.any_nil, Bool.or_false]
  exact congrArg (fun test => some (values.any test)) (funext hequals)

theorem Has.knows_among (h : row.Has d field type v x)
    (hvalues : ∀ value ∈ values, value.columnType? = some type) :
    row.Knows d (among field values) :=
  h.any_compares_eq hvalues

theorem Has.knows_notAmong (h : row.Has d field type v x)
    (hvalues : ∀ value ∈ values, value.columnType? = some type) :
    row.Knows d (notAmong field values) :=
  congrArg Truth.not (h.any_compares_eq hvalues)

theorem Has.knows_isEmpty (h : row.Has d field .string v x) :
    row.Knows d (isEmpty field) := by
  show row.compares field .eq (.string "") = some ((d.valuesAt field).any isEmptyValue)
  rw [Row.compares, h.column, h.document, List.any_cons, List.any_nil, Bool.or_false]
  exact h.stores.isEmptyValue

/-! ## Tests of a field that may have none -/

theorem knows_isNull (h : row.Shares d field type) : row.Knows d (isNull field) := by
  show some (row.value? field).isNone
    = some ((d.valuesAt field).isEmpty || (d.valuesAt field).any (·.isNull))
  rcases h with h | ⟨v, x, h⟩
  · rw [h.column, h.document]
    rfl
  · rw [h.column, h.document, List.any_cons, h.stores.isNull]
    rfl

theorem knows_present (h : row.Shares d field type) (wanted : Bool) :
    row.Knows d (present field wanted) := by
  rcases h with h | ⟨v, x, h⟩ <;> cases wanted <;>
    simp [Knows, truthIn, conditionTokens, Condition.ofTests, Condition.ofFactor,
      Condition.truthIn, Conjunction.truthIn, Factor.truthIn, ColumnTest.truthIn, holds, h.column,
      h.document]

/-- A comparison with a field without value is unknown. -/
theorem compares_of_null (h : row.value? field = none) (op : Comparison) (value : Literal) :
    row.compares field op value = none := by
  rw [Row.compares, h, Option.bind_none]

theorem any_compares_of_null (h : row.value? field = none) (hne : values ≠ []) :
    Truth.any (values.map (row.compares field .eq)) = none := by
  rw [List.map_congr_left fun value _ => compares_of_null h .eq value, Truth.any_map_none hne]

/-- All comparisons but one find no value in a field without any. -/
theorem follows_compare (h : row.Shares d field type) (hvalue : value.columnType? = some type)
    {op : Comparison} (hop : op ≠ .ne) : row.Follows d (compare field op value) := by
  rcases h with h | ⟨v, x, h⟩
  · refine follows_of_neither ?_ ?_
    · show row.compares field op value ≠ some true
      simp [compares_of_null h.column]
    · rw [holds, Json.elementsAt, h.document]
      cases op <;> first | rfl | exact absurd rfl hop
  · exact (h.knows_compare hvalue op).follows

theorem follows_among (h : row.Shares d field type) (hne : values ≠ [])
    (hvalues : ∀ value ∈ values, value.columnType? = some type) :
    row.Follows d (among field values) := by
  rcases h with h | ⟨v, x, h⟩
  · refine follows_of_neither ?_ ?_
    · show Truth.any (values.map (row.compares field .eq)) ≠ some true
      simp [any_compares_of_null h.column hne]
    · rw [holds, Json.elementsAt, h.document]
      rfl
  · exact (h.knows_among hvalues).follows

theorem follows_isEmpty (h : row.Shares d field .string) : row.Follows d (isEmpty field) := by
  rcases h with h | ⟨v, x, h⟩
  · refine follows_of_neither ?_ ?_
    · show row.compares field .eq (.string "") ≠ some true
      simp [compares_of_null h.column]
    · rw [holds, h.document]
      rfl
  · exact h.knows_isEmpty.follows

end Row

end Sql

/-! ## Operators -/

namespace FilterExpression

/-- The type in force is that of the field, and no operator has a pattern. -/
structure IsPlain (e : FilterExpression) : Prop where
  columnType : e.columnType? = none
  regex : e.regex? = none
  like : e.like? = none

/-- The expression asks for a value other than some value: than one that `ne` has, than those that
`nin` has, or than the empty text. -/
inductive AsksForOther (e : FilterExpression) (type : ColumnType) : Prop
  | ne {raw : Json} {value : Literal} (operand : e.ne? = some raw)
      (reads : type.convert? raw = some value)
  | notAmong {raws : List Json} (operand : e.notAmong? = some raws)
      (nonempty : members type raws ≠ [])
  | isEmpty (operand : e.isEmpty? = some false) (textual : type.isTextual = true)

theorem AsksForOther.hasNoOperator {e : FilterExpression} {type : ColumnType}
    (h : e.AsksForOther type) : e.hasNoOperator = false := by
  cases h with
  | ne operand => simp [FilterExpression.hasNoOperator, operand]
  | notAmong operand => simp [FilterExpression.hasNoOperator, operand]
  | isEmpty operand => simp [FilterExpression.hasNoOperator, operand]

theorem columnType?_of_mem_members {type : ColumnType} {raws : List Json} :
    ∀ value ∈ members type raws, value.columnType? = some type := by
  intro value hvalue
  obtain ⟨raw, -, hread⟩ := List.mem_filterMap.1 hvalue
  split at hread
  · cases hread
  · exact (ColumnType.proper_of_convert? hread).2

section Operators

variable {row : Row} {d : Json} {field : FieldPath} {type : ColumnType}

theorem follows_always : row.Follows d always :=
  have hknows : row.Knows d always := rfl
  hknows.follows

theorem follows_never : row.Follows d never :=
  have hknows : row.Knows d never := rfl
  hknows.follows

theorem knows_flagged {flag : Bool} {p : Predicate} (h : row.Knows d p) :
    row.Knows d (flagged flag p) := by
  cases flag
  · exact Row.knows_negate h
  · exact h

variable (h : row.Shares d field type)
include h

theorem follows_eqTest (raw : Json) : row.Follows d (eqTest field type raw) := by
  rw [eqTest]
  split
  · exact (Row.knows_isNull h).follows
  · split
    · next value hvalue =>
      exact Row.follows_compare h (ColumnType.proper_of_convert? hvalue).2 (by decide)
    · exact follows_never

theorem follows_neTest {raw : Json}
    (hasks : row.value? field = none → ∀ value, type.convert? raw ≠ some value) :
    row.Follows d (neTest field type raw) := by
  rw [neTest]
  split
  · exact (Row.knows_negate (Row.knows_isNull h)).follows
  · split
    · next value hvalue =>
      rcases h with hlacks | ⟨v, x, hhas⟩
      · exact absurd hvalue (hasks hlacks.column value)
      · exact (hhas.knows_compare (ColumnType.proper_of_convert? hvalue).2 .ne).follows
    · exact follows_always

theorem follows_amongTest (raws : List Json) : row.Follows d (amongTest field type raws) := by
  have hmembers (hne : members type raws ≠ []) : row.Follows d (among field (members type raws)) :=
    Row.follows_among h hne columnType?_of_mem_members
  exact Row.follows_disj (forall_setParts hmembers (Row.knows_isNull h).follows)

theorem follows_notAmongTest {raws : List Json}
    (hasks : row.value? field = none → members type raws = []) :
    row.Follows d (notAmongTest field type raws) := by
  have hmembers (hne : members type raws ≠ []) :
      row.Follows d (notAmong field (members type raws)) := by
    rcases h with hlacks | ⟨v, x, hhas⟩
    · exact absurd (hasks hlacks.column) hne
    · exact (hhas.knows_notAmong columnType?_of_mem_members).follows
  have hnull := (Row.knows_negate (Row.knows_isNull h)).follows
  exact Row.follows_conj (forall_setParts hmembers hnull)

theorem follows_rangeTest {op : Comparison} (hop : op ≠ .ne) {raw : Json} {p : Predicate}
    (hp : rangeTest field type op raw = some p) : row.Follows d p := by
  rw [rangeTest] at hp
  split at hp
  · cases hp
  · split at hp
    · next value hvalue =>
      cases hp
      exact Row.follows_compare h (ColumnType.proper_of_convert? hvalue).2 hop
    · cases hp
      exact follows_never

theorem follows_emptyTest {flag : Bool} (htextual : type.isTextual = true)
    (hasks : row.value? field = none → flag ≠ false) :
    row.Follows d (flagged flag (isEmpty field)) := by
  cases type with
  | string =>
    cases flag with
    | true => exact Row.follows_isEmpty h
    | false =>
      rcases h with hlacks | ⟨v, x, hhas⟩
      · exact absurd rfl (hasks hlacks.column)
      · exact (Row.knows_negate hhas.knows_isEmpty).follows
  | _ => cases htextual

/-- Null is void, whatever else is asked. -/
theorem knows_voidTest : row.Knows d (voidTest field type.isTextual) := by
  cases type with
  | string =>
    show row.Knows d (disj [.isNull field, .isEmpty field])
    rcases h with hlacks | ⟨v, x, hhas⟩
    · have hshares : row.Shares d field .string := .inl hlacks
      have hnull := Row.knows_isNull hshares
      have hholds : (isNull field).holds d = true := by rw [holds, hlacks.document]; rfl
      have hdisj : (disj [.isNull field, .isEmpty field]).holds d = true :=
        (holds_disj _ _).2 ⟨_, List.mem_cons_self, hholds⟩
      rw [Row.Knows, truthIn_disj, hdisj, Truth.any_eq_true_iff]
      rw [Row.Knows, hholds] at hnull
      exact ⟨_, List.mem_map_of_mem List.mem_cons_self, hnull⟩
    · refine Row.knows_disj fun p hp => ?_
      simp only [List.mem_cons, List.not_mem_nil, or_false] at hp
      rcases hp with rfl | rfl
      · exact Row.knows_isNull (.inr ⟨v, x, hhas⟩)
      · exact hhas.knows_isEmpty
  | _ => exact Row.knows_isNull h

/-! ## Expressions -/

/-- Every operator that does not ask a field without value for another one finds the same. -/
theorem follows_of_mem_tests {e : FilterExpression} (hplain : e.IsPlain)
    (hasks : row.value? field = none → ¬ e.AsksForOther type) {p : Predicate}
    (hp : p ∈ e.tests field type false) : row.Follows d p := by
  simp only [tests, List.mem_append, Option.mem_toList, Option.map_eq_some_iff,
    Option.bind_eq_some_iff, or_assoc, isEmptiable, Bool.false_or] at hp
  rcases hp with ⟨raw, -, rfl⟩ | ⟨raw, hraw, rfl⟩ | ⟨raws, -, rfl⟩ | ⟨raws, hraws, rfl⟩ |
    ⟨raw, -, hp⟩ | ⟨raw, -, hp⟩ | ⟨raw, -, hp⟩ | ⟨raw, -, hp⟩ | ⟨pattern, hpattern, -⟩ |
    ⟨pattern, hpattern, -⟩ | ⟨wanted, -, rfl⟩ | ⟨flag, -, rfl⟩ | ⟨flag, hflag, hp⟩ | ⟨flag, -, rfl⟩
  · exact follows_eqTest h raw
  · exact follows_neTest h fun hnull value hread => hasks hnull (.ne hraw hread)
  · exact follows_amongTest h raws
  · refine follows_notAmongTest h fun hnull => ?_
    by_contra hne
    exact hasks hnull (.notAmong hraws hne)
  · exact follows_rangeTest h (by decide) hp
  · exact follows_rangeTest h (by decide) hp
  · exact follows_rangeTest h (by decide) hp
  · exact follows_rangeTest h (by decide) hp
  · cases hplain.regex.symm.trans hpattern
  · cases hplain.like.symm.trans hpattern
  · exact (Row.knows_present h wanted).follows
  · exact (knows_flagged (Row.knows_isNull h)).follows
  · split at hp
    · next htextual =>
      cases hp
      refine follows_emptyTest h htextual fun hnull hfalse => ?_
      exact hasks hnull (.isEmpty (hfalse ▸ hflag) htextual)
    · cases hp
  · exact (knows_flagged (knows_voidTest h)).follows

omit h in
/-- An operator that asks a null column for another value is not true. -/
theorem exists_not_true_of_asksForOther (hnull : row.value? field = none) {e : FilterExpression}
    (hasks : e.AsksForOther type) :
    ∃ p ∈ e.tests field type false, p.truthIn row [] ≠ some true := by
  cases hasks with
  | @ne raw value operand reads =>
    refine ⟨neTest field type raw, by simp [tests, operand], ?_⟩
    have hraw : raw.isNull = false := by
      cases raw with
      | null => cases (ColumnType.convert?_null type).symm.trans reads
      | _ => rfl
    have htest : neTest field type raw = .compare field .ne value := by simp [neTest, hraw, reads]
    rw [htest]
    show row.compares field .ne value ≠ some true
    simp [Row.compares_of_null hnull]
  | @notAmong raws operand hmembers =>
    refine ⟨notAmongTest field type raws, by simp [tests, operand], ?_⟩
    rw [notAmongTest, truthIn_conj, Ne, Truth.all_eq_true_iff, List.forall_mem_map]
    intro hall
    have htrue := hall (.notAmong field (members type raws)) (by simp [membersPart, hmembers])
    have htruth : (notAmong field (members type raws)).truthIn row []
        = (Truth.any ((members type raws).map (row.compares field .eq))).not := rfl
    rw [htruth, Row.any_compares_of_null hnull hmembers] at htrue
    cases htrue
  | isEmpty operand textual =>
    refine ⟨flagged false (.isEmpty field), by simp [tests, operand, isEmptiable, textual], ?_⟩
    show (row.compares field .eq (.string "")).not ≠ some true
    rw [Row.compares_of_null hnull]
    decide

/-- An expression selects a row exactly if the document satisfies it, and a field without value is
not asked for another. -/
theorem compile_selects_iff {e : FilterExpression} (hplain : e.IsPlain) :
    (e.compile field type false).truthIn row [] = some true ↔
      (e.compile field type false).holds d = true ∧
        (row.value? field = none → ¬ e.AsksForOther type) := by
  have hfollows (hasks : row.value? field = none → ¬ e.AsksForOther type) :
      row.Follows d (e.compile field type false) :=
    Row.follows_conj fun _ hp => follows_of_mem_tests h hplain hasks hp
  constructor
  · intro htrue
    have hasks : row.value? field = none → ¬ e.AsksForOther type := by
      intro hnull hasks
      obtain ⟨p, hp, hne⟩ := exists_not_true_of_asksForOther hnull hasks
      rw [compile, truthIn_conj, Truth.all_eq_true_iff, List.forall_mem_map] at htrue
      exact hne (htrue p hp)
    exact ⟨(hfollows hasks).1 htrue, hasks⟩
  · rintro ⟨hholds, hasks⟩
    exact (hfollows hasks).2 hholds

end Operators

end FilterExpression

/-! ## Queries -/

namespace Sql

theorem valuesAtKey_nil (members : List (String × Json)) (key : String) :
    Json.valuesAtKey members key [] = (Keyed.get? members key).toList := by
  induction members with
  | nil => rfl
  | cons member members ih =>
    obtain ⟨k, v⟩ := member
    rw [Json.valuesAtKey, Keyed.get?]
    split
    · exact json_valuesAt_nil v
    · exact ih

theorem Row.Records.shares {row : Row} {shape : RecordShape} {members : List (String × Json)}
    (h : row.Records shape members) {f : FieldDef} (hf : f ∈ shape.fields) :
    row.Shares (.object members) [f.name] f.kind.columnType := by
  have hdocument : (Json.object members).valuesAt [f.name]
      = (Keyed.get? members f.name).toList := valuesAtKey_nil members f.name
  rcases h f hf with ⟨hcolumn, hmember⟩ | ⟨v, x, hcolumn, hmember, hstores⟩
  · exact .inl ⟨hcolumn, by rw [hdocument, hmember]; rfl⟩
  · exact .inr ⟨v, x, hcolumn, by rw [hdocument, hmember]; rfl, hstores⟩

/-- The condition of the filters on a record of scalars has one reading.  It selects a row exactly
if the document satisfies the predicate and no field without value is asked for a value other than
some value. -/
theorem condition_selects_iff {shape : RecordShape} (hflat : shape.IsFlat)
    {filters : Keyed FilterExpression} (hplain : ∀ entry ∈ filters, entry.2.IsPlain)
    {t : FilterTree} (h : FilterTree.build shape filters = .ok t) (table : Table) :
    ∃ c : Condition, IsReadingOf c table t.predicate ∧
      ∀ (row : Row) (members : List (String × Json)), row.Records shape members →
        (c.truthIn row = some true ↔ t.predicate.holds (.object members) = true ∧
          ∀ entry ∈ filters, ∀ field, shape.resolve entry.1 = .ok field →
            row.value? field.path = none → ¬ entry.2.AsksForOther field.columnType) := by
  obtain ⟨c, hreading, htruth⟩ :=
    exists_reading_truthIn t.isNormal_predicate (FilterTree.isScopeless_build hflat h) table
  refine ⟨c, hreading, fun row members hrecords => ?_⟩
  have hentry (entry : String × FilterExpression) (he : entry ∈ filters)
      (field : ResolvedField) (hfield : shape.resolve entry.1 = .ok field) :
      (entry.2.compile field.path (typeInForce entry.2 field) false).truthIn row [] = some true ↔
        (entry.2.compile field.path (typeInForce entry.2 field) false).holds (.object members)
            = true ∧
          (row.value? field.path = none → ¬ entry.2.AsksForOther field.columnType) := by
    obtain ⟨f, hf, rfl⟩ := hflat.field_of_resolve hfield
    rw [typeInForce, (hplain entry he).columnType]
    exact FilterExpression.compile_selects_iff (hrecords.shares hf) (hplain entry he)
  have hcolumns {p : Predicate} := FilterTree.mem_columnsOf_build_iff hflat h (p := p)
  rw [htruth, FilterTree.predicate, FilterTree.searchPart,
    (FilterTree.isRowOfLeaves_build hflat h).search, truthIn_conj, Truth.all_eq_true_iff,
    List.forall_mem_map, List.forall_mem_singleton, truthIn_conj, Truth.all_eq_true_iff,
    List.forall_mem_map, holds_conj, List.forall_mem_singleton, holds_conj]
  constructor
  · intro htrue
    refine ⟨fun p hp => ?_, fun entry he field hfield hnull hasks => ?_⟩
    · obtain ⟨entry, he, field, hfield, -, rfl⟩ := hcolumns.1 hp
      exact ((hentry entry he field hfield).1 (htrue _ hp)).1
    · have hp := hcolumns.2 ⟨entry, he, field, hfield, hasks.hasNoOperator, rfl⟩
      exact ((hentry entry he field hfield).1 (htrue _ hp)).2 hnull hasks
  · rintro ⟨hholds, hasks⟩ p hp
    obtain ⟨entry, he, field, hfield, -, rfl⟩ := hcolumns.1 hp
    exact (hentry entry he field hfield).2 ⟨hholds _ hp, hasks entry he field hfield⟩

/-! ### A row that is lost -/

/-- Tickets with a state and a priority. -/
def ticketShape : RecordShape :=
  ⟨"Ticket", [⟨"state", none, .scalar .string⟩, ⟨"priority", none, .scalar .i64⟩]⟩

/-- Tickets that are not closed, of some priority. -/
def pendingFilters : Keyed FilterExpression := [
  ("state", { ne? := some (.string "closed") }),
  ("priority", { gte? := some (.ofInt 2) })]

def pendingTree : FilterTree where
  root := ⟨"", false, [], false, [
    ⟨"state", false, [⟨.string, { ne? := some (.string "closed") }⟩], false, []⟩,
    ⟨"priority", false, [⟨.integer, { gte? := some (.ofInt 2) }⟩], false, []⟩]⟩
  search? := none

def ticketTable : Table where
  name := "tickets"
  dialect := .postgres

/-- A ticket of priority 3 in some state, or in none. -/
def ticketRow (state? : Option String) : Row where
  value? column :=
    if column = ["state"] then state?.map .string
    else if column = ["priority"] then some (.integer 3)
    else none
  patternTruth _ := none

/-- The document of a ticket. -/
def ticketMembers (state? : Option String) : List (String × Json) :=
  Json.member "state" .string state? ++ [("priority", .ofInt 3)]

theorem ticketRow_records (state? : Option String) :
    (ticketRow state?).Records ticketShape (ticketMembers state?) := by
  intro f hf
  simp only [ticketShape, List.mem_cons, List.not_mem_nil, or_false] at hf
  rcases hf with rfl | rfl
  · cases state? with
    | none => exact .inl ⟨rfl, rfl⟩
    | some state => exact .inr ⟨_, _, rfl, rfl, .string state⟩
  · refine .inr ⟨_, _, rfl, ?_, .integer (n := 3) (by decide)⟩
    cases state? <;> rfl

theorem pending_selects_open :
    ∃ c : Condition, IsReadingOf c ticketTable pendingTree.predicate ∧
      c.truthIn (ticketRow (some "open")) = some true ∧
      c.truthIn (ticketRow none) ≠ some true := by
  have hflat : ticketShape.IsFlat := by
    intro f hf
    simp only [ticketShape, List.mem_cons, List.not_mem_nil, or_false] at hf
    rcases hf with rfl | rfl <;> exact ⟨_, rfl⟩
  have hplain : ∀ entry ∈ pendingFilters, entry.2.IsPlain := by
    intro entry hentry
    simp only [pendingFilters, List.mem_cons, List.not_mem_nil, or_false] at hentry
    rcases hentry with rfl | rfl <;> exact ⟨rfl, rfl, rfl⟩
  have hbuild : FilterTree.build ticketShape pendingFilters = .ok pendingTree := rfl
  obtain ⟨c, hreading, hselects⟩ := condition_selects_iff hflat hplain hbuild ticketTable
  refine ⟨c, hreading, ?_, fun htrue => ?_⟩
  · refine (hselects _ _ (ticketRow_records (some "open"))).2 ⟨rfl, ?_⟩
    intro entry hentry field hfield hnull
    simp only [pendingFilters, List.mem_cons, List.not_mem_nil, or_false] at hentry
    rcases hentry with rfl | rfl <;> cases hfield <;> cases hnull
  · obtain ⟨-, hasks⟩ := (hselects _ _ (ticketRow_records none)).1 htrue
    exact hasks ("state", _) List.mem_cons_self _ rfl rfl (.ne rfl rfl)

/-- A ticket without state is found among the documents, and not by the statement. -/
theorem pending_loses_ticket_without_state :
    FilterTree.build ticketShape pendingFilters = .ok pendingTree ∧
    (ticketTable.condition pendingTree.predicate).text = "\"state\" <> $1 AND \"priority\" >= $2" ∧
    (ticketRow none).Records ticketShape (ticketMembers none) ∧
    pendingTree.predicate.holds (.object (ticketMembers none)) = true ∧
    ∃ c : Condition, IsReadingOf c ticketTable pendingTree.predicate ∧
      c.truthIn (ticketRow none) = none := by
  refine ⟨rfl, by decide +kernel, ticketRow_records none, rfl, reading [] pendingTree.predicate,
    isReadingOf_reading ?_ ticketTable, rfl⟩
  have hpredicate : pendingTree.predicate = .and [.compare ["state"] .ne (.string "closed"),
      .compare ["priority"] .gte (.integer 2)] := rfl
  rw [hpredicate]
  simp [IsSolid, AreSolid]

end Sql

end ListingQuery
