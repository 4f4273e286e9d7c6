import ListingQuery.Filter.Compilation
import ListingQuery.Proofs.Predicate.Meaning

/-!
# Operators one by one

The operators of an expression do not know of each other.  Each yields one predicate or, where the
type has no use for it, none; a document satisfies the expression exactly if it satisfies the
expressions that hold one of its operators each, and operators without use may be left out.

    e.tests = the tests of all operators, in order                            (tests_eq_flatMap)
    e.accepts d ↔ (e.only op).accepts d for every op that e sets              (operators_compose)
-/

namespace ListingQuery

/-- What an expression may ask of a field. -/
inductive Operator where
  | eq
  | ne
  | among
  | notAmong
  | gt
  | gte
  | lt
  | lte
  | regex
  | like
  | present
  | isNull
  | isEmpty
  | isVoid
  deriving DecidableEq, Repr

namespace Operator

/-- All operators, in the order in which they are compiled. -/
def all : List Operator :=
  [eq, ne, among, notAmong, gt, gte, lt, lte, regex, like, present, isNull, isEmpty, isVoid]

/-- Whether fields of the type have a use for the operator; `isList` says that they hold lists. -/
def appliesTo (type : ColumnType) (isList : Bool) : Operator → Bool
  | gt | gte | lt | lte => type != .boolean
  | regex | like => type == .string
  | isEmpty => isList || type == .string
  | _ => true

theorem mem_all (op : Operator) : op ∈ all := by
  cases op <;> decide

end Operator

namespace FilterExpression

/-- Whether the expression has the operator. -/
def sets (e : FilterExpression) : Operator → Bool
  | .eq => e.eq?.isSome
  | .ne => e.ne?.isSome
  | .among => e.among?.isSome
  | .notAmong => e.notAmong?.isSome
  | .gt => e.gt?.isSome
  | .gte => e.gte?.isSome
  | .lt => e.lt?.isSome
  | .lte => e.lte?.isSome
  | .regex => e.regex?.isSome
  | .like => e.like?.isSome
  | .present => e.exists?.isSome
  | .isNull => e.isNull?.isSome
  | .isEmpty => e.isEmpty?.isSome
  | .isVoid => e.isVoid?.isSome

/-- The expression with the operators that are kept, and no other. -/
def keep (kept : Operator → Bool) (e : FilterExpression) : FilterExpression where
  columnType? := e.columnType?
  eq? := if kept .eq then e.eq? else none
  ne? := if kept .ne then e.ne? else none
  among? := if kept .among then e.among? else none
  notAmong? := if kept .notAmong then e.notAmong? else none
  gt? := if kept .gt then e.gt? else none
  gte? := if kept .gte then e.gte? else none
  lt? := if kept .lt then e.lt? else none
  lte? := if kept .lte then e.lte? else none
  regex? := if kept .regex then e.regex? else none
  like? := if kept .like then e.like? else none
  exists? := if kept .present then e.exists? else none
  isNull? := if kept .isNull then e.isNull? else none
  isEmpty? := if kept .isEmpty then e.isEmpty? else none
  isVoid? := if kept .isVoid then e.isVoid? else none

/-- The expression with one operator alone. -/
def only (op : Operator) (e : FilterExpression) : FilterExpression := e.keep fun o => o == op

/-- Whether a document satisfies the expression at a field. -/
def accepts (e : FilterExpression) (field : FieldPath) (type : ColumnType) (isList : Bool)
    (d : Json) : Bool :=
  (e.compile field type isList).holds d

/-- The predicate of one operator, if it is set and applies. -/
def test? (e : FilterExpression) (field : FieldPath) (type : ColumnType) (isList : Bool) :
    Operator → Option Predicate
  | .eq => e.eq?.map (eqTest field type)
  | .ne => e.ne?.map (neTest field type)
  | .among => e.among?.map (amongTest field type)
  | .notAmong => e.notAmong?.map (notAmongTest field type)
  | .gt => e.gt?.bind (rangeTest field type .gt)
  | .gte => e.gte?.bind (rangeTest field type .gte)
  | .lt => e.lt?.bind (rangeTest field type .lt)
  | .lte => e.lte?.bind (rangeTest field type .lte)
  | .regex => e.regex?.bind (regexTest field type)
  | .like => e.like?.bind (likeTest field type)
  | .present => e.exists?.map (Predicate.present field)
  | .isNull => e.isNull?.map (flagged · (.isNull field))
  | .isEmpty => e.isEmpty?.bind fun flag =>
      if isEmptiable type isList then some (flagged flag (.isEmpty field)) else none
  | .isVoid => e.isVoid?.map (flagged · (voidTest field (isEmptiable type isList)))

variable {e : FilterExpression} {field : FieldPath} {type : ColumnType} {isList : Bool}
  {op : Operator} {d : Json}

/-! ## Tests -/

theorem tests_eq_flatMap (e : FilterExpression) (field : FieldPath) (type : ColumnType)
    (isList : Bool) : e.tests field type isList =
      Operator.all.flatMap fun op => (e.test? field type isList op).toList := by
  simp only [tests, Operator.all, List.flatMap_cons, List.flatMap_nil, test?, List.append_assoc,
    List.append_nil]

theorem mem_tests_iff {p : Predicate} :
    p ∈ e.tests field type isList ↔ ∃ op, e.test? field type isList op = some p := by
  simp [tests_eq_flatMap, Operator.mem_all]

/-- What is kept is tested as before, and nothing else is. -/
theorem test?_keep (kept : Operator → Bool) (e : FilterExpression) (op : Operator) :
    (e.keep kept).test? field type isList op =
      if kept op then e.test? field type isList op else none := by
  cases op <;> simp only [keep, test?] <;> split <;> rfl

theorem sets_of_test?_eq_some {p : Predicate} (h : e.test? field type isList op = some p) :
    e.sets op = true := by
  cases op <;> simp only [test?, Option.map_eq_some_iff, Option.bind_eq_some_iff] at h <;>
    obtain ⟨_, hset, -⟩ := h <;> simp [sets, hset]

/-- An operator without use is not tested. -/
theorem test?_eq_none_of_not_appliesTo (h : op.appliesTo type isList = false) :
    e.test? field type isList op = none := by
  have hrange {raw? : Option Json} {cmp : Comparison} (h : (type != .boolean) = false) :
      raw?.bind (rangeTest field type cmp) = none := by
    obtain rfl : type = .boolean := by simpa using h
    cases raw? <;> rfl
  have htext {α : Type} {pattern? : Option α} {test : α → Option Predicate}
      (h : ∀ a, test a = none) : pattern?.bind test = none := by
    cases pattern? <;> simp [h]
  have hplain (h : (type == .string) = false) : type.isTextual = false := by
    cases type <;> first | rfl | cases h
  cases op with
  | gt | gte | lt | lte => exact hrange h
  | regex => exact htext fun pattern => by simp [regexTest, hplain h]
  | like => exact htext fun pattern => by simp [likeTest, hplain h]
  | isEmpty =>
    obtain ⟨rfl, h⟩ := Bool.or_eq_false_iff.1 h
    exact htext fun flag => by simp [isEmptiable, hplain h]
  | _ => cases h

/-! ## Expressions -/

theorem accepts_iff : e.accepts field type isList d = true ↔
    ∀ op p, e.test? field type isList op = some p → p.holds d = true := by
  rw [accepts, compile, Predicate.holds_conj]
  simp only [mem_tests_iff, forall_exists_index]
  exact forall_comm

theorem accepts_only_iff : (e.only op).accepts field type isList d = true ↔
    ∀ p, e.test? field type isList op = some p → p.holds d = true := by
  simp only [accepts_iff, only, test?_keep]
  constructor
  · intro h p hp
    exact h op p (by simpa using hp)
  · intro h o p hp
    split at hp
    · next ho => exact h p (beq_iff_eq.1 ho ▸ hp)
    · cases hp

/-- A document satisfies an expression exactly if it satisfies its operators one by one.  Operators
that the type has no use for leave no trace, and an expression with more operators asks for more. -/
theorem operators_compose (e : FilterExpression) (field : FieldPath) (type : ColumnType)
    (isList : Bool) :
    (∀ d, e.accepts field type isList d = true ↔
      ∀ op, e.sets op = true → (e.only op).accepts field type isList d = true) ∧
    (e.keep fun op => op.appliesTo type isList).compile field type isList =
      e.compile field type isList ∧
    ∀ e' : FilterExpression, e'.keep e.sets = e → ∀ d,
      e'.accepts field type isList d = true → e.accepts field type isList d = true := by
  refine ⟨fun d => ?_, ?_, fun e' he' d h => ?_⟩
  · simp only [accepts_only_iff]
    rw [accepts_iff]
    exact forall_congr' fun op =>
      ⟨fun h _ => h, fun h p hp => h (sets_of_test?_eq_some hp) p hp⟩
  · have htests (op : Operator) :
        (e.keep fun op => op.appliesTo type isList).test? field type isList op =
          e.test? field type isList op := by
      rw [test?_keep]
      split
      · rfl
      · next h => rw [test?_eq_none_of_not_appliesTo (Bool.eq_false_iff.2 h)]
    rw [compile, compile, tests_eq_flatMap, tests_eq_flatMap]
    simp only [htests]
  · rw [accepts_iff] at h ⊢
    intro op p hp
    rw [← he', test?_keep] at hp
    split at hp
    · exact h op p hp
    · cases hp

/-- From the age of eighteen on. -/
def adults : FilterExpression := { gte? := some (.ofInt 18) }

/-- From the age of eighteen on, and below thirty. -/
def youngAdults : FilterExpression := { gte? := some (.ofInt 18), lt? := some (.ofInt 30) }

theorem youngAdults_are_adults : youngAdults.keep adults.sets = adults ∧
    youngAdults.accepts ["age"] .integer false (.object [("age", .ofInt 20)]) = true ∧
    adults.accepts ["age"] .integer false (.object [("age", .ofInt 20)]) = true := by
  have hmore : youngAdults.keep adults.sets = adults := rfl
  have hyoung : youngAdults.accepts ["age"] .integer false (.object [("age", .ofInt 20)]) = true :=
    by decide
  exact ⟨hmore, hyoung,
    (operators_compose adults ["age"] .integer false).2.2 youngAdults hmore _ hyoung⟩

end FilterExpression

end ListingQuery
