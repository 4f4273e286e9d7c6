import ListingQuery.Proofs.Filter.Operators
import ListingQuery.Proofs.Filter.Typed

/-!
# Laws of the operators

Operators that are compiled apart obey the laws that their names promise, also where a field has no
value or many, and where a literal is null or does not read as a value of the type:

    ne is the negation of eq, nin that of in, and in is eq with some member
    gte is gt or eq, lte is lt or eq                   (where the type has an order, and not for null)
    a flag that is false is the negation of one that is true              (operators_obey_laws)
-/

namespace ListingQuery.FilterExpression

open Predicate

/-- The laws that tie the operators together, for what is accepted at a field of the type. -/
structure ObeysLaws (type : ColumnType) (isList : Bool) (accepts : FilterExpression → Bool) :
    Prop where
  ne : ∀ v, accepts { ne? := some v } = !accepts { eq? := some v }
  notAmong : ∀ vs, accepts { notAmong? := some vs } = !accepts { among? := some vs }
  among : ∀ vs, accepts { among? := some vs } = true ↔ ∃ v ∈ vs, accepts { eq? := some v } = true
  gte : ∀ v, type.isComparable = true → v.isNull = false →
    accepts { gte? := some v } = (accepts { gt? := some v } || accepts { eq? := some v })
  lte : ∀ v, type.isComparable = true → v.isNull = false →
    accepts { lte? := some v } = (accepts { lt? := some v } || accepts { eq? := some v })
  present : accepts { exists? := some false } = !accepts { exists? := some true }
  isNull : accepts { isNull? := some false } = !accepts { isNull? := some true }
  isVoid : accepts { isVoid? := some false } = !accepts { isVoid? := some true }
  isEmpty : isEmptiable type isList = true →
    accepts { isEmpty? := some false } = !accepts { isEmpty? := some true }

variable (field : FieldPath) (type : ColumnType) (isList : Bool) (d : Json)

/-! ## Equality and its negation -/

theorem holds_neTest (raw : Json) :
    (neTest field type raw).holds d = !(eqTest field type raw).holds d := by
  rw [neTest, eqTest]
  split
  · exact holds_negate _ _
  · split <;> rfl

theorem holds_flagged_false (p : Predicate) : (flagged false p).holds d = !p.holds d :=
  holds_negate p d

/-- Null equals what is null, and a literal that reads as a value what equals this value. -/
theorem holds_eqTest_iff (raw : Json) : (eqTest field type raw).holds d = true ↔
    raw.isNull = true ∧ (Predicate.isNull field).holds d = true ∨
      raw.isNull = false ∧ ∃ v, type.convert? raw = some v ∧
        (d.elementsAt field).any v.equalsStored = true := by
  rw [eqTest]
  cases raw.isNull with
  | true => simp
  | false =>
    cases type.convert? raw with
    | none => simp
    | some v => simp [holds, comparesAny]

/-! ## Sets -/

theorem mem_members_iff {raws : List Json} {v : Literal} : v ∈ members type raws ↔
    ∃ raw ∈ raws, raw.isNull = false ∧ type.convert? raw = some v := by
  simp [members, List.mem_filterMap]

theorem anyAmong_iff {found : List Json} {values : List Literal} : anyAmong found values = true ↔
    ∃ v ∈ values, found.any v.equalsStored = true := by
  simp only [anyAmong, List.any_eq_true]
  constructor
  · rintro ⟨e, he, v, hv, heq⟩
    exact ⟨v, hv, e, he, heq⟩
  · rintro ⟨v, hv, e, he, heq⟩
    exact ⟨e, he, v, hv, heq⟩

theorem anyAmong_nil (found : List Json) : anyAmong found [] = false := by
  simp [anyAmong]

theorem amongTest_holds (raws : List Json) : (amongTest field type raws).holds d =
    (anyAmong (d.elementsAt field) (members type raws) ||
      raws.any (·.isNull) && (Predicate.isNull field).holds d) := by
  rw [Bool.eq_iff_iff, amongTest, holds_disj, membersPart, nullPart]
  cases hvalues : members type raws with
  | nil => cases raws.any (·.isNull) <;> simp [anyAmong_nil]
  | cons v values => cases raws.any (·.isNull) <;> simp [holds]

theorem notAmongTest_holds (raws : List Json) : (notAmongTest field type raws).holds d =
    (!anyAmong (d.elementsAt field) (members type raws) &&
      !(raws.any (·.isNull) && (Predicate.isNull field).holds d)) := by
  rw [Bool.eq_iff_iff, notAmongTest, holds_conj, membersPart, nullPart]
  cases hvalues : members type raws with
  | nil => cases raws.any (·.isNull) <;> simp [anyAmong_nil, holds_negate]
  | cons v values => cases raws.any (·.isNull) <;> simp [holds, holds_negate]

/-- A set has what equals one of its members. -/
theorem holds_amongTest_iff (raws : List Json) : (amongTest field type raws).holds d = true ↔
    ∃ raw ∈ raws, (eqTest field type raw).holds d = true := by
  simp only [amongTest_holds, holds_eqTest_iff, Bool.or_eq_true, Bool.and_eq_true, anyAmong_iff,
    mem_members_iff, List.any_eq_true]
  constructor
  · rintro (⟨v, ⟨raw, hraw, hsome, hv⟩, heq⟩ | ⟨⟨raw, hraw, hnull⟩, hholds⟩)
    · exact ⟨raw, hraw, .inr ⟨hsome, v, hv, heq⟩⟩
    · exact ⟨raw, hraw, .inl ⟨hnull, hholds⟩⟩
  · rintro ⟨raw, hraw, ⟨hnull, hholds⟩ | ⟨hsome, v, hv, heq⟩⟩
    · exact .inr ⟨⟨raw, hraw, hnull⟩, hholds⟩
    · exact .inl ⟨v, ⟨raw, hraw, hsome, hv⟩, heq⟩

/-! ## Ranges -/

/-- The weaker comparison asks for the stricter one or for equality. -/
def IsOrEqual (weak strict : Comparison) : Prop :=
  weak = .gte ∧ strict = .gt ∨ weak = .lte ∧ strict = .lt

theorem comparesAny_orEqual {weak strict : Comparison} (hweak : IsOrEqual weak strict)
    {value : Literal} (hvalue : value.isNull = false) (found : List Json) :
    comparesAny found weak value = (comparesAny found strict value || comparesAny found .eq value) := by
  have hequals (v : Json) : value.equalsStored v = (value.compareStored? v == some .eq) := by
    simp [Literal.equalsStored, hvalue]
  have hfound (found : List Json) :
      comparesAny found .eq value = found.any fun v => value.compareStored? v == some .eq :=
    congrArg found.any (funext hequals)
  rw [hfound]
  rcases hweak with ⟨rfl, rfl⟩ | ⟨rfl, rfl⟩ <;> induction found with
  | nil => rfl
  | cons v found ih =>
    simp only [comparesAny, List.any_cons] at ih ⊢
    rw [ih]
    cases value.compareStored? v with
    | none => simp
    | some o => cases o <;> simp [Comparison.admits]

/-- What a range test makes of a literal that is not null. -/
theorem rangeTest_holds {weak strict : Comparison} (hweak : IsOrEqual weak strict)
    (hcomparable : type.isComparable = true) {raw : Json} (hraw : raw.isNull = false) :
    ∃ p q, rangeTest field type weak raw = some p ∧ rangeTest field type strict raw = some q ∧
      p.holds d = (q.holds d || (eqTest field type raw).holds d) := by
  simp only [rangeTest, eqTest, hcomparable, hraw]
  cases hv : type.convert? raw with
  | none => exact ⟨_, _, rfl, rfl, rfl⟩
  | some v =>
    have hvalue : v.isNull = false := by
      cases v with
      | null => cases (ColumnType.proper_of_convert? hv).2
      | _ => rfl
    exact ⟨_, _, rfl, rfl, comparesAny_orEqual hweak hvalue _⟩

/-! ## Expressions -/

variable {field type isList d}

/-- An expression with one operator means what the predicate of the operator means. -/
theorem accepts_eq_of_tests_eq {e : FilterExpression} {p : Predicate}
    (h : e.tests field type isList = [p]) : e.accepts field type isList d = p.holds d := by
  rw [accepts, compile, h, Bool.eq_iff_iff, holds_conj, List.forall_mem_singleton]

theorem accepts_eq (v : Json) : accepts { eq? := some v } field type isList d =
    (eqTest field type v).holds d :=
  accepts_eq_of_tests_eq (by simp [tests])

theorem accepts_among (vs : List Json) : accepts { among? := some vs } field type isList d =
    (amongTest field type vs).holds d :=
  accepts_eq_of_tests_eq (by simp [tests])

/-- The expression that compares with one literal. -/
def comparing (op : Comparison) (raw : Json) : FilterExpression :=
  match op with
  | .eq => { eq? := some raw }
  | .ne => { ne? := some raw }
  | .gt => { gt? := some raw }
  | .gte => { gte? := some raw }
  | .lt => { lt? := some raw }
  | .lte => { lte? := some raw }

theorem accepts_range {op : Comparison} {raw : Json} {p : Predicate} (hne : op ≠ .ne)
    (heq : op ≠ .eq) (hp : rangeTest field type op raw = some p) :
    (comparing op raw).accepts field type isList d = p.holds d :=
  accepts_eq_of_tests_eq (by cases op <;> simp_all [comparing, tests])

theorem accepts_orEqual {weak strict : Comparison} (hweak : IsOrEqual weak strict) {raw : Json}
    (hcomparable : type.isComparable = true) (hraw : raw.isNull = false) :
    (comparing weak raw).accepts field type isList d =
      ((comparing strict raw).accepts field type isList d ||
        accepts { eq? := some raw } field type isList d) := by
  obtain ⟨p, q, hp, hq, hholds⟩ := rangeTest_holds field type d hweak hcomparable hraw
  have hweak' : weak ≠ .ne ∧ weak ≠ .eq := by rcases hweak with ⟨rfl, -⟩ | ⟨rfl, -⟩ <;> decide
  have hstrict : strict ≠ .ne ∧ strict ≠ .eq := by rcases hweak with ⟨-, rfl⟩ | ⟨-, rfl⟩ <;> decide
  rw [accepts_range hweak'.1 hweak'.2 hp, accepts_range hstrict.1 hstrict.2 hq, accepts_eq, hholds]

variable (field type isList d)

/-- The operators obey their laws at every field, on every document. -/
theorem operators_obey_laws :
    ObeysLaws type isList fun e => e.accepts field type isList d where
  ne v := by
    rw [accepts_eq, ← holds_neTest]
    exact accepts_eq_of_tests_eq (by simp [tests])
  notAmong vs := by
    rw [accepts_among, amongTest_holds, Bool.not_or, ← notAmongTest_holds]
    exact accepts_eq_of_tests_eq (by simp [tests])
  among vs := by
    simp only [accepts_among, accepts_eq]
    exact holds_amongTest_iff field type d vs
  gte _ hcomparable hv := accepts_orEqual (.inl ⟨rfl, rfl⟩) hcomparable hv
  lte _ hcomparable hv := accepts_orEqual (.inr ⟨rfl, rfl⟩) hcomparable hv
  present := by
    have hpresent (wanted : Bool) : accepts { exists? := some wanted } field type isList d =
        (Predicate.present field wanted).holds d := accepts_eq_of_tests_eq (by simp [tests])
    rw [hpresent, hpresent]
    simp [holds]
  isNull := by
    have hflag (flag : Bool) : accepts { isNull? := some flag } field type isList d =
        (flagged flag (.isNull field)).holds d := accepts_eq_of_tests_eq (by simp [tests])
    rw [hflag, hflag]
    exact holds_flagged_false d _
  isVoid := by
    have hflag (flag : Bool) : accepts { isVoid? := some flag } field type isList d =
        (flagged flag (voidTest field (isEmptiable type isList))).holds d :=
      accepts_eq_of_tests_eq (by simp [tests])
    rw [hflag, hflag]
    exact holds_flagged_false d _
  isEmpty hemptiable := by
    have hflag (flag : Bool) : accepts { isEmpty? := some flag } field type isList d =
        (flagged flag (.isEmpty field)).holds d :=
      accepts_eq_of_tests_eq (by simp [tests, hemptiable])
    rw [hflag, hflag]
    exact holds_flagged_false d _

/-- A field with the tags a and b has a tag that is b or above exactly if one is above b or is b. -/
theorem tags_obey_laws :
    let tags : Json := .object [("tags", .array [.string "a", .string "b"])]
    ColumnType.string.isComparable = true ∧ (Json.string "b").isNull = false ∧
    isEmptiable .string true = true ∧
    accepts { gte? := some (.string "b") } ["tags"] .string true tags =
      (accepts { gt? := some (.string "b") } ["tags"] .string true tags ||
        accepts { eq? := some (.string "b") } ["tags"] .string true tags) ∧
    accepts { isEmpty? := some false } ["tags"] .string true tags =
      !accepts { isEmpty? := some true } ["tags"] .string true tags := by
  intro tags
  have hlaws := operators_obey_laws ["tags"] .string true tags
  exact ⟨rfl, rfl, rfl, hlaws.gte _ rfl rfl, hlaws.isEmpty rfl⟩

end ListingQuery.FilterExpression
