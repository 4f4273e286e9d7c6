import ListingQuery.Proofs.Filter.Normal

/-!
# Expressions that ask for nothing

An expression compiles to the predicate that always holds if none of its operators applies, or if
those that do hold of everything.  That is so at every path or at none.
-/

namespace ListingQuery

open Predicate

namespace FilterExpression
variable (f g : FieldPath) (type : ColumnType)

/-! ## Operators -/

theorem isAlways_eqTest (raw : Json) :
    (eqTest f type raw).isAlways = (eqTest g type raw).isAlways := by
  rw [eqTest, eqTest]
  split
  · rfl
  · split <;> rfl

theorem isAlways_neTest (raw : Json) :
    (neTest f type raw).isAlways = (neTest g type raw).isAlways := by
  rw [neTest, neTest]
  split
  · rfl
  · split <;> rfl

theorem isAlways_amongTest (raws : List Json) :
    (amongTest f type raws).isAlways = (amongTest g type raws).isAlways := by
  rw [amongTest, amongTest, membersPart, membersPart, nullPart, nullPart]
  cases (members type raws).isEmpty <;> cases raws.any (·.isNull) <;> rfl

theorem isAlways_notAmongTest (raws : List Json) :
    (notAmongTest f type raws).isAlways = (notAmongTest g type raws).isAlways := by
  rw [notAmongTest, notAmongTest, membersPart, membersPart, nullPart, nullPart]
  cases (members type raws).isEmpty <;> cases raws.any (·.isNull) <;> rfl

theorem isAlways_rangeTest (op : Comparison) (raw : Json) :
    (rangeTest f type op raw).map isAlways = (rangeTest g type op raw).map isAlways := by
  rw [rangeTest, rangeTest]
  split
  · rfl
  · split <;> rfl

theorem isAlways_regexTest (pattern : String) :
    (regexTest f type pattern).map isAlways = (regexTest g type pattern).map isAlways := by
  rw [regexTest, regexTest]
  split
  · rfl
  · split <;> rfl

theorem isAlways_likeTest (pattern : String) :
    (likeTest f type pattern).map isAlways = (likeTest g type pattern).map isAlways := by
  rw [likeTest, likeTest]
  split <;> rfl

theorem isAlways_flagged_voidTest (flag emptiable : Bool) :
    (flagged flag (voidTest f emptiable)).isAlways
      = (flagged flag (voidTest g emptiable)).isAlways := by
  cases flag <;> cases emptiable <;> rfl

/-! ## Expressions -/

theorem map_isAlways_map {α : Type} {o : Option α} {t u : α → Predicate}
    (h : ∀ a, (t a).isAlways = (u a).isAlways) :
    (o.map t).toList.map isAlways = (o.map u).toList.map isAlways := by
  cases o with
  | none => rfl
  | some a => simp [h a]

theorem map_isAlways_bind {α : Type} {o : Option α} {t u : α → Option Predicate}
    (h : ∀ a, (t a).map isAlways = (u a).map isAlways) :
    (o.bind t).toList.map isAlways = (o.bind u).toList.map isAlways := by
  cases o with
  | none => rfl
  | some a => simp [← Option.toList_map, h a]

/-- Operator by operator, the path does not decide which tests always hold. -/
theorem map_isAlways_tests (e : FilterExpression) (isList : Bool) :
    (e.tests f type isList).map isAlways = (e.tests g type isList).map isAlways := by
  have hpresent (wanted : Bool) :
      (Predicate.present f wanted).isAlways = (Predicate.present g wanted).isAlways := rfl
  have hnull (flag : Bool) :
      (flagged flag (.isNull f)).isAlways = (flagged flag (.isNull g)).isAlways := by
    cases flag <;> rfl
  have hempty (flag : Bool) :
      (if isEmptiable type isList then some (flagged flag (.isEmpty f)) else none).map isAlways
        = (if isEmptiable type isList then some (flagged flag (.isEmpty g)) else none).map
          isAlways := by
    split
    · cases flag <;> rfl
    · rfl
  simp only [tests, List.map_append, map_isAlways_map (isAlways_eqTest f g type),
    map_isAlways_map (isAlways_neTest f g type), map_isAlways_map (isAlways_amongTest f g type),
    map_isAlways_map (isAlways_notAmongTest f g type),
    map_isAlways_bind (isAlways_rangeTest f g type .gt),
    map_isAlways_bind (isAlways_rangeTest f g type .gte),
    map_isAlways_bind (isAlways_rangeTest f g type .lt),
    map_isAlways_bind (isAlways_rangeTest f g type .lte),
    map_isAlways_bind (isAlways_regexTest f g type), map_isAlways_bind (isAlways_likeTest f g type),
    map_isAlways_map hpresent, map_isAlways_map hnull, map_isAlways_bind hempty,
    map_isAlways_map fun flag => isAlways_flagged_voidTest f g flag (isEmptiable type isList)]

theorem eq_always_iff_isAlways (p : Predicate) : p = .always ↔ p.isAlways = true := by
  cases p <;> simp [isAlways]

/-- Whether an expression compiles to the predicate that always holds does not depend on the path. -/
theorem compile_eq_always_iff (e : FilterExpression) (isList : Bool) :
    e.compile f type isList = .always ↔ e.compile g type isList = .always := by
  have key (field : FieldPath) : e.compile field type isList = .always ↔
      ∀ b ∈ (e.tests field type isList).map isAlways, b = true := by
    rw [compile, conj_eq_always_iff fun _ h => isNormal_of_mem_tests h, List.forall_mem_map]
    simp only [eq_always_iff_isAlways]
  rw [key f, key g, map_isAlways_tests f g]

end FilterExpression

end ListingQuery
