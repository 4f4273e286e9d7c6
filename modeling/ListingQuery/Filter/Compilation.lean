import ListingQuery.Filter.Expression
import ListingQuery.Literal.Conversion
import ListingQuery.Predicate.Basic
import ListingQuery.Regex.Parser

/-!
# Compiling filter expressions

Every operator that is set yields one predicate, and all of them have to hold.  The column type
decides what applies:

    eq, ne, in, nin, exists, isNull     to every type
    gt, gte, lt, lte                    to every type but booleans
    regex, like                         to strings
    isEmpty                             to strings and lists
    isVoid                              null or empty, where empty applies; else null

What does not apply is left out.  A literal that does not read as a value of the type equals nothing:
`eq` and the range operators never hold, `ne` always does, and sets go without it.
-/

namespace ListingQuery.FilterExpression

open Predicate (conj disj negate)

/-! ## Operators -/

/-- A predicate, or its negation where the flag is false. -/
def flagged (flag : Bool) (p : Predicate) : Predicate := if flag then p else negate p

/-- Equality; null is equal to what is null. -/
def eqTest (field : FieldPath) (type : ColumnType) (raw : Json) : Predicate :=
  if raw.isNull then .isNull field
  else
    match type.convert? raw with
    | some value => .compare field .eq value
    | none => .never

/-- Inequality, the negation of equality. -/
def neTest (field : FieldPath) (type : ColumnType) (raw : Json) : Predicate :=
  if raw.isNull then negate (.isNull field)
  else
    match type.convert? raw with
    | some value => .compare field .ne value
    | none => .always

/-- The members of a set that read as values of the type. -/
def members (type : ColumnType) (raws : List Json) : List Literal :=
  raws.filterMap fun raw => if raw.isNull then none else type.convert? raw

/-- The predicate on the null marker of a set, if the set has it. -/
def nullPart (raws : List Json) (p : Predicate) : List Predicate :=
  if raws.any (·.isNull) then [p] else []

/-- The predicate on the members of a set, if there are any. -/
def membersPart (values : List Literal) (p : Predicate) : List Predicate :=
  if values.isEmpty then [] else [p]

/-- Membership in a set. -/
def amongTest (field : FieldPath) (type : ColumnType) (raws : List Json) : Predicate :=
  let values := members type raws
  disj (membersPart values (.among field values) ++ nullPart raws (.isNull field))

/-- Membership in no set. -/
def notAmongTest (field : FieldPath) (type : ColumnType) (raws : List Json) : Predicate :=
  let values := members type raws
  conj (membersPart values (.notAmong field values) ++ nullPart raws (negate (.isNull field)))

/-- A range test, for types that have an order. -/
def rangeTest (field : FieldPath) (type : ColumnType) (op : Comparison) (raw : Json) :
    Option Predicate :=
  if !type.isComparable then none
  else
    match type.convert? raw with
    | some value => some (.compare field op value)
    | none => some .never

/-- A match of a regular expression, for strings; what is no regular expression matches nothing. -/
def regexTest (field : FieldPath) (type : ColumnType) (pattern : String) : Option Predicate :=
  if !type.isTextual then none
  else
    match Regex.Pattern.ofText? pattern with
    | some _ => some (.regex field pattern)
    | none => some .never

/-- A match of a like pattern, for strings. -/
def likeTest (field : FieldPath) (type : ColumnType) (pattern : String) : Option Predicate :=
  if type.isTextual then some (.like field pattern) else none

/-- Whether values of the field can be empty. -/
def isEmptiable (type : ColumnType) (isList : Bool) : Bool := isList || type.isTextual

/-- Null or, where that applies, empty. -/
def voidTest (field : FieldPath) (emptiable : Bool) : Predicate :=
  if emptiable then disj [.isNull field, .isEmpty field] else .isNull field

/-! ## Algorithm -/

/-- One predicate for each operator that is set and applies, in a fixed order. -/
def tests (e : FilterExpression) (field : FieldPath) (type : ColumnType) (isList : Bool) :
    List Predicate :=
  (e.eq?.map (eqTest field type)).toList
  ++ (e.ne?.map (neTest field type)).toList
  ++ (e.among?.map (amongTest field type)).toList
  ++ (e.notAmong?.map (notAmongTest field type)).toList
  ++ (e.gt?.bind (rangeTest field type .gt)).toList
  ++ (e.gte?.bind (rangeTest field type .gte)).toList
  ++ (e.lt?.bind (rangeTest field type .lt)).toList
  ++ (e.lte?.bind (rangeTest field type .lte)).toList
  ++ (e.regex?.bind (regexTest field type)).toList
  ++ (e.like?.bind (likeTest field type)).toList
  ++ (e.exists?.map (Predicate.present field)).toList
  ++ (e.isNull?.map (flagged · (.isNull field))).toList
  ++ (e.isEmpty?.bind fun flag =>
      if isEmptiable type isList then some (flagged flag (.isEmpty field)) else none).toList
  ++ (e.isVoid?.map (flagged · (voidTest field (isEmptiable type isList)))).toList

/-- The predicate of an expression on a field of this type, which may hold a list. -/
def compile (e : FilterExpression) (field : FieldPath) (type : ColumnType) (isList : Bool) :
    Predicate :=
  conj (e.tests field type isList)

end ListingQuery.FilterExpression
