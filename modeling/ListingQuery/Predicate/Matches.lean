import ListingQuery.Document.Values
import ListingQuery.Literal.Conversion
import ListingQuery.Predicate.Basic
import ListingQuery.Predicate.LikePattern
import ListingQuery.Regex.Parser
import ListingQuery.Text.Lower

/-!
# Predicates on documents

Whether a document satisfies a predicate.  A test of a field holds when it holds for any element at
its path; its negative forms are negations of the whole test.  A missing field counts as null.  A
stored value is read with the type of the literal it is compared with, and a pattern that is no
regular expression matches nothing.
-/

namespace ListingQuery

namespace Literal

/-- A stored value read with the type of a literal; `none` if it has another type. -/
def typed? : Literal → Json → Option Literal
  | string _, .string s => some (string s)
  | integer _, .number n => some ((n.int64?.map integer).getD (double n.toFloat))
  | double _, .number n => some ((n.int64?.map integer).getD (double n.toFloat))
  | boolean _, .bool b => some (boolean b)
  | date _, v => ColumnType.date.convert? v
  | null, .null => some null
  | _, _ => none

/-- The order of a stored value against a literal. -/
def compareStored? (literal : Literal) (stored : Json) : Option Ordering := do
  let value ← literal.typed? stored
  value.compare literal

/-- Whether a stored value equals a literal. -/
def equalsStored (literal : Literal) (stored : Json) : Bool :=
  if literal.isNull then stored.isNull else literal.compareStored? stored == some .eq

end Literal

namespace Comparison

/-- Whether an order is one that the comparison asks for. -/
def admits : Comparison → Ordering → Bool
  | eq, o => o == .eq
  | ne, o => o != .eq
  | gt, o => o == .gt
  | gte, o => o != .lt
  | lt, o => o == .lt
  | lte, o => o != .gt

end Comparison

namespace Predicate

/-! ## Tests of one field -/

/-- Whether some element compares with the literal as asked. -/
def comparesAny (found : List Json) (op : Comparison) (value : Literal) : Bool :=
  match op with
  | .eq => found.any value.equalsStored
  | .ne => !found.any value.equalsStored
  | op => found.any fun v =>
    match value.compareStored? v with
    | some o => op.admits o
    | none => false

/-- Whether some element equals some literal. -/
def anyAmong (found : List Json) (values : List Literal) : Bool :=
  found.any fun v => values.any fun literal => literal.equalsStored v

/-- Whether some element is a string that passes the test. -/
def anyString (found : List Json) (test : String → Bool) : Bool :=
  found.any fun v =>
    match v with
    | .string s => test s
    | _ => false

/-- Whether the lower-cased text of some scalar contains the lower-cased needle. -/
def anyContains (found : List Json) (needle : String) : Bool :=
  let needle := Text.lowerChars needle.toList
  found.any fun v =>
    match v.scalarText? with
    | some text => Text.hasInfix needle (Text.lowerChars text.toList)
    | none => false

/-- Whether a value is an empty text or an empty list. -/
def isEmptyValue : Json → Bool
  | .string s => s.isEmpty
  | .array items => items.isEmpty
  | _ => false

/-! ## Algorithm -/

mutual

/-- Whether a document satisfies a predicate. -/
def holds : Predicate → Json → Bool
  | always, _ => true
  | never, _ => false
  | compare field op value, d => comparesAny (d.elementsAt field) op value
  | among field values, d => anyAmong (d.elementsAt field) values
  | notAmong field values, d => !anyAmong (d.elementsAt field) values
  | like field pattern, d => anyString (d.elementsAt field) (LikePattern.accepts pattern)
  | regex field pattern, d =>
    match Regex.Pattern.ofText? pattern with
    | some p => anyString (d.elementsAt field) p.search
    | none => false
  | contains field needle, d => anyContains (d.elementsAt field) needle
  | present field wanted, d => !(d.valuesAt field).isEmpty == wanted
  | isNull field, d => (d.valuesAt field).isEmpty || (d.valuesAt field).any (·.isNull)
  | isEmpty field, d => (d.valuesAt field).any isEmptyValue
  | nested field p, d => (d.elementsAt field).any p.holds
  | not p, d => !p.holds d
  | and parts, d => allHold parts d
  | or parts, d => anyHolds parts d
  termination_by structural p => p

/-- Whether a document satisfies all predicates. -/
def allHold : List Predicate → Json → Bool
  | [], _ => true
  | p :: ps, d => p.holds d && allHold ps d
  termination_by structural ps => ps

/-- Whether a document satisfies some predicate. -/
def anyHolds : List Predicate → Json → Bool
  | [], _ => false
  | p :: ps, d => p.holds d || anyHolds ps d
  termination_by structural ps => ps

end

end Predicate

end ListingQuery
