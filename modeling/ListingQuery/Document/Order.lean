import ListingQuery.Calendar.Parser
import ListingQuery.Document.Values
import ListingQuery.Literal.Basic
import ListingQuery.Query.Description

/-!
# The order of documents

Documents are ordered by sort keys, the first that tells two of them apart.  A key looks at the first
element at its path.  Missing values and nulls come first, then truth values, numbers, strings and
containers; two strings that both read as instants are ordered in time.
-/

namespace ListingQuery

open Calendar (Instant)

/-- A field to sort by. -/
structure SortKey where
  field : FieldPath
  direction : Direction
  deriving DecidableEq, Repr

/-- An order as seen in a direction. -/
def Direction.orient : Direction → Ordering → Ordering
  | asc, o => o
  | desc, o => o.swap

namespace Document

/-! ## Algorithm -/

/-- The place of a kind of value among the kinds. -/
def rank : Json → Nat
  | .null => 0
  | .bool _ => 1
  | .number _ => 2
  | .string _ => 3
  | .array _ => 4
  | .object _ => 4

/-- The order of two numbers: exact between signed 64-bit integers, else as doubles. -/
def compareNumbers (x y : Number) : Ordering :=
  match x.int64?, y.int64? with
  | some m, some n => compare m n
  | _, _ => (Literal.compareFloat x.toFloat y.toFloat).getD .eq

/-- The order of two strings: in time if both are instants, else by code points. -/
def compareStrings (x y : String) : Ordering :=
  match Instant.ofText? x, Instant.ofText? y with
  | some a, some b => a.compare b
  | _, _ => compare x y

/-- The order of two values. -/
def compareValues : Json → Json → Ordering
  | .bool x, .bool y => compare x y
  | .number x, .number y => compareNumbers x y
  | .string x, .string y => compareStrings x y
  | x, y => compare (rank x) (rank y)

/-- The value that a sort key looks at; a missing one counts as null. -/
def sortValue (document : Json) (field : FieldPath) : Json :=
  ((document.elementsAt field).head?).getD .null

/-- The order of two documents under sort keys. -/
def compareBy : List SortKey → Json → Json → Ordering
  | [], _, _ => .eq
  | key :: keys, a, b =>
    (key.direction.orient
      (compareValues (sortValue a key.field) (sortValue b key.field))).then (compareBy keys a b)

end Document

end ListingQuery
