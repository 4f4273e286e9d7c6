import ListingQuery.Calendar.Printer
import ListingQuery.Json.Printer
import ListingQuery.Literal.ColumnType

/-!
# Typed literals

A literal is a value that a filter compares fields with.  Null only stands where a filter asks for
it; a text that does not read as a value of its column type yields no literal at all.
-/

namespace ListingQuery

open Calendar (Instant)

/-- A value of a column type, or the null marker. -/
inductive Literal where
  | string (s : String)
  | integer (n : Int)
  | double (x : Float)
  | boolean (b : Bool)
  | date (t : Instant)
  | null

namespace Literal

/-! ## Algorithm -/

/-- The column type that the literal belongs to. -/
def columnType? : Literal → Option ColumnType
  | string _ => some .string
  | integer _ => some .integer
  | double _ => some .double
  | boolean _ => some .boolean
  | date _ => some .date
  | null => none

/-- The text of a string literal. -/
def string? : Literal → Option String
  | string s => some s
  | _ => none

/-- The number of an integer literal. -/
def integer? : Literal → Option Int
  | integer n => some n
  | _ => none

/-- Whether the literal is the null marker. -/
def isNull : Literal → Bool
  | null => true
  | _ => false

/-- The order of two doubles; there is none beside something that is no number. -/
def compareFloat (x y : Float) : Option Ordering :=
  if x < y then some .lt
  else if x == y then some .eq
  else if y < x then some .gt
  else none

/-- The value of a numeric literal as a double. -/
def toFloat? : Literal → Option Float
  | integer n => some (Float.ofInt n)
  | double x => some x
  | _ => none

/-- The order of two literals: within one type, or between numbers.  Strings are ordered by code
points; any other mix of types, and null, has no order. -/
def compare : Literal → Literal → Option Ordering
  | string a, string b => some (Ord.compare a b)
  | integer a, integer b => some (Ord.compare a b)
  | boolean a, boolean b => some (Ord.compare a b)
  | date a, date b => some (a.compare b)
  | a, b => do
    let x ← a.toFloat?
    let y ← b.toFloat?
    compareFloat x y

/-- Whether two literals are the same value of the same type. -/
def same : Literal → Literal → Bool
  | string a, string b => a == b
  | integer a, integer b => a == b
  | double a, double b => a == b
  | boolean a, boolean b => a == b
  | date a, date b => a == b
  | null, null => true
  | _, _ => false

/-- The canonical text. -/
def text : Literal → String
  | string s => s
  | integer n => toString n
  | double x => Decimal.Layout.plain.text x
  | boolean true => "true"
  | boolean false => "false"
  | date t => t.text
  | null => "null"

/-- The JSON form; doubles that JSON has no number for become null. -/
def toJson : Literal → Json
  | string s => .string s
  | integer n => .ofInt n
  | double x => if x.isFinite then .number (.float x) else .null
  | boolean b => .bool b
  | date t => .string t.text
  | null => .null

end Literal

end ListingQuery
