import ListingQuery.Calendar.Parser
import ListingQuery.Decimal.Reading
import ListingQuery.Literal.Basic

/-!
# Reading untyped literals

On the wire a filter holds plain JSON; the column type says how to read it.  Reading is best effort:
null, and whatever does not read, yields no literal.
-/

namespace ListingQuery

open Calendar (Instant)

namespace Json

/-- The text of a scalar; containers and null have none. -/
def scalarText? : Json → Option String
  | .string s => some s
  | .number n => some n.text
  | .bool true => some "true"
  | .bool false => some "false"
  | .null => none
  | .array _ => none
  | .object _ => none

/-- The value as a signed 64-bit integer, if it is one. -/
def int64? : Json → Option Int
  | .number n => n.int64?
  | _ => none

end Json

namespace ColumnType

/-! ## Algorithm -/

/-- Every value but null has a text: scalars their own, containers their JSON text. -/
def convertString (raw : Json) : Option Literal :=
  match raw with
  | .null => none
  | .array _ => some (.string raw.text)
  | .object _ => some (.string raw.text)
  | _ => raw.scalarText?.map .string

/-- A signed 64-bit integer, or the text of one. -/
def convertInteger (raw : Json) : Option Literal :=
  match raw.int64? with
  | some n => some (.integer n)
  | none => do
    let text ← raw.scalarText?
    let n ← Decimal.integer? text.toList
    if isInt64 n then some (.integer n) else none

/-- A number, or the text of one; only finite ones count. -/
def convertDouble (raw : Json) : Option Literal := do
  let x ← match raw with
    | .number n => some n.toFloat
    | _ => raw.scalarText?.bind fun text => Decimal.double? text.toList
  if x.isFinite then some (.double x) else none

/-- A truth value, or the text of one.  The texts `true` and `1` are true and every other is false,
except that `null` is no value. -/
def convertBoolean (raw : Json) : Option Literal :=
  match raw with
  | .bool b => some (.boolean b)
  | _ => do
    let text ← raw.scalarText?
    match Text.asciiLower text with
    | "true" => some (.boolean true)
    | "1" => some (.boolean true)
    | "null" => none
    | _ => some (.boolean false)

/-- Milliseconds since the start of 1970, or the text of an instant. -/
def convertDate (raw : Json) : Option Literal :=
  match raw with
  | .number n => do
    let millis ← n.int64?
    let t ← Instant.ofEpochMillis? millis
    some (.date t)
  | .string s => (Instant.ofText? s).map .date
  | _ => none

/-- Read an untyped literal as a value of the type. -/
def convert? (t : ColumnType) (raw : Json) : Option Literal :=
  match t with
  | string => convertString raw
  | integer => convertInteger raw
  | double => convertDouble raw
  | boolean => convertBoolean raw
  | date => convertDate raw

/-- Read a text as a value of the type. -/
def convertText? (t : ColumnType) (text : String) : Option Literal := t.convert? (.string text)

end ColumnType

end ListingQuery
