import ListingQuery.Json.Record
import ListingQuery.Literal.ColumnType

/-!
# Filter expressions

A filter expression holds the operators that apply to one field.  Operators are independent of each
other: any combination may be present.  Values stay untyped JSON until they are compiled against the
type of the field.

On the wire an expression is an object of the operators that are set.  Null leaves an operator out,
except in `eq`, `ne`, `gt`, `gte`, `lt` and `lte`, where it is a value of its own; a key that is no
operator is a fault.
-/

namespace ListingQuery

/-- The operators on one field. -/
structure FilterExpression where
  /-- A declared type, which overrides that of the field. -/
  columnType? : Option ColumnType := none
  eq? : Option Json := none
  ne? : Option Json := none
  /-- Membership; null in the list stands for a field without value. -/
  among? : Option (List Json) := none
  notAmong? : Option (List Json) := none
  gt? : Option Json := none
  gte? : Option Json := none
  lt? : Option Json := none
  lte? : Option Json := none
  regex? : Option String := none
  /-- A pattern in which each percent sign stands for any characters, in any case. -/
  like? : Option String := none
  exists? : Option Bool := none
  isNull? : Option Bool := none
  isEmpty? : Option Bool := none
  /-- Null or empty. -/
  isVoid? : Option Bool := none

namespace FilterExpression

/-! ## Algorithm -/

/-- Whether no operator is set; a declared type is none. -/
def hasNoOperator (e : FilterExpression) : Bool :=
  e.eq?.isNone && e.ne?.isNone && e.among?.isNone && e.notAmong?.isNone && e.gt?.isNone
    && e.gte?.isNone && e.lt?.isNone && e.lte?.isNone && e.regex?.isNone && e.like?.isNone
    && e.exists?.isNone && e.isNull?.isNone && e.isEmpty?.isNone && e.isVoid?.isNone

/-- The wire form: the operators that are set, in a fixed order. -/
def toJson (e : FilterExpression) : Json :=
  .object (
    Json.member "type" (fun t => .string t.code) e.columnType?
    ++ Json.member "eq" id e.eq? ++ Json.member "ne" id e.ne?
    ++ Json.member "in" .array e.among? ++ Json.member "nin" .array e.notAmong?
    ++ Json.member "gt" id e.gt? ++ Json.member "gte" id e.gte?
    ++ Json.member "lt" id e.lt? ++ Json.member "lte" id e.lte?
    ++ Json.member "regex" .string e.regex? ++ Json.member "like" .string e.like?
    ++ Json.member "exists" .bool e.exists? ++ Json.member "isNull" .bool e.isNull?
    ++ Json.member "isEmpty" .bool e.isEmpty? ++ Json.member "isVoid" .bool e.isVoid?)

/-- An operator on the wire: its key, how its value is read, and where it is kept. -/
def operator {α : Type} (key : String) (read : Wire → Except WireFault α)
    (set : α → FilterExpression → FilterExpression) : RecordField FilterExpression :=
  ⟨key, false, fun w e => (read w).map fun a => set a e⟩

/-- The wire form of expressions. -/
def form : RecordForm FilterExpression where
  strict := true
  fields := [
    operator "type" (Wire.readOptional Wire.readString)
      fun code e => { e with columnType? := code.map ColumnType.ofCode },
    operator "eq" Wire.readValue fun v e => { e with eq? := some v },
    operator "ne" Wire.readValue fun v e => { e with ne? := some v },
    operator "in" (Wire.readOptional (Wire.readList Wire.readValue))
      fun vs e => { e with among? := vs },
    operator "nin" (Wire.readOptional (Wire.readList Wire.readValue))
      fun vs e => { e with notAmong? := vs },
    operator "gt" Wire.readValue fun v e => { e with gt? := some v },
    operator "gte" Wire.readValue fun v e => { e with gte? := some v },
    operator "lt" Wire.readValue fun v e => { e with lt? := some v },
    operator "lte" Wire.readValue fun v e => { e with lte? := some v },
    operator "regex" (Wire.readOptional Wire.readString) fun s e => { e with regex? := s },
    operator "like" (Wire.readOptional Wire.readString) fun s e => { e with like? := s },
    operator "exists" (Wire.readOptional Wire.readBool) fun b e => { e with exists? := b },
    operator "isNull" (Wire.readOptional Wire.readBool) fun b e => { e with isNull? := b },
    operator "isEmpty" (Wire.readOptional Wire.readBool) fun b e => { e with isEmpty? := b },
    operator "isVoid" (Wire.readOptional Wire.readBool) fun b e => { e with isVoid? := b }]

/-- Read an expression. -/
def ofWire (w : Wire) : Except WireFault FilterExpression := form.read {} w

end FilterExpression

end ListingQuery
