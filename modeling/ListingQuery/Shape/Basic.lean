import ListingQuery.Shape.NativeType

/-!
# Record shapes

A shape declares the fields of a record: for each its canonical name, the alias under which it goes
on the wire, if it has one, and what it holds.  A field holds a scalar, an embedded record, or a list
of either.  A collection is a shape with a name and the paths that a global search covers.
-/

namespace ListingQuery

mutual

/-- What a field holds. -/
inductive FieldKind where
  | scalar (native : NativeType)
  | record (shape : RecordShape)
  | list (element : FieldKind)

/-- The declared fields of a record. -/
structure RecordShape where
  name : String
  fields : List FieldDef

/-- One declared field. -/
structure FieldDef where
  /-- The canonical name, under which the field is stored. -/
  name : String
  alias? : Option String
  kind : FieldKind

end

/-- A collection of records. -/
structure CollectionSchema where
  name : String
  shape : RecordShape
  /-- The wire paths of the fields that a global search covers. -/
  searchable : List String

namespace FieldKind

/-! ## Algorithm -/

/-- The record that paths through the field go on into. -/
def record? : FieldKind → Option RecordShape
  | scalar _ => none
  | record shape => some shape
  | list element => element.record?

/-- Whether the field holds many values. -/
def isList : FieldKind → Bool
  | list _ => true
  | _ => false

/-- The column type of the field: a list has that of its elements, a record counts as text. -/
def columnType : FieldKind → ColumnType
  | scalar native => native.columnType
  | record _ => .string
  | list element => element.columnType

end FieldKind

namespace RecordShape

/-- The field that a segment names: the first with this canonical name, else the first with this
alias. -/
def lookup? (shape : RecordShape) (segment : String) : Option FieldDef :=
  (shape.fields.find? fun f => f.name == segment).or
    (shape.fields.find? fun f => f.alias? == some segment)

end RecordShape

end ListingQuery
