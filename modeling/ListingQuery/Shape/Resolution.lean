import ListingQuery.Error
import ListingQuery.Shape.Basic
import ListingQuery.Shape.FieldPath

/-!
# Resolving paths against a shape

A wire path is resolved segment by segment: each is looked up in the record reached so far, and the
path goes on into what the field holds.  The first segment that names no field, or that would go
into a scalar, is the one the error points at.
-/

namespace ListingQuery

/-- One resolved segment. -/
structure ResolvedSegment where
  /-- The canonical name. -/
  name : String
  isList : Bool
  deriving DecidableEq, Repr

/-- The field that a path names. -/
structure ResolvedField where
  columnType : ColumnType
  segments : List ResolvedSegment
  deriving DecidableEq, Repr

/-- The path of canonical names. -/
def ResolvedField.path (f : ResolvedField) : FieldPath := f.segments.map (·.name)

namespace RecordShape

/-! ## Algorithm -/

/-- The field that a segment names; `full` is the path it is part of. -/
def field (shape : RecordShape) (full segment : String) : Except QueryError FieldDef :=
  match shape.lookup? segment with
  | some f => .ok f
  | none => .error (.fieldNotFound full segment shape.name)

/-- Resolve a path given by its segments; `full` is its text. -/
def resolveSegments (full : String) : RecordShape → List String → Except QueryError ResolvedField
  | shape, [] => .error (.fieldNotFound full "" shape.name)
  | shape, [segment] => do
    let f ← shape.field full segment
    .ok ⟨f.kind.columnType, [⟨f.name, f.kind.isList⟩]⟩
  | shape, segment :: next :: rest => do
    let f ← shape.field full segment
    match f.kind.record? with
    | none => .error (.fieldNotFound full next shape.name)
    | some inner => do
      let r ← resolveSegments full inner (next :: rest)
      .ok { r with segments := ⟨f.name, f.kind.isList⟩ :: r.segments }

/-- The field that a dotted wire path names. -/
def resolve (shape : RecordShape) (dotted : String) : Except QueryError ResolvedField :=
  shape.resolveSegments dotted (FieldPath.ofDotted dotted)

/-- The record reached by the segments of a path. -/
def reachSegments (full : String) : RecordShape → List String → Except QueryError RecordShape
  | shape, [] => .ok shape
  | shape, segment :: rest => do
    let f ← shape.field full segment
    match f.kind.record? with
    | none => .error (.fieldNotFound full segment shape.name)
    | some inner => reachSegments full inner rest

/-- The record reached by a dotted wire path. -/
def reach (shape : RecordShape) (dotted : String) : Except QueryError RecordShape :=
  shape.reachSegments dotted (FieldPath.ofDotted dotted)

end RecordShape

end ListingQuery
