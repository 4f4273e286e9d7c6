import ListingQuery.Schema.Config
import ListingQuery.Shape.Resolution

/-!
# Declared collections

A configured collection becomes a schema.  Every field has a type or nested fields, not both, and the
code of a type must be known; then the searchable paths must name fields.  The first fault is
reported: a field before the fields nested in it, and before those that follow it.
-/

namespace ListingQuery

/-- A list of something, or the thing itself. -/
def listIf (isList : Bool) (kind : FieldKind) : FieldKind := if isList then .list kind else kind

mutual

/-- The field that a configuration declares. -/
def FieldConfig.declare (collection : String) : FieldConfig → Except ConfigError FieldDef
  | ⟨name, _, some _, some _, _⟩ => .error (.invalidField collection name .typeAndFields)
  | ⟨name, _, none, none, _⟩ => .error (.invalidField collection name .neitherTypeNorFields)
  | ⟨name, alias?, some code, none, isList⟩ =>
    match NativeType.ofCode? code with
    | none => .error (.invalidField collection name (.unknownType code))
    | some native => .ok ⟨name, alias?, listIf isList (.scalar native)⟩
  | ⟨name, alias?, none, some fields, isList⟩ =>
    match declareAll collection fields with
    | .error e => .error e
    | .ok fs => .ok ⟨name, alias?, listIf isList (.record ⟨name, fs⟩)⟩
  termination_by structural c => c

/-- The fields that configurations declare, up to the first fault. -/
def FieldConfig.declareAll (collection : String) :
    List FieldConfig → Except ConfigError (List FieldDef)
  | [] => .ok []
  | c :: cs =>
    match c.declare collection with
    | .error e => .error e
    | .ok f =>
      match declareAll collection cs with
      | .error e => .error e
      | .ok fs => .ok (f :: fs)
  termination_by structural cs => cs

end

namespace CollectionConfig

/-- The schema of a configured collection. -/
def toSchema (c : CollectionConfig) : Except ListingError CollectionSchema :=
  match FieldConfig.declareAll c.name c.fields with
  | .error e => .error (.config e)
  | .ok fields =>
    let shape : RecordShape := ⟨c.name, fields⟩
    match c.searchable.mapM shape.resolve with
    | .error e => .error (.query e)
    | .ok _ => .ok ⟨c.name, shape, c.searchable⟩

end CollectionConfig

namespace SchemaConfig

/-! ## Algorithm -/

/-- The schema of the first collection with this name. -/
def collection (c : SchemaConfig) (name : String) : Except ListingError CollectionSchema :=
  match c.collections.find? (·.name == name) with
  | none => .error (.query (.unknownCollection name))
  | some collection => collection.toSchema

/-- The schemas of all collections, in declaration order. -/
def schemas (c : SchemaConfig) : Except ListingError (List CollectionSchema) :=
  c.collections.mapM CollectionConfig.toSchema

end SchemaConfig

end ListingQuery
