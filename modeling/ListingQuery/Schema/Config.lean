import ListingQuery.Json.Record
import ListingQuery.Query.Description
import ListingQuery.Yaml.Record

/-!
# Schema configurations

Collections declared as data: their fields with types or nested fields, and the paths that a global
search covers.  A configuration is written as JSON or as YAML.
-/

namespace ListingQuery

/-- A declared field. -/
structure FieldConfig where
  name : String := ""
  alias? : Option String := none
  /-- The code of the native type of a scalar. -/
  type? : Option String := none
  /-- The fields of an embedded record. -/
  fields? : Option (List FieldConfig) := none
  /-- The field holds many values. -/
  isList : Bool := false

/-- A declared collection. -/
structure CollectionConfig where
  name : String := ""
  searchable : List String := []
  fields : List FieldConfig := []

/-- Declared collections and the bound of their pages. -/
structure SchemaConfig where
  maxPageSize : Nat := defaultMaxPageSize
  collections : List CollectionConfig := []

/-- What reading a file gives. -/
inductive FileReading where
  | contents (text : String)
  | missing
  | failed (reason : String)

namespace FieldConfig

/-! ## Fields -/

/-- How deeply records may nest in a text. -/
def jsonDepth : Nat := 128

/-- How deeply records may nest in a YAML text: the field at the first level stands in four
collections, each further one in two more, and there may be 128. -/
def yamlDepth : Nat := 62

/-- The JSON form of fields whose records nest less than `depth` deep. -/
def form : (depth : Nat) → RecordForm FieldConfig
  | 0 => ⟨[], true⟩
  | depth + 1 => {
    strict := false
    fields := [
      ⟨"name", true, fun w c => (Wire.readString w).map fun s => { c with name := s }⟩,
      ⟨"alias", false, fun w c =>
        (Wire.readOptional Wire.readString w).map fun s => { c with alias? := s }⟩,
      ⟨"type", false, fun w c =>
        (Wire.readOptional Wire.readString w).map fun s => { c with type? := s }⟩,
      ⟨"fields", false, fun w c =>
        (Wire.readOptional (Wire.readList ((form depth).read {})) w).map
          fun fs => { c with fields? := fs }⟩,
      ⟨"list", false, fun w c => (Wire.readBool w).map fun b => { c with isList := b }⟩] }

/-- Read a field whose records nest less than `depth` deep from YAML. -/
def ofNode : (depth : Nat) → Yaml.Node → Option FieldConfig
  | 0, _ => none
  | depth + 1, n =>
    Yaml.Node.readRecord [
      ⟨"name", true, fun n c => n.readString.map fun s => { c with name := s }⟩,
      ⟨"alias", false, fun n c =>
        (n.readOptional Yaml.Node.readString).map fun s => { c with alias? := s }⟩,
      ⟨"type", false, fun n c =>
        (n.readOptional Yaml.Node.readString).map fun s => { c with type? := s }⟩,
      ⟨"fields", false, fun n c =>
        (n.readOptional (Yaml.Node.readList (ofNode depth))).map fun fs => { c with fields? := fs }⟩,
      ⟨"list", false, fun n c => n.readBool.map fun b => { c with isList := b }⟩] {} n

mutual

/-- The JSON form of a field. -/
def toJson : FieldConfig → Json
  | ⟨name, alias?, type?, none, isList⟩ =>
    .object ([("name", .string name)] ++ Json.member "alias" .string alias?
      ++ Json.member "type" .string type? ++ [("list", .bool isList)])
  | ⟨name, alias?, type?, some fields, isList⟩ =>
    .object ([("name", .string name)] ++ Json.member "alias" .string alias?
      ++ Json.member "type" .string type?
      ++ [("fields", .array (allToJson fields)), ("list", .bool isList)])
  termination_by structural c => c

/-- The JSON forms of some fields. -/
def allToJson : List FieldConfig → List Json
  | [] => []
  | c :: cs => c.toJson :: allToJson cs
  termination_by structural cs => cs

end

end FieldConfig

namespace CollectionConfig

/-! ## Collections -/

/-- The JSON form of collections. -/
def form : RecordForm CollectionConfig where
  strict := false
  fields := [
    ⟨"name", true, fun w c => (Wire.readString w).map fun s => { c with name := s }⟩,
    ⟨"searchable", false, fun w c =>
      (Wire.readList Wire.readString w).map fun ss => { c with searchable := ss }⟩,
    ⟨"fields", true, fun w c =>
      (Wire.readList ((FieldConfig.form FieldConfig.jsonDepth).read {}) w).map
        fun fs => { c with fields := fs }⟩]

/-- Read a collection from YAML. -/
def ofNode (n : Yaml.Node) : Option CollectionConfig :=
  Yaml.Node.readRecord [
    ⟨"name", true, fun n c => n.readString.map fun s => { c with name := s }⟩,
    ⟨"searchable", false, fun n c =>
      (n.readList Yaml.Node.readString).map fun ss => { c with searchable := ss }⟩,
    ⟨"fields", true, fun n c =>
      (n.readList (FieldConfig.ofNode FieldConfig.yamlDepth)).map
        fun fs => { c with fields := fs }⟩] {} n

/-- The JSON form of a collection. -/
def toJson (c : CollectionConfig) : Json :=
  .object [("name", .string c.name), ("searchable", .array (c.searchable.map .string)),
    ("fields", .array (FieldConfig.allToJson c.fields))]

end CollectionConfig

namespace SchemaConfig

/-! ## Algorithm -/

/-- The JSON form of configurations. -/
def form : RecordForm SchemaConfig where
  strict := false
  fields := [
    ⟨"max_page_size", false, fun w c =>
      (Wire.readNat w).map fun n => { c with maxPageSize := n }⟩,
    ⟨"collections", true, fun w c =>
      (Wire.readList (CollectionConfig.form.read {}) w).map fun cs => { c with collections := cs }⟩]

/-- Read a configuration. -/
def ofWire (w : Wire) : Except WireFault SchemaConfig := form.read {} w

/-- Read a configuration from YAML. -/
def ofNode (n : Yaml.Node) : Option SchemaConfig :=
  Yaml.Node.readRecord [
    ⟨"max_page_size", false, fun n c => n.readNat.map fun m => { c with maxPageSize := m }⟩,
    ⟨"collections", true, fun n c =>
      (n.readList CollectionConfig.ofNode).map fun cs => { c with collections := cs }⟩] {} n

/-- The configuration that a YAML text holds. -/
def ofYaml (text : String) : Except ConfigError SchemaConfig :=
  match Yaml.Node.ofText? text with
  | none => .error (.unparsable .notYaml)
  | some n =>
    match ofNode n with
    | none => .error (.unparsable .notConfig)
    | some c => .ok c

/-- The configuration in the file at this path. -/
def ofFile (path : String) : FileReading → Except ConfigError SchemaConfig
  | .contents text => ofYaml text
  | .missing => .error (.fileNotFound path)
  | .failed reason => .error (.unreadable reason)

/-- The JSON form of a configuration. -/
def toJson (c : SchemaConfig) : Json :=
  .object [("max_page_size", Json.ofNat c.maxPageSize),
    ("collections", .array (c.collections.map CollectionConfig.toJson))]

end SchemaConfig

end ListingQuery
