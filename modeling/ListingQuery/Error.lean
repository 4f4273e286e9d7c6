/-!
# Errors

What can go wrong, by cause, and how it is reported: the message, the code for programs, and the
status of an answer that carries it.

Some faults are found by a library, which also words them.  Its words are not part of the cause, and
need not be the same the next time, so the message of such a fault is one in a wording.
-/

namespace ListingQuery

/-- The words of one call for what a library finds wrong. -/
structure Wording where
  /-- What is said about a limit that is out of range. -/
  limitOutOfRange : Int → String
  /-- What is said about a row with a whole number that does not fit. -/
  numberTooLarge : String
  notYaml : String
  /-- What is said about YAML that is no configuration. -/
  notConfig : String

/-- Words that are the same in every call. -/
def plainWording : Wording where
  limitOutOfRange _ := "limit out of range"
  numberTooLarge := "number too large"
  notYaml := "not a YAML document"
  notConfig := "not a schema configuration"

/-- Which rule a query description breaks. -/
inductive QueryFault where
  | limitOutOfRange (limit : Int)
  /-- A fault that only its wording tells. -/
  | other (reason : String)
  deriving DecidableEq, Repr

/-- Why a query description cannot be compiled. -/
inductive QueryError where
  /-- `record` has no field `segment`, which `path` asks for. -/
  | fieldNotFound (path segment record : String)
  /-- The description breaks a rule of its own. -/
  | invalidQuery (fault : QueryFault)
  /-- The offset is not the start of a page. -/
  | misalignedOffset (offset limit : Nat)
  | unknownCollection (name : String)
  deriving DecidableEq, Repr

/-- Why a declared field is none. -/
inductive FieldFault where
  | typeAndFields
  | neitherTypeNorFields
  | unknownType (code : String)
  /-- A fault that only its wording tells. -/
  | other (reason : String)
  deriving DecidableEq, Repr

/-- Why a text is no schema configuration. -/
inductive ConfigFault where
  | notYaml
  | notConfig
  /-- A fault that only its wording tells. -/
  | other (reason : String)
  deriving DecidableEq, Repr

/-- Why a schema configuration cannot be used. -/
inductive ConfigError where
  | unparsable (fault : ConfigFault)
  | fileNotFound (path : String)
  | unreadable (reason : String)
  | invalidField (collection field : String) (fault : FieldFault)
  deriving DecidableEq, Repr

/-- What a store reports. -/
inductive StorageError where
  | query (backend reason : String)
  | serialization (reason : String)
  deriving DecidableEq, Repr

/-- Any error. -/
inductive ListingError where
  | query (e : QueryError)
  | config (e : ConfigError)
  | storage (e : StorageError)
  | internal (reason : String)
  deriving DecidableEq, Repr

/-- Which rule is broken, in words. -/
def QueryFault.message (wording : Wording) : QueryFault → String
  | limitOutOfRange limit => wording.limitOutOfRange limit
  | other reason => reason

namespace QueryError

/-- The message of a query error. -/
def message (wording : Wording) : QueryError → String
  | fieldNotFound path segment record =>
    "Field '" ++ path ++ "' not found: '" ++ record ++ "' has no field '" ++ segment ++ "'"
  | invalidQuery fault => "Invalid query: " ++ fault.message wording
  | misalignedOffset offset limit =>
    "Offset " ++ toString offset ++ " is not a multiple of page size " ++ toString limit
  | unknownCollection name => "Collection '" ++ name ++ "' is not registered"

/-- The status of an answer: a missing collection is not found, all else is a bad request. -/
def status : QueryError → Nat
  | unknownCollection _ => 404
  | _ => 400

/-- The code for programs. -/
def code : QueryError → String
  | fieldNotFound .. => "FIELD_NOT_FOUND"
  | invalidQuery _ => "INVALID_QUERY"
  | misalignedOffset .. => "MISALIGNED_OFFSET"
  | unknownCollection _ => "COLLECTION_NOT_FOUND"

end QueryError

namespace FieldFault

/-- What is wrong with the field. -/
def message : FieldFault → String
  | typeAndFields => "declares both a type and nested fields"
  | neitherTypeNorFields => "declares neither a type nor nested fields"
  | unknownType code => "unknown type '" ++ code ++ "'"
  | other reason => reason

end FieldFault

/-- Why it is none, in words. -/
def ConfigFault.message (wording : Wording) : ConfigFault → String
  | notYaml => wording.notYaml
  | notConfig => wording.notConfig
  | other reason => reason

namespace ConfigError

/-- The message of a configuration error. -/
def message (wording : Wording) : ConfigError → String
  | unparsable fault => "Failed to parse config: " ++ fault.message wording
  | fileNotFound path => "Configuration file not found: " ++ path
  | unreadable reason => "IO error: " ++ reason
  | invalidField collection field fault =>
    "Invalid field '" ++ field ++ "' in collection '" ++ collection ++ "': " ++ fault.message

end ConfigError

namespace StorageError

/-- The message of a storage error. -/
def message : StorageError → String
  | query backend reason => backend ++ " query error: " ++ reason
  | serialization reason => "Serialization error: " ++ reason

end StorageError

namespace ListingError

/-- The message of an error. -/
def message (wording : Wording) : ListingError → String
  | query e => e.message wording
  | config e => e.message wording
  | storage e => e.message
  | internal reason => "Internal error: " ++ reason

/-- The status of an answer; only query errors are the client's fault. -/
def status : ListingError → Nat
  | query e => e.status
  | _ => 500

/-- The code for programs. -/
def code : ListingError → String
  | query e => e.code
  | config _ => "CONFIG_ERROR"
  | storage _ => "STORAGE_ERROR"
  | internal _ => "INTERNAL_ERROR"

end ListingError

end ListingQuery
