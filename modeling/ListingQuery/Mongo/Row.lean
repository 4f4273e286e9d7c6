import ListingQuery.Calendar.Parser
import ListingQuery.Calendar.Printer
import ListingQuery.Error
import ListingQuery.Mongo.Bson

/-!
# Rows as stored documents

A row is stored as a document.  Every string that is a timestamp, at any depth, is stored in the
fixed form of instants, whose order as text is the order in time.  The field `id` of the row is the
identifier of the document, under the name `_id`.
-/

namespace ListingQuery.Mongo

open Calendar (Instant)

/-- Why a row cannot be stored. -/
inductive RowFault where
  /-- A whole number does not fit. -/
  | inconvertible
  /-- The row is no object. -/
  | notDocument
  deriving DecidableEq, Repr

/-- The message of a fault. -/
def RowFault.message (wording : Wording) : RowFault → String
  | inconvertible => "Failed to convert JSON to BSON: " ++ wording.numberTooLarge
  | notDocument => "Expected BSON document, got non-object"

/-! ## Algorithm -/

/-- The stored form of a text that is a timestamp. -/
def storedTimestamp? (text : String) : Option String :=
  (Instant.ofTimestamp? text).map Instant.fixedText

/-- The stored form of a string. -/
def storedText (text : String) : String := (storedTimestamp? text).getD text

mutual

/-- JSON with the stored form of every string. -/
def withStoredText : Json → Json
  | .string s => .string (storedText s)
  | .array items => .array (itemsWithStoredText items)
  | .object members => .object (membersWithStoredText members)
  | v => v
  termination_by structural v => v

/-- Items with the stored form of every string. -/
def itemsWithStoredText : List Json → List Json
  | [] => []
  | v :: vs => withStoredText v :: itemsWithStoredText vs
  termination_by structural vs => vs

/-- Members with the stored form of every string in their values. -/
def membersWithStoredText : List (String × Json) → List (String × Json)
  | [] => []
  | (key, v) :: ms => (key, withStoredText v) :: membersWithStoredText ms
  termination_by structural ms => ms

end

/-- Move a member of a document to another key. -/
def rename (source target : String) (d : Document) : Document :=
  match Keyed.get? d source with
  | some v => Keyed.put (Keyed.erase d source) target v
  | none => d

/-- The document that a row is stored as. -/
def documentOfRow (forms : WrittenForms) (row : Json) : Except RowFault Document :=
  match Bson.ofJson? forms (withStoredText row) with
  | none => .error .inconvertible
  | some (.document members) => .ok (rename "id" "_id" members)
  | some _ => .error .notDocument

/-- The row that a document stands for. -/
def rowOfDocument (d : Document) : Json := (Bson.document (rename "_id" "id" d)).toJson

end ListingQuery.Mongo
