import ListingQuery.Text.Blank
import ListingQuery.Text.Split

/-!
# Column types

The closed set of types against which filters are compiled.  The type of a field decides how its
literals are read and which operators apply to it.

    ofCode (code t) = t                                 (ofCode_code)
-/

namespace ListingQuery

/-- The value type of a filterable field. -/
inductive ColumnType where
  | string
  | integer
  | double
  | boolean
  | date
  deriving DecidableEq, Repr

namespace ColumnType

/-! ## Algorithm -/

/-- All types, in declaration order. -/
def all : List ColumnType := [string, integer, double, boolean, date]

/-- The code of a type on the wire. -/
def code : ColumnType → String
  | string => "string"
  | integer => "integer"
  | double => "double"
  | boolean => "boolean"
  | date => "date"

/-- The type with this code, case and surrounding blanks left out of account.  Any other text
stands for strings. -/
def ofCode (code : String) : ColumnType :=
  match Text.asciiLower (Text.trim code) with
  | "integer" => integer
  | "double" => double
  | "boolean" => boolean
  | "date" => date
  | _ => string

/-- Whether the range operators apply. -/
def isComparable : ColumnType → Bool
  | boolean => false
  | _ => true

/-- Whether the operators on text apply. -/
def isTextual : ColumnType → Bool
  | string => true
  | _ => false

/-! ## Lemmas -/

theorem ofCode_code (t : ColumnType) : ofCode (code t) = t := by
  cases t <;> decide +kernel

end ColumnType

end ListingQuery
