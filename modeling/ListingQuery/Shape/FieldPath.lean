import ListingQuery.Text.Split

/-!
# Field paths

A path names a field by the names of the fields that lead to it.  Written, its segments have dots
between them; a written path is split at every dot, so empty segments are kept.
-/

namespace ListingQuery

/-- The names of the fields from the record to the field. -/
abbrev FieldPath := List String

namespace FieldPath

/-! ## Algorithm -/

/-- The path that a dotted text stands for. -/
def ofDotted (dotted : String) : FieldPath := Text.split '.' dotted

/-- The dotted form. -/
def dotted (path : FieldPath) : String := Text.join "." path

/-- The path with one more segment. -/
def child (path : FieldPath) (name : String) : FieldPath := path ++ [name]

end FieldPath

end ListingQuery
