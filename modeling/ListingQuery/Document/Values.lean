import ListingQuery.Json.Basic
import ListingQuery.Shape.FieldPath

/-!
# Values at a path

A path leads into objects by their keys.  An array on the way is fanned out: the path goes on in each
of its elements.  An array at the end of the path is one value, whose elements are what tests look at.
-/

namespace ListingQuery

namespace Json

/-! ## Algorithm -/

mutual

/-- The values at a path, in document order. -/
def valuesAt : Json → FieldPath → List Json
  | v, [] => [v]
  | .object members, key :: rest => valuesAtKey members key rest
  | .array items, path => valuesAtEach items path
  | _, _ :: _ => []
  termination_by structural v => v

/-- The values at a path whose first segment is looked up among members. -/
def valuesAtKey : List (String × Json) → String → FieldPath → List Json
  | [], _, _ => []
  | (k, v) :: ms, key, rest => if k = key then v.valuesAt rest else valuesAtKey ms key rest
  termination_by structural ms => ms

/-- The values at a path in each of some values. -/
def valuesAtEach : List Json → FieldPath → List Json
  | [], _ => []
  | v :: vs, path => v.valuesAt path ++ valuesAtEach vs path
  termination_by structural vs => vs

end

/-- The elements of an array; any other value is its own only element. -/
def elements : Json → List Json
  | .array items => items
  | v => [v]

/-- What a test of the field at a path looks at: the values there, with arrays opened one level. -/
def elementsAt (v : Json) (path : FieldPath) : List Json := (v.valuesAt path).flatMap elements

end Json

end ListingQuery
