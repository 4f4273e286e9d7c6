import ListingQuery.Document.Order

/-!
# Sorting documents

Sorting by insertion: each document goes behind the last one that it is not less than.  So documents
that the sort keys do not tell apart stay in their order.
-/

namespace ListingQuery.Document

/-! ## Algorithm -/

/-- Put `d` into documents that come with the last first, behind all that it is not less than. -/
def insertInto (less : Json → Json → Bool) (d : Json) : List Json → List Json
  | [] => [d]
  | e :: es => if less d e then e :: insertInto less d es else d :: e :: es

/-- The documents in the order of the sort keys. -/
def sortBy (keys : List SortKey) (ds : List Json) : List Json :=
  (ds.foldl (fun sorted d => insertInto (fun a b => compareBy keys a b == .lt) d sorted) []).reverse

/-- The documents of a page. -/
def window (page : Page) (ds : List Json) : List Json := (ds.drop page.offset).take page.limit

end ListingQuery.Document
