import ListingQuery.Document.Order
import ListingQuery.Filter.Tree
import ListingQuery.Query.Description

/-!
# Assembling queries

A description is compiled against a collection into what a store needs: a predicate, a page and sort
keys.  The limit is checked first, then the filters, the searchable fields and the sort keys, each in
order; the first fault is reported.
-/

namespace ListingQuery

/-- A query that a store can run. -/
structure AssembledQuery where
  predicate : Predicate
  page : Page
  sort : List SortKey
  draw? : Option Nat

namespace AssembledQuery

/-! ## Algorithm -/

/-- The tree of a description's filters and search. -/
def tree (schema : CollectionSchema) (d : QueryDescription) : Except QueryError FilterTree := do
  let t ← FilterTree.build schema.shape d.filters
  match d.search? with
  | none => .ok t
  | some text =>
    match t.attachSearch schema.shape text schema.searchable with
    | (_, some e) => .error e
    | (t, none) => .ok t

/-- The sort key of an entry of a description. -/
def sortKey (shape : RecordShape) (entry : String × Direction) : Except QueryError SortKey := do
  let field ← shape.resolve entry.1
  .ok ⟨field.path, entry.2⟩

/-- Compile a description against a collection; no page is larger than `maxPageSize`. -/
def assemble (schema : CollectionSchema) (d : QueryDescription) (maxPageSize : Nat) :
    Except QueryError AssembledQuery := do
  let page ← d.page maxPageSize
  let t ← tree schema d
  let sort ← d.orderBy.mapM (sortKey schema.shape)
  .ok ⟨t.predicate, page, sort, d.draw?⟩

end AssembledQuery

end ListingQuery
