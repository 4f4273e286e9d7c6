import ListingQuery.Filter.Compilation
import ListingQuery.Shape.Resolution
import ListingQuery.Text.Blank

/-!
# Filter trees

The filters of a query, grouped by path.  A node stands for a field and is found by its canonical
name, so an alias and the name it stands for lead to the same node.  Grouping matters below lists:
all filters below one list have to hold for the same element.

    tree.predicate = columns, and some searchable field contains the search text
-/

namespace ListingQuery

/-- A filter expression and the type it is compiled with. -/
structure ColumnFilter where
  columnType : ColumnType
  expression : FilterExpression

/-- A field with the filters on it and on the fields below it. -/
structure FilterNode where
  /-- The canonical name; empty for the root. -/
  name : String
  isList : Bool
  filters : List ColumnFilter
  /-- Whether the global search looks at this field. -/
  isSearchable : Bool
  /-- The fields below, in order of first appearance. -/
  children : List FilterNode

/-- The filters of one query. -/
structure FilterTree where
  root : FilterNode
  search? : Option String

namespace FilterNode

/-! ## Algorithm -/

/-- A node without filters. -/
def bare (name : String) (isList : Bool) : FilterNode := ⟨name, isList, [], false, []⟩

/-- Change the first node with the name of the segment, which is made if it is missing. -/
def changeChild (s : ResolvedSegment) (change : FilterNode → FilterNode) :
    List FilterNode → List FilterNode
  | [] => [change (bare s.name s.isList)]
  | n :: ns => if n.name = s.name then change n :: ns else n :: changeChild s change ns

/-- Change the node at the end of a path; nodes on the way are made if they are missing. -/
def changeAt (change : FilterNode → FilterNode) : List ResolvedSegment → FilterNode → FilterNode
  | [], n => change n
  | s :: rest, n => { n with children := changeChild s (changeAt change rest) n.children }

/-- Add a filter. -/
def addFilter (f : ColumnFilter) (n : FilterNode) : FilterNode :=
  { n with filters := n.filters ++ [f] }

/-- Whether some filter is on the field itself. -/
def isFiltered (n : FilterNode) : Bool := !n.filters.isEmpty

/-- Make the global search look at the field. -/
def markSearchable (n : FilterNode) : FilterNode := { n with isSearchable := true }

mutual

/-- The number of filters on the field and below it. -/
def filterCount : FilterNode → Nat
  | ⟨_, _, filters, _, children⟩ => filters.length + filterCounts children
  termination_by structural n => n

/-- The number of filters on some fields and below them. -/
def filterCounts : List FilterNode → Nat
  | [] => 0
  | n :: ns => n.filterCount + filterCounts ns
  termination_by structural ns => ns

end

mutual

/-- The predicates of the filters on a field and below it; `base` is the path of its record.  Filters
below a list make one predicate on a single element. -/
def columns (base : FieldPath) : FilterNode → List Predicate
  | ⟨name, isList, filters, _, children⟩ =>
    filters.map (fun f => f.expression.compile (base.child name) f.columnType isList)
    ++ if isList && !children.isEmpty then
        [Predicate.within (base.child name) (Predicate.conj (columnsOf [] children))]
      else columnsOf (base.child name) children
  termination_by structural n => n

/-- The predicates of the filters on some fields and below them. -/
def columnsOf (base : FieldPath) : List FilterNode → List Predicate
  | [] => []
  | n :: ns => columns base n ++ columnsOf base ns
  termination_by structural ns => ns

end

mutual

/-- The predicates of a search on a field and below it, one for each searchable field. -/
def searches (needle : String) (base : FieldPath) : FilterNode → List Predicate
  | ⟨name, isList, _, isSearchable, children⟩ =>
    (if isSearchable then [Predicate.contains (base.child name) needle] else [])
    ++ if isList && !children.isEmpty then
        (searchesOf needle [] children).map (Predicate.within (base.child name))
      else searchesOf needle (base.child name) children
  termination_by structural n => n

/-- The predicates of a search on some fields and below them. -/
def searchesOf (needle : String) (base : FieldPath) : List FilterNode → List Predicate
  | [] => []
  | n :: ns => searches needle base n ++ searchesOf needle base ns
  termination_by structural ns => ns

end

end FilterNode

namespace FilterTree

/-- The tree without filters. -/
def empty : FilterTree := ⟨FilterNode.bare "" false, none⟩

/-- Change the node of a resolved field. -/
def changeAt (t : FilterTree) (field : ResolvedField) (change : FilterNode → FilterNode) :
    FilterTree :=
  { t with root := t.root.changeAt change field.segments }

/-- Add the filter on a wire path.  An expression without operator makes the nodes of its path and
nothing else. -/
def addFilter (shape : RecordShape) (t : FilterTree) (entry : String × FilterExpression) :
    Except QueryError FilterTree := do
  let field ← shape.resolve entry.1
  if entry.2.hasNoOperator then .ok (t.changeAt field id)
  else
    let type := entry.2.columnType?.getD field.columnType
    .ok (t.changeAt field (FilterNode.addFilter ⟨type, entry.2⟩))

/-- The tree of the filters of a query. -/
def build (shape : RecordShape) (filters : Keyed FilterExpression) : Except QueryError FilterTree :=
  filters.foldlM (addFilter shape) empty

/-- Mark the fields at these wire paths as searchable, up to the first that does not resolve. -/
def markAll (shape : RecordShape) : List String → FilterTree → FilterTree × Option QueryError
  | [], t => (t, none)
  | path :: paths, t =>
    match shape.resolve path with
    | .error e => (t, some e)
    | .ok field => markAll shape paths (t.changeAt field FilterNode.markSearchable)

/-- Search the fields at these wire paths for a text.  A blank text changes nothing; where a path
does not resolve, the fields before it stay marked. -/
def attachSearch (shape : RecordShape) (value : String) (paths : List String) (t : FilterTree) :
    FilterTree × Option QueryError :=
  let needle := Text.trim value
  if needle.isEmpty then (t, none)
  else
    match markAll shape paths t with
    | (t, some e) => (t, some e)
    | (t, none) => ({ t with search? := some needle }, none)

/-- The disjunction of a search, if there is one and it looks at some field. -/
def searchPart (t : FilterTree) : List Predicate :=
  match t.search? with
  | none => []
  | some needle =>
    match FilterNode.searchesOf needle [] t.root.children with
    | [] => []
    | found => [Predicate.disj found]

/-- The predicate of a tree. -/
def predicate (t : FilterTree) : Predicate :=
  Predicate.conj (Predicate.conj (FilterNode.columnsOf [] t.root.children) :: t.searchPart)

end FilterTree

end ListingQuery
