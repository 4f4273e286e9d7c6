import ListingQuery.Document.Order
import ListingQuery.Sql.Condition

/-!
# Queries on a table

The statements for a listing kept in a table: a sorted page of its rows, a count, and the condition
alone, for use in statements written elsewhere.
-/

namespace ListingQuery.Sql

/-- A table and how it is written. -/
structure Table where
  name : String
  dialect : Dialect
  /-- What stands for the table after FROM, if it is more than its name. -/
  source? : Option String := none

namespace Table

/-- What stands after FROM. -/
def source (t : Table) : Fragment :=
  match t.source? with
  | some text => .fixed text
  | none => .name t.name

/-- A sort key. -/
def orderFragments (key : SortKey) : List Fragment :=
  [.column key.field, .fixed (match key.direction with
    | .asc => " ASC"
    | .desc => " DESC")]

/-- The order of the rows, if it is asked for. -/
def orderClause (sort : List SortKey) : List Fragment :=
  if sort.isEmpty then []
  else .fixed " ORDER BY " :: separated ", " (sort.map orderFragments)

/-! ## Algorithm -/

/-- The condition alone. -/
def condition (t : Table) (p : Predicate) : Statement :=
  .ofFragments t.dialect (conditionFragments t.dialect p)

/-- The number of rows, of all if there is no predicate. -/
def count (t : Table) (p? : Option Predicate) : Statement :=
  .ofFragments t.dialect (
    [.fixed "SELECT COUNT(*) FROM ", t.source]
    ++ match p? with
      | none => []
      | some p => .fixed " WHERE " :: conditionFragments t.dialect p)

/-- A sorted page of rows. -/
def select (t : Table) (p : Predicate) (page : Page) (sort : List SortKey) : Statement :=
  .ofFragments t.dialect (
    [.fixed "SELECT * FROM ", t.source, .fixed " WHERE "]
    ++ conditionFragments t.dialect p ++ orderClause sort
    ++ [.fixed (" LIMIT " ++ toString page.limit ++ " OFFSET " ++ toString page.offset)])

end Table

end ListingQuery.Sql
