import ListingQuery.Literal.Basic
import ListingQuery.Shape.FieldPath
import ListingQuery.Sql.Dialect

/-!
# Statements

A statement is put together from fragments: fixed text, quoted names, columns and bound values.  Its
text has marks in place of the values, which come beside it in the order of the marks, so no value
can ever be read as SQL.

A column below other fields belongs to a join, named by the path of its record; the joins that a
statement needs come beside it as well, in order of first use.
-/

namespace ListingQuery.Sql

/-- A part of a statement. -/
inductive Fragment where
  | fixed (text : String)
  | name (text : String)
  | column (path : FieldPath)
  | bound (value : Literal)

/-- A finished statement. -/
structure Statement where
  text : String
  /-- The bound values, in the order of their marks. -/
  parameters : List Literal
  /-- The joins that the columns belong to, in order of first use. -/
  joins : List FieldPath

/-! ## Algorithm -/

/-- The path of the record that a column belongs to. -/
def recordPath (path : FieldPath) : FieldPath := path.dropLast

/-- The text of a column; it is qualified by its join, if it has one. -/
def columnText (d : Dialect) (path : FieldPath) : String :=
  match path.getLast? with
  | none => ""
  | some name =>
    if (recordPath path).isEmpty then d.quoteName name
    else d.quoteName (Text.join "_" (recordPath path)) ++ "." ++ d.quoteName name

/-- The text of fragments; `next` is the number of the next bound value. -/
def textFrom (d : Dialect) : (next : Nat) → List Fragment → String
  | _, [] => ""
  | next, .fixed text :: fs => text ++ textFrom d next fs
  | next, .name text :: fs => d.quoteName text ++ textFrom d next fs
  | next, .column path :: fs => columnText d path ++ textFrom d next fs
  | next, .bound _ :: fs => d.placeholder next ++ textFrom d (next + 1) fs

/-- The bound value of a fragment. -/
def Fragment.value? : Fragment → Option Literal
  | bound value => some value
  | _ => none

/-- The join that a fragment needs. -/
def Fragment.join? : Fragment → Option FieldPath
  | column path => if (recordPath path).isEmpty then none else some (recordPath path)
  | _ => none

/-- The statement with these fragments. -/
def Statement.ofFragments (d : Dialect) (fs : List Fragment) : Statement :=
  ⟨textFrom d 1 fs, fs.filterMap Fragment.value?, (fs.filterMap Fragment.join?).eraseDups⟩

/-- Lists of fragments with a fixed text between them. -/
def separated (separator : String) : List (List Fragment) → List Fragment
  | [] => []
  | [fs] => fs
  | fs :: rest => fs ++ .fixed separator :: separated separator rest

end ListingQuery.Sql
