import ListingQuery.Text.Split

/-!
# SQL dialects

What differs between the two dialects: the marks of bound values, the quotes around names, the
regular expression operator and the type of text.
-/

namespace ListingQuery.Sql

/-- A dialect of SQL. -/
inductive Dialect where
  | postgres
  | mysql
  deriving DecidableEq, Repr

namespace Dialect

/-- The mark of the bound value with this number, counted from 1. -/
def placeholder (d : Dialect) (number : Nat) : String :=
  match d with
  | postgres => "$" ++ toString number
  | mysql => "?"

/-- The quote around names. -/
def nameQuote : Dialect → Char
  | postgres => '"'
  | mysql => '\x60'

/-- A name between quotes; a quote inside is written twice. -/
def quoteName (d : Dialect) (name : String) : String :=
  let q := d.nameQuote
  String.ofList (q :: (Text.replaceChar q [q, q] name.toList ++ [q]))

/-- The operator that matches regular expressions. -/
def regexOperator : Dialect → String
  | postgres => "~"
  | mysql => "REGEXP"

/-- The type of text in casts. -/
def textType : Dialect → String
  | postgres => "TEXT"
  | mysql => "CHAR"

end Dialect

end ListingQuery.Sql
