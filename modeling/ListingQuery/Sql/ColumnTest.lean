import ListingQuery.Predicate.Basic
import ListingQuery.Sql.Statement
import ListingQuery.Text.Lower

/-!
# Column tests

The tests that a condition is made of: each is about one column, which is named by its whole path,
and carries the values that it binds.  A like pattern is bound as SQL reads it: a percent sign
stands for any characters, an underscore for any one, and after a backslash each stands for itself.
Patterns are compared in lower case.
-/

namespace ListingQuery.Sql

/-- A test of a column. -/
inductive ColumnTest where
  | constant (truth : Bool)
  | compare (column : FieldPath) (op : Comparison) (value : Literal)
  | among (column : FieldPath) (values : List Literal)
  | notAmong (column : FieldPath) (values : List Literal)
  /-- The column in lower case is like the pattern. -/
  | like (column : FieldPath) (pattern : String)
  /-- The text of the column in lower case is like the pattern. -/
  | textLike (column : FieldPath) (pattern : String)
  | regex (column : FieldPath) (pattern : String)
  | isNull (column : FieldPath)
  | isNotNull (column : FieldPath)
  /-- The column is the empty text. -/
  | isEmpty (column : FieldPath)

/-! ## Patterns -/

/-- A pattern in which the signs that would stand for any one character, or escape, are escaped. -/
def escapeLike (pattern : List Char) : List Char :=
  pattern.flatMap fun c => if c = '_' ∨ c = '\\' then ['\\', c] else [c]

/-- The pattern bound for a pattern in which only percent signs are special. -/
def likePattern (pattern : String) : String :=
  String.ofList (Text.lowerChars (escapeLike pattern.toList))

/-- The pattern bound for the texts that contain the needle. -/
def containsPattern (needle : String) : String :=
  let escaped := Text.replaceChar '%' ['\\', '%'] (escapeLike needle.toList)
  String.ofList ('%' :: (Text.lowerChars escaped ++ ['%']))

/-! ## Algorithm -/

/-- The end of a like test, which names the escaping sign. -/
def escapeClause : Fragment := .fixed " ESCAPE '\\'"

/-- Bound values with commas between them, in parentheses. -/
def boundList (values : List Literal) : List Fragment :=
  .fixed "(" :: separated ", " (values.map fun v => [.bound v]) ++ [.fixed ")"]

/-- How a test is written. -/
def ColumnTest.fragments (d : Dialect) : ColumnTest → List Fragment
  | constant truth => [.fixed (if truth then "1 = 1" else "1 = 0")]
  | compare column op value => [.column column, .fixed (" " ++ op.symbol ++ " "), .bound value]
  | among column values => .column column :: .fixed " IN " :: boundList values
  | notAmong column values => .column column :: .fixed " NOT IN " :: boundList values
  | like column pattern =>
    [.fixed "LOWER(", .column column, .fixed ") LIKE ", .bound (.string pattern), escapeClause]
  | textLike column pattern =>
    [.fixed "LOWER(CAST(", .column column, .fixed (" AS " ++ d.textType ++ ")) LIKE "),
      .bound (.string pattern), escapeClause]
  | regex column pattern =>
    [.column column, .fixed (" " ++ d.regexOperator ++ " "), .bound (.string pattern)]
  | isNull column => [.column column, .fixed " IS NULL"]
  | isNotNull column => [.column column, .fixed " IS NOT NULL"]
  | isEmpty column => [.column column, .fixed " = ''"]

end ListingQuery.Sql
