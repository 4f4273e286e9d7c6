import ListingQuery.Predicate.Basic

/-!
# Predicates as text

A form close to SQL, for logs.  Strings and dates stand between single quotes, with a quote inside
written twice; the parts of a disjunction have parentheses, those of a conjunction only where they
are compound.
-/

namespace ListingQuery

/-- A text between single quotes. -/
def singleQuoted (s : String) : String :=
  "'" ++ String.ofList (Text.replaceChar '\'' ['\'', '\''] s.toList) ++ "'"

/-- A literal as it stands in the text of a predicate. -/
def Literal.quotedText : Literal → String
  | .string s => singleQuoted s
  | .date t => singleQuoted t.text
  | .null => "NULL"
  | v => v.text

namespace Predicate

/-- Literals between parentheses. -/
def listText (values : List Literal) : String :=
  "(" ++ Text.join ", " (values.map Literal.quotedText) ++ ")"

mutual

/-- The text of a predicate. -/
def text : Predicate → String
  | always => "TRUE"
  | never => "FALSE"
  | compare field op value =>
    FieldPath.dotted field ++ " " ++ op.symbol ++ " " ++ value.quotedText
  | among field values => FieldPath.dotted field ++ " IN " ++ listText values
  | notAmong field values => FieldPath.dotted field ++ " NOT IN " ++ listText values
  | like field pattern => FieldPath.dotted field ++ " ILIKE " ++ singleQuoted pattern
  | regex field pattern => FieldPath.dotted field ++ " REGEXP " ++ singleQuoted pattern
  | contains field needle => FieldPath.dotted field ++ " CONTAINS " ++ singleQuoted needle
  | present field true => FieldPath.dotted field ++ " EXISTS"
  | present field false => FieldPath.dotted field ++ " NOT EXISTS"
  | isNull field => FieldPath.dotted field ++ " IS NULL"
  | isEmpty field => FieldPath.dotted field ++ " IS EMPTY"
  | nested field p => FieldPath.dotted field ++ " ANY (" ++ p.text ++ ")"
  | not p => "NOT (" ++ p.text ++ ")"
  | and parts => Text.join " AND " (andTexts parts)
  | or parts => Text.join " OR " (orTexts parts)
  termination_by structural p => p

/-- The texts of the parts of a conjunction. -/
def andTexts : List Predicate → List String
  | [] => []
  | p :: ps => (if p.isCompound then "(" ++ p.text ++ ")" else p.text) :: andTexts ps
  termination_by structural ps => ps

/-- The texts of the parts of a disjunction. -/
def orTexts : List Predicate → List String
  | [] => []
  | p :: ps => ("(" ++ p.text ++ ")") :: orTexts ps
  termination_by structural ps => ps

end

end Predicate

end ListingQuery
