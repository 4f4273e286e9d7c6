import ListingQuery.Document.Order
import ListingQuery.Mongo.Row
import ListingQuery.Predicate.Basic
import ListingQuery.Predicate.LikePattern

/-!
# Filters

A predicate is rendered as a filter document.  A nested predicate becomes a test of one element of a
list.  A search also compares the text of values that are no strings, which only an expression can
do; expressions may not stand inside the test of an element, so the search there is rendered once
more from the outside.
-/

namespace ListingQuery.Mongo

/-! ## Names and values -/

/-- The key under which a field is stored: the identifier has a name of its own. -/
def storedKey (field : FieldPath) : String :=
  let dotted := FieldPath.dotted field
  if dotted = "id" then "_id" else dotted

/-- The stored form of a literal. -/
def literalBson : Literal → Bson
  | .string s => .string (storedText s)
  | .integer n => .integer n
  | .double x => .double x
  | .boolean b => .boolean b
  | .date t => .string t.fixedText
  | .null => .null

/-- The operator of a comparison. -/
def comparisonOperator : Comparison → String
  | .eq => "$eq"
  | .ne => "$ne"
  | .gt => "$gt"
  | .gte => "$gte"
  | .lt => "$lt"
  | .lte => "$lte"

/-- A text as a regular expression that matches it alone. -/
def literalRegex (text : String) : String := String.ofList (Regex.escaped text.toList)

/-- A condition on a field. -/
def onField (field : FieldPath) (condition : Bson) : Document := [(storedKey field, condition)]

/-- A condition with one operator. -/
def withOperator (operator : String) (value : Bson) : Bson := .document [(operator, value)]

/-- A match of a regular expression in any case. -/
def anyCaseRegex (regex : String) : Bson :=
  .document [("$regex", .string regex), ("$options", .string "i")]

/-! ## Search expressions -/

/-- A reference to a field of the document, or of the list element at hand. -/
def reference (inElement : Bool) (field : FieldPath) : String :=
  if inElement then "$$this." ++ FieldPath.dotted field else "$" ++ storedKey field

/-- Whether the text of a value contains the needle, in any case; what has no text counts as
empty. -/
def textMatch (input needle : String) : Bson :=
  .document [("$regexMatch", .document [
    ("input", .document [("$convert", .document [
      ("input", .string input), ("to", .string "string"), ("onError", .string ""),
      ("onNull", .string "")])]),
    ("regex", .string (literalRegex needle)), ("options", .string "i")])]

/-- Whether the expression holds for some element of a list; what is no list has no elements. -/
def anyElement (list : String) (expression : Bson) : Bson :=
  .document [("$anyElementTrue", .array [.document [("$map", .document [
    ("input", .document [("$cond", .array [
      .document [("$isArray", .array [.string list])], .string list, .array []])]),
    ("in", expression)])]])]

/-- The expression for a search of a field, perhaps below lists; no other predicate has one. -/
def searchExpression? (inElement : Bool) : Predicate → Option Bson
  | .contains field needle => some (textMatch (reference inElement field) needle)
  | .nested field p => (searchExpression? true p).map (anyElement (reference inElement field))
  | _ => none

/-- A filter, or the expression beside it where one may stand. -/
def orExpression (inElement : Bool) (expression? : Option Bson) (filter : Document) : Document :=
  match expression? with
  | none => filter
  | some expression =>
    if inElement then filter
    else [("$or", .array [.document filter, .document [("$expr", expression)]])]

/-! ## Algorithm -/

mutual

/-- The filter for a predicate, on a document or on the element of a list. -/
def filter (inElement : Bool) : Predicate → Document
  | .always => []
  | .never => [("$expr", .boolean false)]
  | .compare field op value =>
    onField field (withOperator (comparisonOperator op) (literalBson value))
  | .among field values => onField field (withOperator "$in" (.array (values.map literalBson)))
  | .notAmong field values => onField field (withOperator "$nin" (.array (values.map literalBson)))
  | .like field pattern => onField field (anyCaseRegex (LikePattern.regexText pattern))
  | .regex field pattern => onField field (withOperator "$regex" (.string pattern))
  | .contains field needle =>
    orExpression inElement (searchExpression? false (.contains field needle))
      (onField field (anyCaseRegex (literalRegex needle)))
  | .present field wanted => onField field (withOperator "$exists" (.boolean wanted))
  | .isNull field => onField field .null
  | .isEmpty field => onField field (withOperator "$in" (.array [.string "", .array []]))
  | .nested field p =>
    orExpression inElement (searchExpression? false (.nested field p))
      (onField field (withOperator "$elemMatch" (.document (filter true p))))
  | .not (.isNull field) => onField field (withOperator "$ne" .null)
  | .not p => [("$nor", .array [.document (filter inElement p)])]
  | .and parts => [("$and", .array (filters inElement parts))]
  | .or parts => [("$or", .array (filters inElement parts))]
  termination_by structural p => p

/-- The filters for some predicates. -/
def filters (inElement : Bool) : List Predicate → List Bson
  | [] => []
  | p :: ps => .document (filter inElement p) :: filters inElement ps
  termination_by structural ps => ps

end

/-- The filter document for a predicate. -/
def filterDocument (p : Predicate) : Document := filter false p

/-- The sign of a direction. -/
def directionSign : Direction → Int
  | .asc => 1
  | .desc => -1

/-- The sort document for sort keys; a repeated key keeps its first place and its last direction. -/
def sortDocument (sort : List SortKey) : Document :=
  Keyed.ofEntries (sort.map fun key => (storedKey key.field, .integer (directionSign key.direction)))

end ListingQuery.Mongo
