import ListingQuery.Json.Basic

/-!
# BSON values

What a MongoDB server stores.  Values that JSON has as well are written as such; the others are
written as objects whose keys start with a dollar sign, and are read from those.  Whole numbers have
at most 64 bits and a sign.

A library reads the written forms.  Nothing here depends on which ones it knows, only on what it may
take for a written form, and what for its value.

    toJson (ofJson? forms v) = v, for JSON without such keys, with whole numbers that fit
-/

namespace ListingQuery.Mongo

/-- A BSON value. -/
inductive Bson where
  | null
  | boolean (b : Bool)
  | integer (n : Int)
  | double (x : Float)
  | string (s : String)
  | array (items : List Bson)
  | document (members : List (String × Bson))
  /-- A value of another type, in its written form. -/
  | other (extended : Json)

/-- A BSON document. -/
abbrev Document := Keyed Bson

/-- Neither an array nor a document: no path leads into the value. -/
def Bson.isLeaf : Bson → Bool
  | .array _ => false
  | .document _ => false
  | _ => true

/-- A reader of the written forms of values that JSON does not have. -/
structure WrittenForms where
  /-- The value that these members of an object stand for, if they are a written form. -/
  read : Document → Option Bson
  /-- There is a key, and all of them start with a dollar sign. -/
  isDollar_of_read {members : Document} {b : Bson} (h : read members = some b) :
    members ≠ [] ∧ ∀ key ∈ Keyed.keys members, key.toList.head? = some '$'
  /-- What is written has no members of its own in the store. -/
  isLeaf_of_read {members : Document} {b : Bson} (h : read members = some b) : b.isLeaf = true

namespace Bson

/-- Members as a value: a document, unless they are the written form of another type. -/
def ofMembers (forms : WrittenForms) (members : Document) : Bson :=
  (forms.read members).getD (document members)

/-! ## Algorithm -/

mutual

/-- The value that JSON stands for; there is none for whole numbers that do not fit. -/
def ofJson? (forms : WrittenForms) : Json → Option Bson
  | .null => some null
  | .bool b => some (boolean b)
  | .number (.int n) => if isInt64 n then some (integer n) else none
  | .number (.float x) => some (double x)
  | .string s => some (string s)
  | .array items => (ofItems? forms items).map array
  | .object members => (membersOf? forms members).map (ofMembers forms)
  termination_by structural v => v

/-- The values of items. -/
def ofItems? (forms : WrittenForms) : List Json → Option (List Bson)
  | [] => some []
  | v :: vs => do
    let b ← ofJson? forms v
    let bs ← ofItems? forms vs
    some (b :: bs)
  termination_by structural vs => vs

/-- The values of members. -/
def membersOf? (forms : WrittenForms) : List (String × Json) → Option (List (String × Bson))
  | [] => some []
  | (key, v) :: ms => do
    let b ← ofJson? forms v
    let bs ← membersOf? forms ms
    some ((key, b) :: bs)
  termination_by structural ms => ms

end

/-- The written form of a double. -/
def doubleJson (x : Float) : Json :=
  if x.isFinite then .number (.float x)
  else
    .object [("$numberDouble",
      .string (if x.isNaN then "NaN" else if x < 0 then "-Infinity" else "Infinity"))]

mutual

/-- The written form of a value. -/
def toJson : Bson → Json
  | null => .null
  | boolean b => .bool b
  | integer n => .ofInt n
  | double x => doubleJson x
  | string s => .string s
  | array items => .array (itemsJson items)
  | document members => .object (membersJson members)
  | other extended => extended
  termination_by structural b => b

/-- The written forms of items. -/
def itemsJson : List Bson → List Json
  | [] => []
  | b :: bs => b.toJson :: itemsJson bs
  termination_by structural bs => bs

/-- The written forms of members. -/
def membersJson : List (String × Bson) → List (String × Json)
  | [] => []
  | (key, b) :: ms => (key, b.toJson) :: membersJson ms
  termination_by structural ms => ms

end

end Bson

end ListingQuery.Mongo
