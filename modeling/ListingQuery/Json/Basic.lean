import ListingQuery.Keyed

/-!
# JSON values

A document is a tree of nulls, booleans, numbers, strings, arrays and objects.  A number is a whole
number of at most 64 bits or a double; objects keep their members in insertion order.
-/

namespace ListingQuery

/-- A JSON number.  Whole numbers lie between `-2^63` and `2^64 - 1`. -/
inductive Number where
  | int (n : Int)
  | float (x : Float)

/-- A JSON value. -/
inductive Json where
  | null
  | bool (b : Bool)
  | number (n : Number)
  | string (s : String)
  | array (items : List Json)
  | object (members : List (String × Json))

/-- Whether `n` fits a signed word of 64 bits. -/
def isInt64 (n : Int) : Bool := -(Nat.pow 2 63 : Int) ≤ n && n < (Nat.pow 2 63 : Int)

/-- Whether `n` fits an unsigned word of 64 bits. -/
def isUInt64 (n : Int) : Bool := 0 ≤ n && n < (Nat.pow 2 64 : Int)

namespace Number

/-- The number as a signed 64-bit integer, if it is one. -/
def int64? : Number → Option Int
  | .int n => if isInt64 n then some n else none
  | .float _ => none

/-- The nearest double. -/
def toFloat : Number → Float
  | .int n => Float.ofInt n
  | .float x => x

end Number

namespace Json

instance : Inhabited Json := ⟨.null⟩

/-- A whole number. -/
def ofInt (n : Int) : Json := .number (.int n)

/-- A natural number. -/
def ofNat (n : Nat) : Json := .number (.int n)

/-- Whether the value is null. -/
def isNull : Json → Bool
  | .null => true
  | _ => false

/-- The member of an object with this key. -/
def get? : Json → String → Option Json
  | .object members, key => Keyed.get? members key
  | _, _ => none

/-- The member of an object for a value that may be missing. -/
def member {α : Type} (key : String) (toJson : α → Json) (value? : Option α) :
    List (String × Json) :=
  match value? with
  | some a => [(key, toJson a)]
  | none => []

end Json

end ListingQuery
