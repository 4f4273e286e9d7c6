import ListingQuery.Literal.ColumnType

/-!
# Native types

The storage types of scalar fields and their codes: seventeen scalar codes, and `array<…>` around
another code to any depth.  Blanks around a code do not count, at every level.
-/

namespace ListingQuery

/-- The storage type of a scalar field. -/
inductive NativeType where
  | string
  | char
  | i8
  | i16
  | i32
  | i64
  | isize
  | u8
  | u16
  | u32
  | u64
  | usize
  | f32
  | f64
  | bool
  | date
  | datetime
  /-- A fixed-size array of scalars, which filters treat as text. -/
  | array (element : NativeType)
  deriving DecidableEq, Repr

namespace NativeType

/-! ## Algorithm -/

/-- The code of a type. -/
def code : NativeType → String
  | string => "string"
  | char => "char"
  | i8 => "i8"
  | i16 => "i16"
  | i32 => "i32"
  | i64 => "i64"
  | isize => "isize"
  | u8 => "u8"
  | u16 => "u16"
  | u32 => "u32"
  | u64 => "u64"
  | usize => "usize"
  | f32 => "f32"
  | f64 => "f64"
  | bool => "bool"
  | date => "date"
  | datetime => "datetime"
  | array element => "array<" ++ element.code ++ ">"

/-- The scalar types. -/
def scalars : List NativeType :=
  [string, char, i8, i16, i32, i64, isize, u8, u16, u32, u64, usize, f32, f64, bool, date, datetime]

/-- The code of an array's element, if the code is that of an array. -/
def elementCode? (code : List Char) : Option (List Char) :=
  if "array<".toList.isPrefixOf code then
    match (code.drop 6).getLast? with
    | some '>' => some (code.drop 6).dropLast
    | _ => none
  else none

/-- The type with this code; every array level takes at least one character off. -/
def ofCodeWithin : (fuel : Nat) → List Char → Option NativeType
  | 0, _ => none
  | fuel + 1, code =>
    let code := Text.trimChars code
    match elementCode? code with
    | some inner => (ofCodeWithin fuel inner).map array
    | none => scalars.find? fun t => t.code.toList == code

/-- The type with this code. -/
def ofCode? (code : String) : Option NativeType :=
  ofCodeWithin (code.toList.length + 1) code.toList

/-- The column type of a field with this native type. -/
def columnType : NativeType → ColumnType
  | string => .string
  | char => .string
  | i8 => .integer
  | i16 => .integer
  | i32 => .integer
  | i64 => .integer
  | isize => .integer
  | u8 => .integer
  | u16 => .integer
  | u32 => .integer
  | u64 => .integer
  | usize => .integer
  | f32 => .double
  | f64 => .double
  | bool => .boolean
  | date => .date
  | datetime => .date
  | array _ => .string

end NativeType

end ListingQuery
