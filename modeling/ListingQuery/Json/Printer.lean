import ListingQuery.Json.Basic
import ListingQuery.Decimal.Layout

/-!
# JSON text

The compact written form: no blanks, members in order, doubles in the `json` layout.  In strings the
quote, the backslash and the control characters below the space are escaped, the last by name where
they have one; everything else stands for itself.
-/

namespace ListingQuery

namespace Number

/-- The text of a number. -/
def text : Number → String
  | .int n => toString n
  | .float x => Decimal.Layout.json.text x

end Number

namespace Json

/-! ## Algorithm -/

/-- The written form of one character inside a string. -/
def escapeChar (c : Char) : List Char :=
  if c = '"' then ['\\', '"']
  else if c = '\\' then ['\\', '\\']
  else if c = '\x08' then ['\\', 'b']
  else if c = '\x0c' then ['\\', 'f']
  else if c = '\n' then ['\\', 'n']
  else if c = '\r' then ['\\', 'r']
  else if c = '\t' then ['\\', 't']
  else if c.toNat < 0x20 then
    ['\\', 'u', '0', '0', Nat.digitChar (c.toNat / 16), Nat.digitChar (c.toNat % 16)]
  else [c]

/-- A string between quotes. -/
def quote (s : String) : String :=
  String.ofList ('"' :: (s.toList.flatMap escapeChar ++ ['"']))

mutual

/-- The compact text of a value. -/
def text : Json → String
  | .null => "null"
  | .bool true => "true"
  | .bool false => "false"
  | .number n => n.text
  | .string s => quote s
  | .array items => "[" ++ itemsText items ++ "]"
  | .object members => "\x7b" ++ membersText members ++ "\x7d"
  termination_by structural v => v

/-- The items of an array, separated by commas. -/
def itemsText : List Json → String
  | [] => ""
  | [v] => v.text
  | v :: vs => v.text ++ "," ++ itemsText vs
  termination_by structural vs => vs

/-- The members of an object, separated by commas. -/
def membersText : List (String × Json) → String
  | [] => ""
  | [(k, v)] => quote k ++ ":" ++ v.text
  | (k, v) :: ms => quote k ++ ":" ++ v.text ++ "," ++ membersText ms
  termination_by structural ms => ms

end

end Json

end ListingQuery
