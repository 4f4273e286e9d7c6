import ListingQuery.Text.Split

/-!
# Request targets

The path of a target is what stands before a question mark.  A segment may hold any bytes, written as
a percent sign and two hexadecimal digits; it names something only if they are UTF-8.
-/

namespace ListingQuery.Http

/-! ## Algorithm -/

/-- The value of a hexadecimal digit. -/
def hexValue? (c : Char) : Option Nat :=
  if c.isDigit then some (c.toNat - 0x30)
  else if 'a' ≤ c ∧ c ≤ 'f' then some (c.toNat - 0x61 + 10)
  else if 'A' ≤ c ∧ c ≤ 'F' then some (c.toNat - 0x41 + 10)
  else none

/-- The byte that two hexadecimal digits write. -/
def hexByte? (a b : Char) : Option UInt8 := do
  let high ← hexValue? a
  let low ← hexValue? b
  some (UInt8.ofNat (16 * high + low))

/-- The bytes of a segment; a percent sign without two digits behind it stands for itself. -/
def segmentBytes : List Char → List UInt8
  | '%' :: a :: b :: rest =>
    match hexByte? a b with
    | some byte => byte :: segmentBytes rest
    | none => 0x25 :: segmentBytes (a :: b :: rest)
  | c :: rest => (String.singleton c).toUTF8.toList ++ segmentBytes rest
  | [] => []

/-- The text that a segment stands for. -/
def decodeSegment? (segment : String) : Option String :=
  String.fromUTF8? ⟨(segmentBytes segment.toList).toArray⟩

/-- The path of a target. -/
def pathOf (target : String) : String := String.ofList (target.toList.takeWhile (· != '?'))

/-- The segments of a path that starts with a slash. -/
def segmentsOf (path : String) : List String := (Text.split '/' path).drop 1

end ListingQuery.Http
