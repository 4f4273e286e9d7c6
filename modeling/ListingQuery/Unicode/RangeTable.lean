/-!
# Tables of code point ranges

A property of characters is given by the ranges of code points that have it, in increasing order.
The tables are written as gap codes: for each range the distance from the end of the one before it,
then its length less one.  A number is written in base 32, its last digit from `0`–`9`, `a`–`v`, the
digits before it from `A`–`Z`, `w`–`z`, `+`, `-`.
-/

namespace ListingQuery.Unicode

/-- The code points of some ranges; first and last of each. -/
structure RangeTable where
  ranges : Array (Nat × Nat)

namespace RangeTable

/-! ## Algorithm -/

/-- The value of a digit, and whether it ends its number. -/
def digit (c : Char) : Nat × Bool :=
  if c.isDigit then (c.toNat - 0x30, true)
  else if 'a' ≤ c ∧ c ≤ 'v' then (c.toNat - 0x61 + 10, true)
  else if 'A' ≤ c ∧ c ≤ 'Z' then (c.toNat - 0x41, false)
  else if 'w' ≤ c ∧ c ≤ 'z' then (c.toNat - 0x77 + 26, false)
  else if c = '+' then (30, false)
  else (31, false)

/-- The numbers written by a gap code; `sofar` is the value of the digits read so far. -/
def numbers : (sofar : Nat) → List Char → List Nat
  | _, [] => []
  | n, c :: cs =>
    let (d, final) := digit c
    if final then (32 * n + d) :: numbers 0 cs else numbers (32 * n + d) cs

/-- The ranges with these distances and lengths, from `next` on. -/
def rangesFrom : (next : Nat) → List Nat → List (Nat × Nat)
  | next, gap :: length :: rest =>
    (next + gap, next + gap + length) :: rangesFrom (next + gap + length + 1) rest
  | _, _ => []

/-- The table with this gap code, given in lines. -/
def ofGaps (lines : List String) : RangeTable :=
  ⟨(rangesFrom 0 (numbers 0 (lines.flatMap String.toList))).toArray⟩

/-- Whether the code point lies in one of the ranges with an index from `low` to below
`low + count`. -/
def containsWithin (ranges : Array (Nat × Nat)) (n : Nat) : (fuel low count : Nat) → Bool
  | 0, _, _ => false
  | fuel + 1, low, count =>
    if count = 0 then false
    else
      match ranges[low + count / 2]? with
      | none => false
      | some (first, last) =>
        if n < first then containsWithin ranges n fuel low (count / 2)
        else if n ≤ last then true
        else containsWithin ranges n fuel (low + count / 2 + 1) (count - count / 2 - 1)

/-- Whether the code point lies in one of the ranges, by halving. -/
def contains (t : RangeTable) (n : Nat) : Bool :=
  containsWithin t.ranges n (t.ranges.size + 1) 0 t.ranges.size

/-- The number of ranges. -/
def size (t : RangeTable) : Nat := t.ranges.size

end RangeTable

end ListingQuery.Unicode
