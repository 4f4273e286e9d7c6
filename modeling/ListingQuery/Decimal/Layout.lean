import ListingQuery.Decimal.Shortest

/-!
# How a number is laid out as text

A `Layout` says how the shortest digits of a double become text: which magnitudes are written
positionally, what marks a whole number, and what stands for the values that have no digits.  The
two layouts of this library are `json` and `plain`.
-/

namespace ListingQuery

namespace Decimal

/-- The choices of one written form of doubles. -/
structure Layout where
  tie : Tie
  /-- The exponents of the first digit that are written positionally; `none` is all of them. -/
  positional : Option (Int × Int)
  /-- What follows a whole number. -/
  wholeMark : String
  notANumber : String
  infinity : String

/-- The form of numbers in JSON text: positional from `10^-5` to below `10^16`, always with a
fraction, else scientific with a signed exponent. -/
def Layout.json : Layout := ⟨.toEven, some (-5, 15), ".0", "null", "null"⟩

/-- The form of numbers as text: always positional, a fraction only where there is one. -/
def Layout.plain : Layout := ⟨.up, none, "", "NaN", "inf"⟩

/-! ## Algorithm -/

/-- The decimal digits of `n`, most significant first. -/
def digitChars (n : Nat) : List Char := Nat.toDigits 10 n

/-- Digits with a decimal point after the first `point` of them; a whole number ends in `mark`. -/
def positionalText (digits : List Char) (point : Int) (mark : String) : List Char :=
  if point ≤ 0 then
    '0' :: '.' :: (List.replicate (-point).toNat '0' ++ digits)
  else if (digits.length : Int) ≤ point then
    digits ++ List.replicate (point.toNat - digits.length) '0' ++ mark.toList
  else
    digits.take point.toNat ++ '.' :: digits.drop point.toNat

/-- One digit, the others as a fraction, and the exponent with its sign. -/
def scientificText (digits : List Char) (exponent : Int) : List Char :=
  let head := match digits with
    | [] => ['0']
    | [d] => [d]
    | d :: ds => d :: '.' :: ds
  head ++ 'e' :: (if exponent < 0 then '-' else '+') :: digitChars exponent.natAbs

/-- The text of a decimal, without sign. -/
def Layout.magnitudeText (l : Layout) (d : Decimal) : List Char :=
  if d.digits = 0 then '0' :: l.wholeMark.toList
  else
    let digits := digitChars d.digits
    let point := (digits.length : Int) + d.exponent
    match l.positional with
    | none => positionalText digits point l.wholeMark
    | some (low, high) =>
      if low ≤ point - 1 ∧ point - 1 ≤ high then positionalText digits point l.wholeMark
      else scientificText digits (point - 1)

/-- Whether the sign bit is set: true of negative numbers and of negative zero. -/
def isNegative (x : Float) : Bool := Nat.pow 2 63 ≤ x.toBits.toNat

/-- The text of any double. -/
def Layout.text (l : Layout) (x : Float) : String :=
  if x.isNaN then l.notANumber
  else
    let sign := if isNegative x then "-" else ""
    if x.isInf then sign ++ l.infinity
    else sign ++ String.ofList (l.magnitudeText (shortest l.tie x))

end Decimal

end ListingQuery
