/-!
# Reading numbers from text

`integer?` reads an optionally signed run of decimal digits.  `double?` reads the usual written forms
of a double: an optional sign, then digits with an optional point and an optional exponent, or one of
the words `inf`, `infinity` and `nan` in any case.  At least one digit stands before or after the
point, nothing else may surround the number, and the result is the double nearest to it.
-/

namespace ListingQuery

namespace Decimal

/-! ## Algorithm -/

/-- The value of a decimal digit. -/
def digitValue (c : Char) : Nat := c.toNat - '0'.toNat

/-- The number written by a run of decimal digits. -/
def natOfDigits (digits : List Char) : Nat :=
  digits.foldl (fun n c => 10 * n + digitValue c) 0

/-- Cut an optional leading sign off: whether it was a minus, and the rest. -/
def cutSign : List Char → Bool × List Char
  | '+' :: rest => (false, rest)
  | '-' :: rest => (true, rest)
  | text => (false, text)

/-- An optionally signed run of decimal digits. -/
def integer? (text : List Char) : Option Int :=
  let (negative, digits) := cutSign text
  if digits.isEmpty || !digits.all Char.isDigit then none
  else
    let n : Int := natOfDigits digits
    some (if negative then -n else n)

/-- The double nearest to `digits · 10^exponent`, infinite if it is too large. -/
def nearest (digits : Nat) (exponent : Int) : Float :=
  if digits = 0 then 0.0
  else
    let size := exponent + (Nat.toDigits 10 digits).length
    if 400 < size then 1.0 / 0.0
    else if size < -400 then 0.0
    else Float.ofScientific digits (exponent < 0) exponent.natAbs

/-- The exponent part of a number: nothing, or `e` and an optionally signed run of digits. -/
def exponent? : List Char → Option Int
  | [] => some 0
  | c :: rest => if c = 'e' ∨ c = 'E' then integer? rest else none

/-- A number without sign: digits, an optional point with digits, an optional exponent. -/
def unsigned? (text : List Char) : Option Float :=
  let whole := text.takeWhile Char.isDigit
  let rest := text.dropWhile Char.isDigit
  let (fraction, rest) := match rest with
    | '.' :: rest => (rest.takeWhile Char.isDigit, rest.dropWhile Char.isDigit)
    | rest => ([], rest)
  if whole.isEmpty && fraction.isEmpty then none
  else (exponent? rest).map fun e =>
    nearest (natOfDigits (whole ++ fraction)) (e - fraction.length)

/-- Any written form of a double. -/
def double? (text : List Char) : Option Float :=
  let (negative, rest) := cutSign text
  let word := String.ofList (rest.map Char.toLower)
  let magnitude :=
    if word = "inf" ∨ word = "infinity" then some (1.0 / 0.0)
    else if word = "nan" then some (0.0 / 0.0)
    else unsigned? rest
  magnitude.map fun x => if negative then -x else x

end Decimal

end ListingQuery
