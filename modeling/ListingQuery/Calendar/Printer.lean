import ListingQuery.Calendar.Instant

/-!
# Instants as text

The canonical form is `yyyy-mm-ddThh:mm:ss`, a fraction of 0, 3, 6 or 9 digits, whichever is the
first to be exact, and `Z`.  The fixed form always has nine digits, so that the order of texts is the
order in time.  Years beyond four digits and years before 0 have a sign; the second within a leap
second is 60.
-/

namespace ListingQuery.Calendar

/-! ## Algorithm -/

/-- A number with leading zeros, `width` digits at least. -/
def padded (width n : Nat) : List Char :=
  let digits := Nat.toDigits 10 n
  List.replicate (width - digits.length) '0' ++ digits

/-- The text of a year: four digits, or a sign and at least four. -/
def yearText (year : Int) : List Char :=
  if 0 ≤ year ∧ year ≤ 9999 then padded 4 year.toNat
  else (if year < 0 then '-' else '+') :: padded 4 year.natAbs

/-- The text of a date. -/
def Date.text (d : Date) : List Char :=
  yearText d.year ++ '-' :: padded 2 d.month ++ '-' :: padded 2 d.day

namespace Instant

/-- The second of the minute, 60 within a leap second. -/
def secondOfMinute (t : Instant) : Nat := t.second % 60 + t.nano / 1000000000

/-- The text up to the fraction. -/
def textToSecond (t : Instant) : List Char :=
  t.date.text ++ 'T' :: padded 2 (t.second / 3600) ++ ':' :: padded 2 (t.second / 60 % 60)
    ++ ':' :: padded 2 t.secondOfMinute

/-- The text of a fraction of nanoseconds: 0, 3, 6 or 9 digits. -/
def fractionText (nano : Nat) : List Char :=
  if nano = 0 then []
  else if nano % 1000000 = 0 then '.' :: padded 3 (nano / 1000000)
  else if nano % 1000 = 0 then '.' :: padded 6 (nano / 1000)
  else '.' :: padded 9 nano

/-- The canonical text. -/
def text (t : Instant) : String :=
  String.ofList (t.textToSecond ++ fractionText (t.nano % 1000000000) ++ ['Z'])

/-- The text with nine digits of fraction. -/
def fixedText (t : Instant) : String :=
  String.ofList (t.textToSecond ++ '.' :: padded 9 (t.nano % 1000000000) ++ ['Z'])

end Instant

end ListingQuery.Calendar
