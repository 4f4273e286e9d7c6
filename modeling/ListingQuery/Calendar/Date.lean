/-!
# Calendar dates

Dates of the proleptic Gregorian calendar between the years -262143 and 262142.  A date is kept as
year, month and day; day numbers are only used to find the date of an epoch time.
-/

namespace ListingQuery.Calendar

/-! ## Algorithm -/

/-- Whether a year has 366 days. -/
def isLeap (year : Int) : Bool := year % 4 = 0 && (year % 100 ≠ 0 || year % 400 = 0)

/-- The number of days of a month. -/
def daysIn (year : Int) (month : Nat) : Nat :=
  if month = 2 then (if isLeap year then 29 else 28)
  else if month = 4 ∨ month = 6 ∨ month = 9 ∨ month = 11 then 30
  else 31

/-- Whether these are the parts of a date. -/
def isDate (year : Int) (month day : Nat) : Bool :=
  -262143 ≤ year && year ≤ 262142 && 1 ≤ month && month ≤ 12 && 1 ≤ day && day ≤ daysIn year month

/-- A day of the calendar. -/
structure Date where
  year : Int
  month : Nat
  day : Nat
  valid : isDate year month day = true
  deriving DecidableEq

namespace Date

/-- The date with these parts, if there is one. -/
def ofParts? (year : Int) (month day : Nat) : Option Date :=
  if h : isDate year month day = true then some ⟨year, month, day, h⟩ else none

/-- The day after. -/
def next? (d : Date) : Option Date :=
  if d.day < daysIn d.year d.month then ofParts? d.year d.month (d.day + 1)
  else if d.month < 12 then ofParts? d.year (d.month + 1) 1
  else ofParts? (d.year + 1) 1 1

/-- The day before. -/
def previous? (d : Date) : Option Date :=
  if 1 < d.day then ofParts? d.year d.month (d.day - 1)
  else if 1 < d.month then ofParts? d.year (d.month - 1) (daysIn d.year (d.month - 1))
  else ofParts? (d.year - 1) 12 31

/-- The date `days` after 1970-01-01.  Years are counted from March, so that the day that a leap
year adds is the last of its year, and in cycles of 400 years, which have 146097 days. -/
def ofEpochDays? (days : Int) : Option Date :=
  let shifted := days + 719468
  let cycle := shifted.fdiv 146097
  let dayOfCycle := (shifted.fmod 146097).toNat
  let yearOfCycle :=
    (dayOfCycle - dayOfCycle / 1460 + dayOfCycle / 36524 - dayOfCycle / 146096) / 365
  let dayOfYear := dayOfCycle - (365 * yearOfCycle + yearOfCycle / 4 - yearOfCycle / 100)
  let marchMonth := (5 * dayOfYear + 2) / 153
  let day := dayOfYear - (153 * marchMonth + 2) / 5 + 1
  let month := if marchMonth < 10 then marchMonth + 3 else marchMonth - 9
  let year := cycle * 400 + yearOfCycle + (if month ≤ 2 then 1 else 0)
  ofParts? year month day

/-- The order of dates. -/
def compare (a b : Date) : Ordering :=
  (Ord.compare a.year b.year).then ((Ord.compare a.month b.month).then (Ord.compare a.day b.day))

end Date

end ListingQuery.Calendar
