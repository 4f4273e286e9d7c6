import ListingQuery.Calendar.Instant
import ListingQuery.Decimal.Reading
import ListingQuery.Text.Blank

/-!
# Reading instants

A text is read as a timestamp with an offset from UTC; failing that, as a date and time in UTC;
failing that, as a date, which stands for its midnight.

A timestamp has a year of four digits and two digits for every other part; `T`, `t` or a space stands
before the time; digits of the fraction after the ninth do not count; the offset is `Z`, `z`, or a
sign (minus also as U+2212), hours up to 23 and minutes.  In the other two forms a part may have
fewer digits and blanks before it, and a year may have a sign and then any number of digits.  The
second 60 of a leap second is accepted in every minute.
-/

namespace ListingQuery.Calendar

open Decimal

/-! ## Algorithm -/

/-- A number of at least `least` and at most `most` digits, and the text behind it. -/
def number? (least most : Nat) (text : List Char) : Option (Nat × List Char) :=
  let digits := (text.takeWhile Char.isDigit).take most
  if digits.isEmpty || digits.length < least then none
  else some (natOfDigits digits, text.drop digits.length)

/-- The text behind this character. -/
def cut? (c : Char) : List Char → Option (List Char)
  | [] => none
  | d :: rest => if d = c then some rest else none

/-- The time of day of a clock that shows these parts: its second, and its nanoseconds. -/
def timeOfDay? (hour minute second nano : Nat) : Option (Nat × Nat) :=
  if hour < 24 ∧ minute < 60 then
    if second < 60 then some (hour * 3600 + minute * 60 + second, nano)
    else if second = 60 then some (hour * 3600 + minute * 60 + 59, nano + 1000000000)
    else none
  else none

/-! ### Timestamps -/

/-- The nanoseconds of an optional fraction. -/
def fraction? : List Char → Option (Nat × List Char)
  | '.' :: rest =>
    let digits := rest.takeWhile Char.isDigit
    if digits.isEmpty then none
    else
      let kept := digits.take 9
      some (natOfDigits kept * Nat.pow 10 (9 - kept.length), rest.dropWhile Char.isDigit)
  | rest => some (0, rest)

/-- The offset at the end of a timestamp, in seconds. -/
def offset? : List Char → Option (Int × List Char)
  | [] => none
  | c :: rest =>
    if c = 'Z' ∨ c = 'z' then some (0, rest)
    else if c = '+' ∨ c = '-' ∨ c = '\u2212' then do
      let (hours, rest) ← number? 2 2 rest
      let rest ← cut? ':' rest
      let (minutes, rest) ← number? 2 2 rest
      if hours < 24 ∧ minutes < 60 then
        let seconds : Int := hours * 3600 + minutes * 60
        some (if c = '+' then seconds else -seconds, rest)
      else none
    else none

/-- The mark between date and time of a timestamp, cut off. -/
def cutMark? : List Char → Option (List Char)
  | [] => none
  | c :: rest => if c = 'T' ∨ c = 't' ∨ c = ' ' then some rest else none

/-- A date and time with an offset from UTC. -/
def timestamp? (text : List Char) : Option Instant := do
  let (year, text) ← number? 4 4 text
  let text ← cut? '-' text
  let (month, text) ← number? 2 2 text
  let text ← cut? '-' text
  let (day, text) ← number? 2 2 text
  let text ← cutMark? text
  let (hour, text) ← number? 2 2 text
  let text ← cut? ':' text
  let (minute, text) ← number? 2 2 text
  let text ← cut? ':' text
  let (second, text) ← number? 2 2 text
  let (nano, text) ← fraction? text
  let (offset, text) ← offset? text
  if text.isEmpty then
    let date ← Date.ofParts? year month day
    let (second, nano) ← timeOfDay? hour minute second nano
    Instant.ofLocal? date second nano offset
  else none

/-! ### Dates and times in UTC -/

/-- A part of one or two digits, blanks before it left out. -/
def part? (text : List Char) : Option (Nat × List Char) :=
  number? 1 2 (text.dropWhile Text.isBlank)

/-- A year: up to four digits, or a sign and any number of digits. -/
def year? (text : List Char) : Option (Int × List Char) :=
  match text.dropWhile Text.isBlank with
  | '-' :: rest => (number? 1 rest.length rest).map fun (n, rest) => (-(n : Int), rest)
  | '+' :: rest => (number? 1 rest.length rest).map fun (n, rest) => ((n : Int), rest)
  | text => (number? 1 4 text).map fun (n, rest) => ((n : Int), rest)

/-- A date, and the text behind it. -/
def date? (text : List Char) : Option (Date × List Char) := do
  let (year, text) ← year? text
  let text ← cut? '-' text
  let (month, text) ← part? text
  let text ← cut? '-' text
  let (day, text) ← part? text
  let date ← Date.ofParts? year month day
  some (date, text)

/-- A date and time in UTC. -/
def dateTime? (text : List Char) : Option Instant := do
  let (date, text) ← date? text
  let text ← cut? 'T' text
  let (hour, text) ← part? text
  let text ← cut? ':' text
  let (minute, text) ← part? text
  let text ← cut? ':' text
  let (second, text) ← part? text
  if text.isEmpty then
    let (second, nano) ← timeOfDay? hour minute second 0
    Instant.ofParts? date second nano
  else none

/-- The midnight of a date. -/
def midnight? (text : List Char) : Option Instant := do
  let (date, text) ← date? text
  if text.isEmpty then Instant.ofParts? date 0 0 else none

/-- The instant that a timestamp, its text used whole, stands for. -/
def Instant.ofTimestamp? (text : String) : Option Instant := timestamp? text.toList

/-- The instant that a text in any accepted form stands for, blanks around it left out. -/
def Instant.ofText? (text : String) : Option Instant :=
  let chars := Text.trimChars text.toList
  (timestamp? chars).or ((dateTime? chars).or (midnight? chars))

end ListingQuery.Calendar
