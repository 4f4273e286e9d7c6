import ListingQuery.Calendar.Date

/-!
# Instants

An instant is a date, a second of that day and a fraction of the second, all in UTC.  During a leap
second the fraction goes on past one second: the second stays the last of its minute and the
nanoseconds run from `10^9` to below `2 · 10^9`.
-/

namespace ListingQuery.Calendar

/-- A moment in UTC. -/
structure Instant where
  date : Date
  /-- The second of the day. -/
  second : Nat
  nano : Nat
  second_lt : second < 86400
  nano_lt : nano < 2000000000
  deriving DecidableEq

namespace Instant

/-! ## Algorithm -/

/-- The instant with these parts, if there is one. -/
def ofParts? (date : Date) (second nano : Nat) : Option Instant :=
  if hs : second < 86400 then
    if hn : nano < 2000000000 then some ⟨date, second, nano, hs, hn⟩ else none
  else none

/-- The moment at which clocks `offset` seconds ahead of UTC show this date and time; the offset is
less than a day. -/
def ofLocal? (date : Date) (second nano : Nat) (offset : Int) : Option Instant :=
  let utc : Int := (second : Int) - offset
  if utc < 0 then do
    let date ← date.previous?
    ofParts? date (utc + 86400).toNat nano
  else if 86400 ≤ utc then do
    let date ← date.next?
    ofParts? date (utc - 86400).toNat nano
  else ofParts? date utc.toNat nano

/-- The instant `millis` milliseconds after the start of 1970. -/
def ofEpochMillis? (millis : Int) : Option Instant := do
  let date ← Date.ofEpochDays? (millis.fdiv 86400000)
  let ofDay := (millis.fmod 86400000).toNat
  ofParts? date (ofDay / 1000) (ofDay % 1000 * 1000000)

/-- The order in time. -/
def compare (a b : Instant) : Ordering :=
  (a.date.compare b.date).then
    ((Ord.compare a.second b.second).then (Ord.compare a.nano b.nano))

end Instant

end ListingQuery.Calendar
