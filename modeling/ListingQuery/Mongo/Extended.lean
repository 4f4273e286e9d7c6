import ListingQuery.Calendar.Parser
import ListingQuery.Calendar.Printer
import ListingQuery.Decimal.Reading
import ListingQuery.Mongo.Bson
import ListingQuery.Text.Split

/-!
# Written forms of scalars

Numbers, dates, identifiers and the like are written under one key, as a text or a number.  Reading
these forms is reading the texts; a text that is none of the type leaves the object a document.  Types
that are written with more than one key, or as an object under their key, are not read.
-/

namespace ListingQuery.Mongo

open Calendar (Instant)

namespace Bson

/-! ## Dates -/

/-- The digits of a fraction without zeros at the end. -/
def fractionText (millis : Nat) : List Char :=
  if millis = 0 then []
  else '.' :: ((Calendar.padded 3 millis).reverse.dropWhile (· == '0')).reverse

/-- The written form of a date, for the years after 1969 that have four digits. -/
def dateText? (t : Instant) : Option String :=
  if 1970 ≤ t.date.year ∧ t.date.year ≤ 9999 then
    some (String.ofList (
      t.textToSecond ++ fractionText (t.nano % 1000000000 / 1000000) ++ ['Z']))
  else none

/-- A date `millis` milliseconds after the start of 1970. -/
def dateOfMillis (millis : Int) : Bson :=
  match (Instant.ofEpochMillis? millis).bind dateText? with
  | some text => other (.object [("$date", .string text)])
  | none =>
    other (.object [("$date", .object [("$numberLong", .string (toString millis))])])

/-! ## Other types -/

/-- A whole number of so many bits, with a sign. -/
def integerOfText? (bits : Nat) (text : String) : Option Bson := do
  let n ← Decimal.integer? text.toList
  let bound : Int := Nat.pow 2 (bits - 1)
  if -bound ≤ n ∧ n < bound then some (integer n) else none

/-- A double, the infinite ones by name. -/
def doubleOfText? (text : String) : Option Bson :=
  if text = "Infinity" then some (double (1.0 / 0.0))
  else if text = "-Infinity" then some (double (-1.0 / 0.0))
  else (Decimal.double? text.toList).map double

/-- An object identifier: 24 hexadecimal digits. -/
def objectIdOfText? (text : String) : Option Bson :=
  let isHex (c : Char) : Bool := c.isDigit || ('a' ≤ c && c ≤ 'f') || ('A' ≤ c && c ≤ 'F')
  if text.length = 24 ∧ text.toList.all isHex then
    some (other (.object [("$oid", .string (Text.asciiLower text))]))
  else none

/-- The value that a single member with a dollar sign in its key may stand for. -/
def ofExtended? : String → Bson → Option Bson
  | "$numberInt", string text => integerOfText? 32 text
  | "$numberLong", string text => integerOfText? 64 text
  | "$numberDouble", string text => doubleOfText? text
  | "$numberDecimal", string text =>
    if (Decimal.double? text.toList).isSome then
      some (other (.object [("$numberDecimal", .string text)]))
    else none
  | "$oid", string text => objectIdOfText? text
  | "$symbol", string text => some (other (.object [("$symbol", .string text)]))
  | "$code", string text => some (other (.object [("$code", .string text)]))
  | "$date", integer millis => some (dateOfMillis millis)
  | "$date", string text => do
    let t ← Instant.ofTimestamp? text
    let canonical ← dateText? t
    some (other (.object [("$date", .string canonical)]))
  | "$minKey", integer 1 => some (other (.object [("$minKey", .ofInt 1)]))
  | "$maxKey", integer 1 => some (other (.object [("$maxKey", .ofInt 1)]))
  | "$undefined", boolean true => some (other (.object [("$undefined", .bool true)]))
  | _, _ => none

/-! ## Lemmas -/

theorem isLeaf_integerOfText? {bits : Nat} {text : String} {b : Bson}
    (h : integerOfText? bits text = some b) : b.isLeaf = true := by
  rw [integerOfText?] at h
  cases hn : Decimal.integer? text.toList with
  | none => simp [hn] at h
  | some n =>
    simp only [hn, bind, Option.bind_some, Option.ite_none_right_eq_some] at h
    obtain ⟨-, h⟩ := h
    cases h
    rfl

theorem isLeaf_doubleOfText? {text : String} {b : Bson} (h : doubleOfText? text = some b) :
    b.isLeaf = true := by
  rw [doubleOfText?] at h
  split at h
  · cases h
    rfl
  split at h
  · cases h
    rfl
  · obtain ⟨x, -, rfl⟩ := Option.map_eq_some_iff.1 h
    rfl

theorem isLeaf_dateOfMillis (millis : Int) : (dateOfMillis millis).isLeaf = true := by
  unfold dateOfMillis
  -- whether the number is a date at all is left open
  generalize (Calendar.Instant.ofEpochMillis? millis).bind dateText? = text?
  cases text? <;> rfl

/-- A written form has a key with a dollar sign, and stands for a value without members. -/
theorem ofExtended?_eq_some {key : String} {written b : Bson}
    (h : ofExtended? key written = some b) : key.toList.head? = some '$' ∧ b.isLeaf = true := by
  unfold ofExtended? at h
  split at h
  · exact ⟨by decide, isLeaf_integerOfText? h⟩
  · exact ⟨by decide, isLeaf_integerOfText? h⟩
  · exact ⟨by decide, isLeaf_doubleOfText? h⟩
  · obtain ⟨-, h⟩ := Option.ite_none_right_eq_some.1 h
    exact ⟨by decide, Option.some.inj h ▸ rfl⟩
  · obtain ⟨-, h⟩ := Option.ite_none_right_eq_some.1 h
    exact ⟨by decide, Option.some.inj h ▸ rfl⟩
  · exact ⟨by decide, Option.some.inj h ▸ rfl⟩
  · exact ⟨by decide, Option.some.inj h ▸ rfl⟩
  · exact ⟨by decide, Option.some.inj h ▸ isLeaf_dateOfMillis _⟩
  · simp only [bind, Option.bind_eq_some_iff] at h
    obtain ⟨t, -, text, -, h⟩ := h
    exact ⟨by decide, Option.some.inj h ▸ rfl⟩
  · exact ⟨by decide, Option.some.inj h ▸ rfl⟩
  · exact ⟨by decide, Option.some.inj h ▸ rfl⟩
  · exact ⟨by decide, Option.some.inj h ▸ rfl⟩
  · cases h

/-- The value of a single member that is a written form. -/
def ofSingle? : Document → Option Bson
  | [(key, v)] => ofExtended? key v
  | _ => none

theorem ofSingle?_eq_some {members : Document} {b : Bson} (h : ofSingle? members = some b) :
    ∃ key v, members = [(key, v)] ∧ ofExtended? key v = some b := by
  match members with
  | [] => cases h
  | [(key, v)] => exact ⟨key, v, rfl, h⟩
  | _ :: _ :: _ => cases h

end Bson

/-- The written forms of scalars. -/
def scalarForms : WrittenForms where
  read := Bson.ofSingle?
  isDollar_of_read h := by
    obtain ⟨key, v, rfl, hread⟩ := Bson.ofSingle?_eq_some h
    exact ⟨List.cons_ne_nil _ _, List.forall_mem_singleton.2 (Bson.ofExtended?_eq_some hread).1⟩
  isLeaf_of_read h := by
    obtain ⟨key, v, rfl, hread⟩ := Bson.ofSingle?_eq_some h
    exact (Bson.ofExtended?_eq_some hread).2

end ListingQuery.Mongo
