import ListingQuery.Json.Wire

/-!
# Records on the wire

A record is written as an object, or as an array of its fields in declaration order.  Reading goes
through the members in the order of the text: a field may not come twice, a key that is no field is
skipped or refused, and a field that is missing must have a default.  In an array, trailing fields
may be missing, and there may be no item beyond the last field.
-/

namespace ListingQuery

/-- One field of a record of type `ρ`. -/
structure RecordField (ρ : Type) where
  name : String
  /-- The record cannot be read without this field. -/
  required : Bool
  read : Wire → ρ → Except WireFault ρ

/-- The fields of a record in declaration order. -/
structure RecordForm (ρ : Type) where
  fields : List (RecordField ρ)
  /-- A key that is no field is a fault. -/
  strict : Bool

namespace RecordForm

variable {ρ : Type}

/-! ## Algorithm -/

/-- The field with this name. -/
def field? (form : RecordForm ρ) (name : String) : Option (RecordField ρ) :=
  form.fields.find? (·.name == name)

/-- Read the members of an object into the record; the names of the fields seen come along. -/
def readMembers (form : RecordForm ρ) :
    List (Option String × Wire) → List String → ρ → Except WireFault (List String × ρ)
  | [], seen, r => .ok (seen, r)
  | (none, _) :: _, _, _ => .error .malformed
  | (some key, w) :: ms, seen, r =>
    match form.field? key with
    | some field =>
      if seen.contains key then .error .misfit
      else do
        let r ← field.read w r
        form.readMembers ms (key :: seen) r
    | none =>
      if form.strict then .error .misfit
      else if w.isSkippable then form.readMembers ms seen r
      else .error .malformed

/-- Read items into the fields, in order; the fields without an item are left over. -/
def readPositions : List (RecordField ρ) → List Wire → ρ →
    Except WireFault (List (RecordField ρ) × ρ)
  | left, [], r => .ok (left, r)
  | [], _ :: _, _ => .error .malformed
  | field :: fields, w :: ws, r => do
    let r ← field.read w r
    readPositions fields ws r

/-- Read a record, starting from its defaults. -/
def read (form : RecordForm ρ) (defaults : ρ) : Wire → Except WireFault ρ
  | .object members closed => do
    let (seen, r) ← form.readMembers members [] defaults
    if !closed then .error .malformed
    else if form.fields.any fun f => f.required && !seen.contains f.name then .error .misfit
    else .ok r
  | .array items closed => do
    let (left, r) ← readPositions form.fields items defaults
    if !closed then .error .malformed
    else if left.any (·.required) then .error .misfit
    else .ok r
  | w => .error w.fault

end RecordForm

end ListingQuery
