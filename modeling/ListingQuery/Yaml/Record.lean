import ListingQuery.Json.Basic
import ListingQuery.Keyed
import ListingQuery.Yaml.Node

/-!
# Values from nodes

What a scalar means depends on what is wanted: every scalar is a text, but only plain scalars are
truth values or numbers.  An empty scalar stands for an empty list, and an empty or null plain scalar
for an optional value that is left out.
-/

namespace ListingQuery.Yaml

/-- One field of a record of type `ρ`. -/
structure NodeField (ρ : Type) where
  name : String
  /-- The record cannot be read without this field. -/
  required : Bool
  read : Node → ρ → Option ρ

namespace Node

/-! ## Scalars -/

/-- The full tag of a type of the language. -/
def coreTag (name : String) : List Char := ("tag:yaml.org,2002:" ++ name).toList

/-- Whether the scalar may be a truth value or a number: it is plain, or a literal block that the tag
says so of. -/
def mayBe (type : String) (style : Style) (tag : List Char) : Bool :=
  match style with
  | .plain => true
  | .literal => tag == coreTag type
  | .other => false

/-- A text. -/
def readString : Node → Option String
  | scalar text _ _ => some text
  | _ => none

/-- A truth value. -/
def readBool : Node → Option Bool
  | scalar text style tag =>
    if !mayBe "bool" style tag then none
    else if ["true", "True", "TRUE"].contains text then some true
    else if ["false", "False", "FALSE"].contains text then some false
    else none
  | _ => none

/-- The value of a digit, also beyond ten. -/
def digit? (base : Nat) (c : Char) : Option Nat :=
  let d := if c.isDigit then some (c.toNat - 0x30)
    else if 'a' ≤ c ∧ c ≤ 'f' then some (c.toNat - 0x61 + 10)
    else if 'A' ≤ c ∧ c ≤ 'F' then some (c.toNat - 0x41 + 10)
    else none
  d.filter (· < base)

/-- The number that digits stand for, of which there is at least one. -/
def number? (base : Nat) (digits : List Char) : Option Nat :=
  if digits.isEmpty then none
  else do
    let ds ← digits.mapM (digit? base)
    some (ds.foldl (fun n d => base * n + d) 0)

/-- A number in another base, behind the mark of its base. -/
def basedNumber? : List Char → Option Nat
  | '0' :: 'x' :: digits => number? 16 digits
  | '0' :: 'o' :: digits => number? 8 digits
  | '0' :: 'b' :: digits => number? 2 digits
  | _ => none

/-- A number of ten digits, without zeros in front. -/
def decimalNumber? : List Char → Option Nat
  | '0' :: _ :: _ => none
  | digits => number? 10 digits

/-- An unsigned 64-bit number, perhaps with a plus sign. -/
def readNat : Node → Option Nat
  | scalar text style tag =>
    let digits := match text.toList with
      | '+' :: rest => rest
      | cs => cs
    if !mayBe "int" style tag then none
    else ((basedNumber? digits).or (decimalNumber? digits)).filter fun n => isUInt64 n
  | _ => none

/-- Whether a text is one of the words for null. -/
def isNullWord (text : String) : Bool := ["null", "Null", "NULL", "~"].contains text

/-! ## Optional values, lists and records -/

/-- A value that may be left out. -/
def readOptional {α : Type} (read : Node → Option α) : Node → Option (Option α)
  | scalar text .plain tag =>
    if tag == coreTag "null" then if isNullWord text then some none else none
    else if tag.isEmpty && (text.isEmpty || isNullWord text) then some none
    else (read (scalar text .plain tag)).map some
  | n => (read n).map some

/-- A list. -/
def readList {α : Type} (read : Node → Option α) : Node → Option (List α)
  | sequence items => items.mapM read
  | scalar text _ _ => if text.isEmpty then some [] else none
  | _ => none

/-- Read entries into a record; the names of the fields seen come along.  A field may not come twice;
a key that is no field is skipped, but every key must be a scalar. -/
def readEntries {ρ : Type} (fields : List (NodeField ρ)) :
    List (Node × Node) → (seen : List String) → ρ → Option (List String × ρ)
  | [], seen, r => some (seen, r)
  | (k, v) :: es, seen, r => do
    let key ← k.readString
    match fields.find? (·.name == key) with
    | none => readEntries fields es seen r
    | some field =>
      if seen.contains key then none
      else do
        let r ← field.read v r
        readEntries fields es (key :: seen) r

/-- Read a record, starting from its defaults. -/
def readRecord {ρ : Type} (fields : List (NodeField ρ)) (defaults : ρ) (n : Node) : Option ρ := do
  let entries ← match n with
    | mapping entries => some entries
    | scalar text _ _ => if text.isEmpty then some [] else none
    | _ => none
  let (seen, r) ← readEntries fields entries [] defaults
  if fields.any fun f => f.required && !seen.contains f.name then none else some r

end Node

end ListingQuery.Yaml
