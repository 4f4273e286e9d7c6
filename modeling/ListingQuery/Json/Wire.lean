import ListingQuery.Json.Basic

/-!
# JSON as it arrives

A `Wire` is a JSON text with its faults left where a reader meets them, in reading order.  A text is
never refused as a whole: a container that the text leaves open is marked as not closed, a value that
cannot be read at all is `broken`, and one that is well formed but has no meaning (a number beyond
the doubles, half a surrogate pair, a container nested too deeply) is `unreadable`.  A reader that
skips a value does not mind the last kind.

    value? (ofJson v) = some v, for objects without repeated keys
-/

namespace ListingQuery

/-- The way in which a text fails to be the value that was asked for. -/
inductive WireFault where
  /-- The text is not JSON. -/
  | malformed
  /-- The JSON is not a value of the wanted form. -/
  | misfit
  deriving DecidableEq, Repr

/-- A JSON text with its faults in place. -/
inductive Wire where
  | null
  | bool (b : Bool)
  | number (n : Number)
  | string (s : String)
  /-- The items read; `closed` says that the array ends there and not in a fault. -/
  | array (items : List Wire) (closed : Bool)
  /-- The members read; a key without meaning is `none`. -/
  | object (members : List (Option String × Wire)) (closed : Bool)
  | unreadable
  | broken

namespace Wire

/-! ## Algorithm -/

mutual

/-- A value without faults. -/
def ofJson : Json → Wire
  | .null => .null
  | .bool b => .bool b
  | .number n => .number n
  | .string s => .string s
  | .array items => .array (ofItems items) true
  | .object members => .object (ofMembers members) true
  termination_by structural v => v

/-- The items of an array. -/
def ofItems : List Json → List Wire
  | [] => []
  | v :: vs => ofJson v :: ofItems vs
  termination_by structural vs => vs

/-- The members of an object. -/
def ofMembers : List (String × Json) → List (Option String × Wire)
  | [] => []
  | (k, v) :: ms => (some k, ofJson v) :: ofMembers ms
  termination_by structural ms => ms

end

mutual

/-- The value, if there is no fault in it; a repeated key keeps its first place and last value. -/
def value? : Wire → Option Json
  | .null => some .null
  | .bool b => some (.bool b)
  | .number n => some (.number n)
  | .string s => some (.string s)
  | .array items closed => do
    let vs ← items? items
    if closed then some (.array vs) else none
  | .object members closed => do
    let ms ← members? members
    if closed then some (.object (Keyed.ofEntries ms)) else none
  | .unreadable => none
  | .broken => none
  termination_by structural w => w

/-- The values of items without fault. -/
def items? : List Wire → Option (List Json)
  | [] => some []
  | w :: ws => do
    let v ← w.value?
    let vs ← items? ws
    some (v :: vs)
  termination_by structural ws => ws

/-- The entries of members without fault. -/
def members? : List (Option String × Wire) → Option (List (String × Json))
  | [] => some []
  | (k?, w) :: ms => do
    let k ← k?
    let v ← w.value?
    let es ← members? ms
    some ((k, v) :: es)
  termination_by structural ms => ms

end

mutual

/-- Whether a reader that has no use for the value gets past it. -/
def isSkippable : Wire → Bool
  | .array items closed => areSkippable items && closed
  | .object members closed => membersSkippable members && closed
  | .broken => false
  | _ => true
  termination_by structural w => w

/-- Whether a reader gets past all items. -/
def areSkippable : List Wire → Bool
  | [] => true
  | w :: ws => w.isSkippable && areSkippable ws
  termination_by structural ws => ws

/-- Whether a reader gets past all members. -/
def membersSkippable : List (Option String × Wire) → Bool
  | [] => true
  | (_, w) :: ms => w.isSkippable && membersSkippable ms
  termination_by structural ms => ms

end

/-- The fault of a value that is not of the wanted form. -/
def fault : Wire → WireFault
  | .unreadable => .malformed
  | .broken => .malformed
  | _ => .misfit

/-- Any value. -/
def readValue (w : Wire) : Except WireFault Json :=
  match w.value? with
  | some v => .ok v
  | none => .error .malformed

/-- A string. -/
def readString : Wire → Except WireFault String
  | .string s => .ok s
  | w => .error w.fault

/-- A truth value. -/
def readBool : Wire → Except WireFault Bool
  | .bool b => .ok b
  | w => .error w.fault

/-- A whole number that satisfies `fits`. -/
def readInt (fits : Int → Bool) : Wire → Except WireFault Int
  | .number (.int n) => if fits n then .ok n else .error .misfit
  | w => .error w.fault

/-- An unsigned 64-bit number. -/
def readNat (w : Wire) : Except WireFault Nat :=
  (readInt isUInt64 w).map Int.toNat

/-- A value that null leaves out. -/
def readOptional {α : Type} (read : Wire → Except WireFault α) : Wire → Except WireFault (Option α)
  | .null => .ok none
  | w => (read w).map some

/-- Read items in order, up to the first fault. -/
def readItems {α : Type} (read : Wire → Except WireFault α) : List Wire → Except WireFault (List α)
  | [] => .ok []
  | w :: ws => do
    let a ← read w
    let rest ← readItems read ws
    .ok (a :: rest)

/-- An array. -/
def readList {α : Type} (read : Wire → Except WireFault α) : Wire → Except WireFault (List α)
  | .array items closed => do
    let as ← readItems read items
    if closed then .ok as else .error .malformed
  | w => .error w.fault

/-- Read members in order into a keyed list. -/
def readEntries {α : Type} (read : Wire → Except WireFault α) :
    List (Option String × Wire) → Keyed α → Except WireFault (Keyed α)
  | [], m => .ok m
  | (none, _) :: _, _ => .error .malformed
  | (some k, w) :: ms, m => do
    let a ← read w
    readEntries read ms (Keyed.put m k a)

/-- An object with arbitrary keys; a repeated key keeps its first place and last value. -/
def readKeyed {α : Type} (read : Wire → Except WireFault α) : Wire → Except WireFault (Keyed α)
  | .object members closed => do
    let m ← readEntries read members []
    if closed then .ok m else .error .malformed
  | w => .error w.fault

end Wire

end ListingQuery
