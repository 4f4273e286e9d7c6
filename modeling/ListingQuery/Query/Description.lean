import ListingQuery.Error
import ListingQuery.Filter.Expression

/-!
# Query descriptions

A description is what a client asks of a listing: a page, sort keys in order of priority, filters by
field, and a text for the global search.  The page is a window of rows; the limit -1 asks for all of
them, and no page is larger than the bound of the collection.
-/

namespace ListingQuery

/-- The direction of a sort key. -/
inductive Direction where
  | asc
  | desc
  deriving DecidableEq, Repr

/-- A request for a listing. -/
structure QueryDescription where
  /-- A counter of the client's requests, echoed in the answer. -/
  draw? : Option Nat := none
  /-- The index of the first row. -/
  offset : Nat := 0
  /-- The number of rows, -1 for all. -/
  limit : Int := 10
  orderBy : Keyed Direction := []
  filters : Keyed FilterExpression := []
  search? : Option String := none

/-- A window of rows, always bounded. -/
structure Page where
  offset : Nat
  limit : Nat
  deriving DecidableEq, Repr

/-- The bound of pages where none is configured. -/
def defaultMaxPageSize : Nat := 2147483647

namespace Direction

/-- The word for a direction. -/
def code : Direction → String
  | asc => "asc"
  | desc => "desc"

/-- The direction with this word. -/
def ofCode? (code : String) : Option Direction :=
  if code = "asc" then some asc else if code = "desc" then some desc else none

/-- Read a direction: its word, or an object with the word as only key and null as its value. -/
def ofWire : Wire → Except WireFault Direction
  | .string s =>
    match ofCode? s with
    | some d => .ok d
    | none => .error .misfit
  | .object ((some key, w) :: more) closed =>
    match ofCode? key, w with
    | none, _ => .error .misfit
    | some d, .null => if more.isEmpty && closed then .ok d else .error .malformed
    | some _, w => .error w.fault
  | _ => .error .malformed

end Direction

namespace Page

/-- The number of the page among pages of its size, from 0; a page without rows is the first. -/
def index (p : Page) : Except QueryError Nat :=
  if p.limit = 0 then .ok 0
  else if p.offset % p.limit ≠ 0 then .error (.misalignedOffset p.offset p.limit)
  else .ok (p.offset / p.limit)

end Page

namespace QueryDescription

/-! ## Algorithm -/

/-- The rows asked for, where no page is larger than `max`. -/
def page (d : QueryDescription) (max : Nat) : Except QueryError Page :=
  if d.limit < -1 then .error (.invalidQuery (.limitOutOfRange d.limit))
  else if d.limit = -1 then .ok ⟨0, max⟩
  else .ok ⟨d.offset, min d.limit.toNat max⟩

/-- The wire form: what is optional only where it is set. -/
def toJson (d : QueryDescription) : Json :=
  .object (
    Json.member "draw" Json.ofNat d.draw?
    ++ [("offset", Json.ofNat d.offset), ("limit", Json.ofInt d.limit),
      ("order_by", .object (d.orderBy.mapValues fun direction => .string direction.code)),
      ("where", .object (d.filters.mapValues FilterExpression.toJson))]
    ++ Json.member "search" .string d.search?)

/-- The wire form of descriptions. -/
def form : RecordForm QueryDescription where
  strict := false
  fields := [
    ⟨"draw", false, fun w d => (Wire.readOptional Wire.readNat w).map fun n => { d with draw? := n }⟩,
    ⟨"offset", false, fun w d => (Wire.readNat w).map fun n => { d with offset := n }⟩,
    ⟨"limit", false, fun w d => (Wire.readInt isInt64 w).map fun n => { d with limit := n }⟩,
    ⟨"order_by", false, fun w d =>
      (Wire.readKeyed Direction.ofWire w).map fun m => { d with orderBy := m }⟩,
    ⟨"where", false, fun w d =>
      (Wire.readKeyed FilterExpression.ofWire w).map fun m => { d with filters := m }⟩,
    ⟨"search", false, fun w d =>
      (Wire.readOptional Wire.readString w).map fun s => { d with search? := s }⟩]

/-- Read a description. -/
def ofWire (w : Wire) : Except WireFault QueryDescription := form.read {} w

end QueryDescription

end ListingQuery
