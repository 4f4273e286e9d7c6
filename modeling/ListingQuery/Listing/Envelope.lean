import ListingQuery.Json.Record

/-!
# Envelopes

Every answer of a listing is an envelope: the rows of a page with the counts around them, or the
counts alone.  An envelope with an error has no rows and no filtered count, but keeps the total that
was found before the failure.

    (r.fail e).total = r.total, (r.fail e).filtered = 0, (r.fail e).data = []
-/

namespace ListingQuery

/-- The rows of one page and the counts around them. -/
structure QueryResult (ρ : Type) where
  draw? : Option Nat := none
  /-- The number of rows before filtering. -/
  total : Nat := 0
  /-- The number of rows after filtering. -/
  filtered : Nat := 0
  data : List ρ := []
  error? : Option String := none

/-- The counts alone. -/
structure CountResult where
  total : Nat := 0
  filtered : Nat := 0
  error? : Option String := none
  deriving DecidableEq, Repr

namespace QueryResult

variable {ρ σ : Type}

/-! ## Algorithm -/

/-- An envelope without rows. -/
def empty (draw? : Option Nat) : QueryResult ρ := { draw? := draw? }

/-- Record a failure. -/
def fail (r : QueryResult ρ) (message : String) : QueryResult ρ :=
  { r with filtered := 0, data := [], error? := some message }

/-- Whether there is no error. -/
def isOk (r : QueryResult ρ) : Bool := r.error?.isNone

/-- Convert every row. -/
def map (f : ρ → σ) (r : QueryResult ρ) : QueryResult σ :=
  ⟨r.draw?, r.total, r.filtered, r.data.map f, r.error?⟩

/-- The wire form. -/
def toJson (r : QueryResult Json) : Json :=
  .object (
    Json.member "draw" Json.ofNat r.draw?
    ++ [("total", Json.ofNat r.total), ("filtered", Json.ofNat r.filtered),
      ("data", .array r.data)]
    ++ Json.member "error" .string r.error?)

/-- The wire form of envelopes. -/
def form : RecordForm (QueryResult Json) where
  strict := false
  fields := [
    ⟨"draw", false, fun w r => (Wire.readOptional Wire.readNat w).map fun n => { r with draw? := n }⟩,
    ⟨"total", true, fun w r => (Wire.readNat w).map fun n => { r with total := n }⟩,
    ⟨"filtered", true, fun w r => (Wire.readNat w).map fun n => { r with filtered := n }⟩,
    ⟨"data", true, fun w r =>
      (Wire.readList Wire.readValue w).map fun rows => { r with data := rows }⟩,
    ⟨"error", false, fun w r =>
      (Wire.readOptional Wire.readString w).map fun e => { r with error? := e }⟩]

/-- Read an envelope. -/
def ofWire (w : Wire) : Except WireFault (QueryResult Json) := form.read {} w

end QueryResult

namespace CountResult

/-- Record a failure. -/
def fail (r : CountResult) (message : String) : CountResult :=
  { r with filtered := 0, error? := some message }

/-- The wire form. -/
def toJson (r : CountResult) : Json :=
  .object (
    [("total", Json.ofNat r.total), ("filtered", Json.ofNat r.filtered)]
    ++ Json.member "error" .string r.error?)

/-- The wire form of counts. -/
def form : RecordForm CountResult where
  strict := false
  fields := [
    ⟨"total", true, fun w r => (Wire.readNat w).map fun n => { r with total := n }⟩,
    ⟨"filtered", true, fun w r => (Wire.readNat w).map fun n => { r with filtered := n }⟩,
    ⟨"error", false, fun w r =>
      (Wire.readOptional Wire.readString w).map fun e => { r with error? := e }⟩]

/-- Read counts. -/
def ofWire (w : Wire) : Except WireFault CountResult := form.read {} w

end CountResult

end ListingQuery
