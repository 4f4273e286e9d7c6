import ListingQuery.Keyed
import ListingQuery.Listing.Basic

/-!
# Registered listings

A registry holds listings by the name of their collection.  The types of their rows differ, so each
is kept as an endpoint, which gives rows as JSON.

    get (register r e) e.name = e                       (get_register_self)
-/

namespace ListingQuery

/-- A listing whose rows are JSON. -/
structure Endpoint (m : Type → Type) where
  name : String
  assemble : QueryDescription → Except QueryError AssembledQuery
  execute : AssembledQuery → m (QueryResult Json)
  count : Wording → QueryDescription → m CountResult

namespace QueryResult

/-- Encode the rows, up to the first that fails; then the envelope fails. -/
def encodeRows {ρ : Type} (encode : ρ → Except String Json) (r : QueryResult ρ) :
    QueryResult Json :=
  match r.data.mapM encode with
  | .ok rows => { r with data := rows }
  | .error reason =>
    QueryResult.fail { r with data := [] } ("Failed to serialize rows: " ++ reason)

end QueryResult

/-- The endpoint of a listing. -/
def Listing.endpoint {m : Type → Type} [Monad m] [Concurrent m] {ρ : Type}
    (encode : ρ → Except String Json) (l : Listing m ρ) : Endpoint m where
  name := l.schema.name
  assemble := l.assemble
  execute q := do
    let r ← l.execute q
    pure (r.encodeRows encode)
  count := l.count

/-- Listings by name. -/
structure Registry (m : Type → Type) where
  endpoints : Keyed (Endpoint m) := []

namespace Registry

variable {m : Type → Type}

/-! ## Algorithm -/

/-- Add an endpoint; it replaces one of the same name. -/
def register (r : Registry m) (e : Endpoint m) : Registry m :=
  ⟨Keyed.put r.endpoints e.name e⟩

/-- The endpoint with this name. -/
def get (r : Registry m) (name : String) : Except QueryError (Endpoint m) :=
  match Keyed.get? r.endpoints name with
  | some e => .ok e
  | none => .error (.unknownCollection name)

/-- The names, sorted. -/
def names (r : Registry m) : List String := (Keyed.keys r.endpoints).mergeSort

/-- Whether there is no listing. -/
def isEmpty (r : Registry m) : Bool := r.endpoints.isEmpty

/-! ## Lemmas -/

theorem get_register_self (r : Registry m) (e : Endpoint m) :
    (r.register e).get e.name = .ok e := by
  simp [get, register, Keyed.get?_put_self]

end Registry

end ListingQuery
