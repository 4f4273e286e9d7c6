import ListingQuery.Listing.Store
import ListingQuery.Mongo.Filter
import ListingQuery.Storage.Memory

/-!
# Rows in a MongoDB collection

A store that leaves its rows to a server: it sends filters and documents and reads the documents that
come back.  A page without rows needs no server, and neither does inserting no rows.
-/

namespace ListingQuery.Mongo

/-- A request for documents. -/
structure FindRequest where
  filter : Document
  sort : Document
  skip : Nat
  limit : Nat

/-- The connection to one collection of a server; a refusal comes with a reason. -/
structure Connection (m : Type → Type) where
  insert : List Document → m (Except String Unit)
  count : Document → m (Except String Nat)
  find : FindRequest → m (Except String (List Document))

/-- The largest limit that a server understands. -/
def maxLimit : Nat := Nat.pow 2 63 - 1

/-- A failure with its reason behind it. -/
def failure (what reason : String) : StoreFailure := ⟨[what ++ ": " ++ reason]⟩

variable {m : Type → Type} [Monad m] {ρ : Type}

/-! ## Algorithm -/

/-- The documents for rows, up to the first row that cannot be stored. -/
def documentsOf (forms : WrittenForms) (wording : Wording) (codec : RowCodec ρ) :
    List ρ → Except StoreFailure (List Document)
  | [] => .ok []
  | row :: rows =>
    match codec.encode row with
    | .error reason => .error (failure "Failed to serialize row" reason)
    | .ok json =>
      match documentOfRow forms json with
      | .error fault => .error ⟨[fault.message wording]⟩
      | .ok d => (documentsOf forms wording codec rows).map (d :: ·)

/-- Insert rows in order, all or none. -/
def insertMany (forms : WrittenForms) (wording : Wording) (codec : RowCodec ρ) (c : Connection m)
    (rows : List ρ) : m (Except StoreFailure Unit) := do
  match documentsOf forms wording codec rows with
  | .error f => pure (.error f)
  | .ok [] => pure (.ok ())
  | .ok ds =>
    match ← c.insert ds with
    | .error reason => pure (.error (failure "Failed to insert rows" reason))
    | .ok () => pure (.ok ())

/-- The rows for documents, up to the first that is none. -/
def rowsOf (codec : RowCodec ρ) : List Document → Except StoreFailure (List ρ)
  | [] => .ok []
  | d :: ds =>
    match codec.decode (rowOfDocument d) with
    | .error reason => .error (failure "Failed to deserialize row from document" reason)
    | .ok row => (rowsOf codec ds).map (row :: ·)

/-- The store behind a connection. -/
def store (codec : RowCodec ρ) (c : Connection m) : Store m ρ where
  count p? := do
    match ← c.count ((p?.map filterDocument).getD []) with
    | .error reason => pure (.error (failure "Failed to count documents" reason))
    | .ok n => pure (.ok n)
  find p page sort := do
    if page.limit = 0 then pure (.ok [])
    else
      match ← c.find ⟨filterDocument p, sortDocument sort, page.offset, min page.limit maxLimit⟩ with
      | .error reason => pure (.error (failure "Failed to query documents" reason))
      | .ok ds => pure (rowsOf codec ds)

end ListingQuery.Mongo
