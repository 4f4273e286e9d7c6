import ListingQuery.Document.Sorting
import ListingQuery.Error
import ListingQuery.Listing.Store
import ListingQuery.Predicate.Matches

/-!
# Rows in memory

A store that keeps its rows as JSON, in the order in which they were inserted.  Rows are encoded when
they are inserted and decoded when a page of them is fetched; only the rows of the page are decoded.
-/

namespace ListingQuery

/-- How rows of type `ρ` are written as JSON and read back; both may fail with a reason. -/
structure RowCodec (ρ : Type) where
  encode : ρ → Except String Json
  decode : Json → Except String ρ

/-- The stored rows. -/
structure MemoryStore where
  rows : List Json := []

namespace MemoryStore

variable {ρ : Type}

/-! ## Algorithm -/

/-- Append a row. -/
def insert (codec : RowCodec ρ) (s : MemoryStore) (row : ρ) : Except StorageError MemoryStore :=
  match codec.encode row with
  | .ok v => .ok ⟨s.rows ++ [v]⟩
  | .error reason => .error (.serialization reason)

/-- A store with some rows. -/
def ofRows (codec : RowCodec ρ) (rows : List ρ) : Except StorageError MemoryStore :=
  rows.foldlM (insert codec) {}

/-- The number of rows. -/
def size (s : MemoryStore) : Nat := s.rows.length

/-- The rows that satisfy a predicate. -/
def select (s : MemoryStore) (p : Predicate) : List Json := s.rows.filter p.holds

/-- The number of rows that satisfy a predicate, or of all rows. -/
def count (s : MemoryStore) (p? : Option Predicate) : Nat :=
  match p? with
  | none => s.size
  | some p => (s.select p).length

/-- The stored rows of a page; without sort keys they keep their order. -/
def page (s : MemoryStore) (p : Predicate) (page : Page) (sort : List SortKey) : List Json :=
  Document.window page (if sort.isEmpty then s.select p else Document.sortBy sort (s.select p))

/-- Decode stored rows, up to the first failure. -/
def decodeAll (codec : RowCodec ρ) : List Json → Except StorageError (List ρ)
  | [] => .ok []
  | v :: vs =>
    match codec.decode v with
    | .error reason => .error (.serialization reason)
    | .ok row => (decodeAll codec vs).map (row :: ·)

/-- The store that answers from these rows. -/
def toStore {m : Type → Type} [Monad m] (codec : RowCodec ρ) (s : MemoryStore) : Store m ρ where
  count p? := pure (.ok (s.count p?))
  find p page sort := pure (
    match decodeAll codec (s.page p page sort) with
    | .ok rows => .ok rows
    | .error e => .error ⟨[e.message]⟩)

end MemoryStore

end ListingQuery
