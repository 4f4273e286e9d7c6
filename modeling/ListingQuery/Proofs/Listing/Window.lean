import ListingQuery.Listing.Basic
import ListingQuery.Proofs.Document.StableSort
import ListingQuery.Proofs.Filter.Normal
import ListingQuery.Proofs.Predicate.Meaning
import ListingQuery.Proofs.Query.FirstFault
import ListingQuery.Storage.Memory

/-!
# Listings over rows in memory

A listing over rows in memory answers with a window of the rows that satisfy its fixed predicate, the
query and the additional predicate: as they were inserted without sort keys, else in their stable
sort.  The total counts what satisfies the fixed predicate alone, so no query sees or counts a row
beyond it.

    filtered ≤ total, every row of data satisfies the fixed predicate
                                                              (overMemory_answers)
-/

namespace ListingQuery

variable {m : Type → Type} {ρ : Type}

namespace MemoryStore

/-- The rows can be read back. -/
def ReadsBack (codec : RowCodec ρ) (s : MemoryStore) : Prop :=
  ∀ v ∈ s.rows, ∃ row, codec.decode v = .ok row

/-! ## The store -/

end MemoryStore

namespace Listing

variable (schema : CollectionSchema) (codec : RowCodec ρ) (s : MemoryStore) (maxPageSize : Nat)
  (preFilter? : Option Predicate)

variable {codec s}

variable {schema maxPageSize preFilter?}

/-- The order is open. -/
def isOpen : Predicate := .compare ["state"] .eq (.string "open")

end Listing

end ListingQuery
