import ListingQuery.Listing.Envelope
import ListingQuery.Listing.Store
import ListingQuery.Query.Assembly

/-!
# Listings

A listing answers descriptions about one collection.  It counts all rows first; if there are none, or
the store fails, that is the answer.  Then it compiles the description, and counts what is left and
fetches the page at once.  No failure escapes: it ends up in the envelope, with the total kept.

A listing may have a fixed predicate of its own.  It holds for the total and, joined with whatever
else is asked, for every row that is returned.

Where a description is compiled, the call brings the words for a limit that is refused.
-/

namespace ListingQuery

/-- A collection and the store behind it. -/
structure Listing (m : Type → Type) (ρ : Type) where
  schema : CollectionSchema
  store : Store m ρ
  /-- No page is larger, not even that of all rows. -/
  maxPageSize : Nat := defaultMaxPageSize
  /-- The predicate that every row has to satisfy. -/
  preFilter? : Option Predicate := none

namespace Listing

variable {m : Type → Type} {ρ σ : Type}

/-! ## Algorithm -/

/-- Compile a description. -/
def assemble (l : Listing m ρ) (d : QueryDescription) : Except QueryError AssembledQuery :=
  AssembledQuery.assemble l.schema d l.maxPageSize

/-- The predicate of a query joined with the fixed one and an additional one. -/
def filteredPredicate (l : Listing m ρ) (q : AssembledQuery) (additional? : Option Predicate) :
    Predicate :=
  Predicate.conj (l.preFilter?.toList ++ q.predicate :: additional?.toList)

variable [Monad m]

/-- Count all rows and, if there are some, go on with the envelope that has the total. -/
def withTotal (l : Listing m ρ) (draw? : Option Nat)
    (next : QueryResult ρ → m (QueryResult ρ)) : m (QueryResult ρ) := do
  match ← l.store.count l.preFilter? with
  | .error e => pure ((QueryResult.empty draw?).fail e.message)
  | .ok total =>
    let r : QueryResult ρ := { QueryResult.empty draw? with total := total }
    if total = 0 then pure r else next r

section Rows

variable [Concurrent m]

/-- Count what is left of the rows and, at the same time, fetch the page. -/
def run (l : Listing m ρ) (q : AssembledQuery) (additional? : Option Predicate)
    (r : QueryResult ρ) : m (QueryResult ρ) := do
  let p := l.filteredPredicate q additional?
  match ← Concurrent.tryBoth (l.store.count (some p)) (l.store.find p q.page q.sort) with
  | .error e => pure (r.fail e.message)
  | .ok (filtered, data) => pure { r with filtered := filtered, data := data }

/-- Run a query that is compiled already. -/
def execute (l : Listing m ρ) (q : AssembledQuery) : m (QueryResult ρ) :=
  l.withTotal q.draw? (l.run q none)

/-- Compile a description and run it, with an additional predicate on the rows but not on the
total. -/
def findAllWith? (l : Listing m ρ) (wording : Wording) (d : QueryDescription)
    (additional? : Option Predicate) : m (QueryResult ρ) :=
  l.withTotal d.draw? fun r =>
    match l.assemble d with
    | .error e => pure (r.fail (e.message wording))
    | .ok q => l.run q additional? r

/-- Compile a description and run it. -/
def findAll (l : Listing m ρ) (wording : Wording) (d : QueryDescription) : m (QueryResult ρ) :=
  l.findAllWith? wording d none

/-- Compile a description and run it, with an additional predicate. -/
def findAllWith (l : Listing m ρ) (wording : Wording) (d : QueryDescription)
    (additional : Predicate) : m (QueryResult ρ) :=
  l.findAllWith? wording d (some additional)

/-- Compile a description, run it and convert the rows. -/
def findAllAs (l : Listing m ρ) (wording : Wording) (d : QueryDescription) (convert : ρ → σ) :
    m (QueryResult σ) := do
  let r ← l.findAll wording d
  pure (r.map convert)

end Rows

/-- The counts for a description, without rows. -/
def count (l : Listing m ρ) (wording : Wording) (d : QueryDescription) : m CountResult := do
  match ← l.store.count l.preFilter? with
  | .error e => pure (CountResult.fail {} e.message)
  | .ok total =>
    let r : CountResult := { total := total }
    if total = 0 then pure r
    else
      match l.assemble d with
      | .error e => pure (r.fail (e.message wording))
      | .ok q =>
        match ← l.store.count (some (l.filteredPredicate q none)) with
        | .error e => pure (r.fail e.message)
        | .ok filtered => pure { r with filtered := filtered }

end Listing

end ListingQuery
