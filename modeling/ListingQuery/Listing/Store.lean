import ListingQuery.Document.Order
import ListingQuery.Predicate.Basic
import ListingQuery.Query.Description

/-!
# Stores

A store answers two questions about its rows: how many satisfy a predicate, and which are on a page
of those that do.  It never sees wire names or untyped literals.  The monad `m` is what the store
needs to find its answers; it says what it means to ask both questions at once.
-/

namespace ListingQuery

/-- Why a store failed: the causes, the outermost first. -/
structure StoreFailure where
  causes : List String
  deriving DecidableEq, Repr

/-- The causes in one text. -/
def StoreFailure.message (f : StoreFailure) : String := Text.join ": " f.causes

/-- A source of rows of type `ρ`. -/
structure Store (m : Type → Type) (ρ : Type) where
  /-- The number of rows that satisfy the predicate, or of all rows. -/
  count : Option Predicate → m (Except StoreFailure Nat)
  /-- The rows that satisfy the predicate, sorted, as far as they are on the page. -/
  find : Predicate → Page → List SortKey → m (Except StoreFailure (List ρ))

/-- A monad in which two calls can be made at once. -/
class Concurrent (m : Type → Type) where
  /-- Make two calls at once, up to the first failure that is seen. -/
  tryBoth {ε α β : Type} : m (Except ε α) → m (Except ε β) → m (Except ε (α × β))

/-- Where no call waits, the first one is over before the second is made. -/
instance (priority := low) Concurrent.inOrder {m : Type → Type} [Monad m] : Concurrent m where
  tryBoth x y := do
    match ← x with
    | .error e => pure (.error e)
    | .ok a =>
      match ← y with
      | .error e => pure (.error e)
      | .ok b => pure (.ok (a, b))

end ListingQuery
