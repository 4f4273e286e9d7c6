import ListingQuery.Proofs.Listing.Calls
import ListingQuery.Proofs.Query.FirstFault

/-!
# Counting and listing agree

A store is steady if its answers depend on nothing but the call, however long they take, and it can
always fetch a page.  Over a steady store, counting says the same as listing, at whatever time each of
them is asked for; a query that is compiled beforehand is answered as its description is.  Each call
has its own words, but they are only heard if the limit is out of range.

    (l.findAll a d).counts and l.count b d are the same counts        (sameCounts_findAll)
    l.assemble d = .ok q → l.execute q = l.findAll wording d          (execute_eq_findAll)
-/

namespace ListingQuery

variable {σ ρ : Type}

/-- The answers of the store to each call. -/
structure Store.Answers (s : Store (Async σ) ρ)
    (counts : Option Predicate → Except StoreFailure Nat)
    (rows : Predicate → Page → List SortKey → List ρ) : Prop where
  count : ∀ p? w, ((s.count p?).run w).answer = counts p?
  find : ∀ p page sort w, ((s.find p page sort).run w).answer = .ok (rows p page sort)

/-- The answers of the store depend on nothing but the call, and pages can be fetched. -/
def Store.IsSteady (s : Store (Async σ) ρ) : Prop := ∃ counts rows, s.Answers counts rows

/-- If the second of two calls succeeds, the first decides. -/
theorem Async.answer_tryBoth_of_ok {α β ε : Type} {x : Async σ (Except ε α)}
    {y : Async σ (Except ε β)} {w : σ} {b : β} (h : (y.run (x.run w).world).answer = .ok b) :
    ((Concurrent.tryBoth x y).run w).answer = (x.run w).answer.map fun a => (a, b) := by
  rcases tryBoth_cases x y w with ⟨e, he, hboth⟩ | hboth
  · rw [hboth, he]
    rfl
  · rw [hboth]
    rcases joined_answer (x.run w) (y.run (x.run w).world) with ⟨a, b', ha, hb, hjoined⟩ |
      ⟨e, he | he, hjoined⟩
    · rw [h] at hb
      cases hb
      rw [hjoined, ha]
      rfl
    · rw [hjoined, he]
      rfl
    · rw [h] at he
      cases he

/-! ## Counts in two wordings -/

/-- The counts for a description in two wordings are the same: at most, the words differ about a limit
that is out of range. -/
structure SameCounts (a b : Wording) (d : QueryDescription) (c c' : CountResult) : Prop where
  total : c.total = c'.total
  filtered : c.filtered = c'.filtered
  error : c.error? = c'.error? ∨ d.limit < -1 ∧
    c.error? = some ((QueryError.invalidQuery (.limitOutOfRange d.limit)).message a) ∧
    c'.error? = some ((QueryError.invalidQuery (.limitOutOfRange d.limit)).message b)

namespace SameCounts

variable {a b : Wording} {d : QueryDescription}

@[refl]
theorem refl (c : CountResult) : SameCounts a b d c c := ⟨rfl, rfl, .inl rfl⟩

/-- In the same words, or with a limit that is in range, nothing differs. -/
theorem eq {c c' : CountResult} (h : SameCounts a b d c c') (hsame : a = b ∨ -1 ≤ d.limit) :
    c = c' := by
  have herror : c.error? = c'.error? := by
    rcases h.error with herror | ⟨hlimit, ha, hb⟩
    · exact herror
    · rcases hsame with rfl | hrange
      · exact ha.trans hb.symm
      · omega
  obtain ⟨total, filtered, error?⟩ := c
  obtain rfl : total = _ := h.total
  obtain rfl : filtered = _ := h.filtered
  obtain rfl : error? = _ := herror
  rfl

/-- A description that cannot be assembled fails the same counts. -/
theorem fail {schema : CollectionSchema} {maxPageSize : Nat} {e : QueryError}
    (h : AssembledQuery.assemble schema d maxPageSize = .error e) (c : CountResult) :
    SameCounts a b d (c.fail (e.message a)) (c.fail (e.message b)) := by
  refine ⟨rfl, rfl, ?_⟩
  rcases AssembledQuery.message_of_assemble h a b with hmessage | ⟨hlimit, rfl⟩
  · exact .inl (congrArg some hmessage)
  · exact .inr ⟨hlimit, rfl, rfl⟩

end SameCounts

namespace Listing

variable {l : Listing (Async σ) ρ} {counts : Option Predicate → Except StoreFailure Nat}
  {rows : Predicate → Page → List SortKey → List ρ}

/-! ## Over a steady store -/

/-- A run over a steady store fails only if the count does. -/
theorem answer_run (h : l.store.Answers counts rows) (q : AssembledQuery)
    (additional? : Option Predicate) (r : QueryResult ρ) (w : σ) :
    ((l.run q additional? r).run w).answer =
      match counts (some (l.filteredPredicate q additional?)) with
      | .error e => r.fail e.message
      | .ok filtered => { r with
          filtered := filtered
          data := rows (l.filteredPredicate q additional?) q.page q.sort } := by
  simp only [run, Async.answer_bind, Async.answer_tryBoth_of_ok (h.find _ _ _ _), h.count]
  cases counts (some (l.filteredPredicate q additional?)) with
  | error e => rfl
  | ok filtered => rfl

/-- What is answered does not depend on the time of asking, if it does not once there is a total. -/
theorem answer_withTotal (h : l.store.Answers counts rows) {draw? : Option Nat}
    {next : QueryResult ρ → Async σ (QueryResult ρ)}
    (hnext : ∀ r w w', ((next r).run w).answer = ((next r).run w').answer) (w w' : σ) :
    ((l.withTotal draw? next).run w).answer = ((l.withTotal draw? next).run w').answer := by
  simp only [withTotal, Async.answer_bind, h.count]
  cases counts l.preFilter? with
  | error e => rfl
  | ok total =>
    by_cases hzero : total = 0
    · simp only [hzero, if_true]
      rfl
    · simp only [hzero, if_false]
      exact hnext _ _ _

theorem answer_findAll (h : l.store.Answers counts rows) (wording : Wording)
    (d : QueryDescription) (w w' : σ) :
    ((l.findAll wording d).run w).answer = ((l.findAll wording d).run w').answer := by
  rw [findAll, findAllWith?]
  refine answer_withTotal h (fun r w w' => ?_) w w'
  cases l.assemble d with
  | error e => rfl
  | ok q => rw [answer_run h, answer_run h]

theorem sameCounts_findAll (h : l.store.Answers counts rows) (a b : Wording)
    (d : QueryDescription) (w w' : σ) :
    SameCounts a b d ((l.findAll a d).run w).answer.counts ((l.count b d).run w').answer := by
  simp only [findAll, findAllWith?, withTotal, count, Async.answer_bind, h.count]
  cases counts l.preFilter? with
  | error e => exact .refl _
  | ok total =>
    by_cases hzero : total = 0
    · simp only [hzero, if_true]
      exact .refl _
    · simp only [hzero, if_false]
      cases hq : l.assemble d with
      | error e => exact .fail hq { total := total }
      | ok q =>
        simp only [answer_run h, Async.answer_bind, h.count]
        cases counts (some (l.filteredPredicate q none)) with
        | error e => exact .refl _
        | ok filtered => exact .refl _

/-! ## Compiled queries -/

/-- A query that a description compiles to is answered like the description, by any store and in any
words. -/
theorem execute_eq_findAll {m : Type → Type} [Monad m] [Concurrent m] {l : Listing m ρ}
    {d : QueryDescription} {q : AssembledQuery} (h : l.assemble d = .ok q) (wording : Wording) :
    l.execute q = l.findAll wording d := by
  obtain ⟨_, _, _, -, -, -, rfl⟩ := AssembledQuery.assemble_eq_ok_iff.1 h
  simp only [execute, findAll, findAllWith?, h]

end Listing

end ListingQuery
