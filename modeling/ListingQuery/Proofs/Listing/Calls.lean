import ListingQuery.Proofs.Listing.Async

/-!
# The calls of a listing

What a listing asks of its store, and what it makes of the answers.  Nothing is assumed of the store:
it may answer each call with any count, any rows or a failure, at any time and in the light of all
that happened before.

The first call counts with the fixed predicate alone.  If there is something to count and the query
compiles, one predicate is counted once more and, at the same time, a page of it is fetched; else
there are no more calls.  A failure of any of this ends up in the envelope, which keeps the total that
was counted                                                        (envelopes_fit_calls)
-/

namespace ListingQuery

variable {σ ρ : Type} {m : Type → Type}

/-- One call of a store and what it is answered, also where nobody waits for the answer. -/
inductive Exchange (ρ : Type) where
  | count (p? : Option Predicate) (answer : Except StoreFailure Nat)
  | find (p : Predicate) (page : Page) (sort : List SortKey)
      (answer : Except StoreFailure (List ρ))

/-- The same store in a world that also holds the calls made so far. -/
def Store.recorded (s : Store (Async σ) ρ) : Store (Async (σ × List (Exchange ρ))) ρ where
  count p? := ⟨fun w =>
    let o := (s.count p?).run w.1
    ⟨o.answer, o.delay, o.world, w.2 ++ [.count p? o.answer]⟩⟩
  find p page sort := ⟨fun w =>
    let o := (s.find p page sort).run w.1
    ⟨o.answer, o.delay, o.world, w.2 ++ [.find p page sort o.answer]⟩⟩

/-- The answer of a first count, 0 if there is none. -/
def knownTotal : Except StoreFailure Nat → Nat
  | .ok n => n
  | .error _ => 0

/-- The counts of an envelope. -/
def QueryResult.counts (r : QueryResult ρ) : CountResult := ⟨r.total, r.filtered, r.error?⟩

namespace Listing

/-- The same listing over the recorded store. -/
def recorded (l : Listing (Async σ) ρ) : Listing (Async (σ × List (Exchange ρ))) ρ where
  schema := l.schema
  store := l.store.recorded
  maxPageSize := l.maxPageSize
  preFilter? := l.preFilter?

/-! ## Recording changes nothing -/

section Recorded

open Async

variable (l : Listing (Async σ) ρ)

theorem mirrors_storeCount (p? : Option Predicate) :
    Mirrors (l.recorded.store.count p?) (l.store.count p?) := fun _ _ => rfl

theorem mirrors_storeFind (p : Predicate) (page : Page) (sort : List SortKey) :
    Mirrors (l.recorded.store.find p page sort) (l.store.find p page sort) := fun _ _ => rfl

theorem mirrors_withTotal (draw? : Option Nat)
    {next : QueryResult ρ → Async (σ × List (Exchange ρ)) (QueryResult ρ)}
    {next' : QueryResult ρ → Async σ (QueryResult ρ)} (h : ∀ r, Mirrors (next r) (next' r)) :
    Mirrors (l.recorded.withTotal draw? next) (l.withTotal draw? next') := by
  refine mirrors_bind (l.mirrors_storeCount l.preFilter?) fun a => ?_
  cases a with
  | error e => exact mirrors_pure _
  | ok total =>
    by_cases hzero : total = 0
    · simp only [hzero, if_true]
      exact mirrors_pure _
    · simp only [hzero, if_false]
      exact h _

theorem mirrors_run (q : AssembledQuery) (additional? : Option Predicate) (r : QueryResult ρ) :
    Mirrors (l.recorded.run q additional? r) (l.run q additional? r) := by
  refine mirrors_bind (mirrors_tryBoth (l.mirrors_storeCount _) (l.mirrors_storeFind _ _ _)) ?_
  rintro (e | ⟨filtered, data⟩)
  · exact mirrors_pure _
  · exact mirrors_pure _

theorem mirrors_execute (q : AssembledQuery) : Mirrors (l.recorded.execute q) (l.execute q) :=
  l.mirrors_withTotal q.draw? (l.mirrors_run q none)

theorem mirrors_findAllWith? (wording : Wording) (d : QueryDescription)
    (additional? : Option Predicate) :
    Mirrors (l.recorded.findAllWith? wording d additional?)
      (l.findAllWith? wording d additional?) := by
  have hassemble : l.recorded.assemble d = l.assemble d := rfl
  refine l.mirrors_withTotal d.draw? fun r => ?_
  rw [hassemble]
  cases l.assemble d with
  | error e => exact mirrors_pure _
  | ok q => exact l.mirrors_run q additional? r

theorem mirrors_count (wording : Wording) (d : QueryDescription) :
    Mirrors (l.recorded.count wording d) (l.count wording d) := by
  have hassemble : l.recorded.assemble d = l.assemble d := rfl
  refine mirrors_bind (l.mirrors_storeCount l.preFilter?) fun a => ?_
  cases a with
  | error e => exact mirrors_pure _
  | ok total =>
    by_cases hzero : total = 0
    · simp only [hzero, if_true]
      exact mirrors_pure _
    · simp only [hzero, if_false]
      rw [hassemble]
      cases l.assemble d with
      | error e => exact mirrors_pure _
      | ok q =>
        refine mirrors_bind (l.mirrors_storeCount _) fun a => ?_
        cases a with
        | error e => exact mirrors_pure _
        | ok filtered => exact mirrors_pure _

end Recorded

/-! ## What a listing does -/

/-- What a run asks of the store, and the envelope that it makes of `r` with the answers. -/
inductive Fetches (p : Predicate) (page : Page) (sort : List SortKey) (r : QueryResult ρ) :
    List (Exchange ρ) → QueryResult ρ → Prop
  /-- The count fails before the page is asked for. -/
  | uncounted (e : StoreFailure) :
      Fetches p page sort r [.count (some p) (.error e)] (r.fail e.message)
  | failed {filtered : Except StoreFailure Nat} {found : Except StoreFailure (List ρ)}
      {e : StoreFailure} (failure : filtered = .error e ∨ found = .error e) :
      Fetches p page sort r [.count (some p) filtered, .find p page sort found] (r.fail e.message)
  | fetched (filtered : Nat) (data : List ρ) :
      Fetches p page sort r [.count (some p) (.ok filtered), .find p page sort (.ok data)]
        { r with filtered := filtered, data := data }

/-- All calls of a listing that answers a query, and the envelope; `compiled` is what the query
compiles to. -/
inductive Answers (l : Listing m ρ) (wording : Wording) (draw? : Option Nat)
    (compiled : Except QueryError AssembledQuery) (additional? : Option Predicate) :
    List (Exchange ρ) → QueryResult ρ → Prop
  | uncounted (e : StoreFailure) :
      Answers l wording draw? compiled additional? [.count l.preFilter? (.error e)]
        ((QueryResult.empty draw?).fail e.message)
  | nothing :
      Answers l wording draw? compiled additional? [.count l.preFilter? (.ok 0)]
        (QueryResult.empty draw?)
  | uncompiled {total : Nat} {e : QueryError} (pos : total ≠ 0) (fault : compiled = .error e) :
      Answers l wording draw? compiled additional? [.count l.preFilter? (.ok total)]
        (QueryResult.fail { QueryResult.empty draw? with total := total } (e.message wording))
  | fetching {total : Nat} {q : AssembledQuery} {calls : List (Exchange ρ)} {r : QueryResult ρ}
      (pos : total ≠ 0) (ok : compiled = .ok q)
      (fetches : Fetches (l.filteredPredicate q additional?) q.page q.sort
        { QueryResult.empty draw? with total := total } calls r) :
      Answers l wording draw? compiled additional? (.count l.preFilter? (.ok total) :: calls) r

/-- All calls of a listing that counts, and the counts. -/
inductive Counts (l : Listing m ρ) (wording : Wording)
    (compiled : Except QueryError AssembledQuery) : List (Exchange ρ) → CountResult → Prop
  | uncounted (e : StoreFailure) :
      Counts l wording compiled [.count l.preFilter? (.error e)] (CountResult.fail {} e.message)
  | nothing : Counts l wording compiled [.count l.preFilter? (.ok 0)] {}
  | uncompiled {total : Nat} {e : QueryError} (pos : total ≠ 0) (fault : compiled = .error e) :
      Counts l wording compiled [.count l.preFilter? (.ok total)]
        (CountResult.fail { total := total } (e.message wording))
  | unfiltered {total : Nat} {q : AssembledQuery} {e : StoreFailure} (pos : total ≠ 0)
      (ok : compiled = .ok q) :
      Counts l wording compiled
        [.count l.preFilter? (.ok total), .count (some (l.filteredPredicate q none)) (.error e)]
        (CountResult.fail { total := total } e.message)
  | counted {total filtered : Nat} {q : AssembledQuery} (pos : total ≠ 0) (ok : compiled = .ok q) :
      Counts l wording compiled
        [.count l.preFilter? (.ok total),
          .count (some (l.filteredPredicate q none)) (.ok filtered)]
        { total := total, filtered := filtered }

section Runs

variable (l : Listing (Async σ) ρ) (wording : Wording) (w : σ) (before : List (Exchange ρ))

theorem fetches_run (q : AssembledQuery) (additional? : Option Predicate) (r : QueryResult ρ) :
    let o := (l.recorded.run q additional? r).run (w, before)
    ∃ calls, o.world.2 = before ++ calls ∧
      Fetches (l.filteredPredicate q additional?) q.page q.sort r calls o.answer := by
  let p := l.filteredPredicate q additional?
  let x := l.recorded.store.count (some p)
  let y := l.recorded.store.find p q.page q.sort
  let a := (l.store.count (some p)).run w
  let b := (l.store.find p q.page q.sort).run a.world
  have hfiltered : l.recorded.filteredPredicate q additional? = p := rfl
  simp only [run, hfiltered, Async.answer_bind, Async.world_bind]
  rcases Async.tryBoth_cases x y (w, before) with ⟨e, he, hboth⟩ | hboth
  · have ha : a.answer = .error e := he
    refine ⟨[.count (some p) (.error e)], ?_, ?_⟩
    · rw [hboth, ← ha]
      rfl
    · rw [hboth]
      exact .uncounted e
  · refine ⟨[.count (some p) a.answer, .find p q.page q.sort b.answer], ?_, ?_⟩
    · have hworld : ((Concurrent.tryBoth x y).run (w, before)).world.2 =
          before ++ [.count (some p) a.answer] ++ [.find p q.page q.sort b.answer] := by
        rw [hboth, Async.joined_world]
        rfl
      rw [List.append_assoc] at hworld
      rw [← List.singleton_append, ← hworld]
      split <;> rfl
    · rw [hboth]
      rcases Async.joined_answer (x.run (w, before)) (y.run (x.run (w, before)).world) with
        ⟨filtered, data, hfiltered, hdata, hjoined⟩ | ⟨e, he, hjoined⟩
      · have ha : a.answer = .ok filtered := hfiltered
        have hb : b.answer = .ok data := hdata
        rw [hjoined, ha, hb]
        exact .fetched filtered data
      · have hab : a.answer = .error e ∨ b.answer = .error e := he
        rw [hjoined]
        exact .failed hab

/-- A listing counts first; with something to count, all else is up to what comes next. -/
theorem answers_withTotal {draw? : Option Nat} {compiled : Except QueryError AssembledQuery}
    {additional? : Option Predicate}
    {next : QueryResult ρ → Async (σ × List (Exchange ρ)) (QueryResult ρ)}
    (hnext : ∀ total, total ≠ 0 → ∀ w' before',
      let o := (next { QueryResult.empty draw? with total := total }).run (w', before')
      ∃ calls, o.world.2 = before' ++ calls ∧
        Answers l wording draw? compiled additional?
          (.count l.preFilter? (.ok total) :: calls) o.answer) :
    let o := (l.recorded.withTotal draw? next).run (w, before)
    ∃ calls, o.world.2 = before ++ calls ∧
      Answers l wording draw? compiled additional? calls o.answer := by
  let a := (l.store.count l.preFilter?).run w
  have hcounted : (l.recorded.store.count l.recorded.preFilter?).run (w, before) =
      ⟨a.answer, a.delay, a.world, before ++ [.count l.preFilter? a.answer]⟩ := rfl
  simp only [withTotal, Async.answer_bind, Async.world_bind, hcounted]
  cases ha : a.answer with
  | error e => exact ⟨_, rfl, .uncounted e⟩
  | ok total =>
    by_cases hzero : total = 0
    · subst hzero
      exact ⟨_, rfl, .nothing⟩
    · obtain ⟨calls, hcalls, hanswers⟩ :=
        hnext total hzero a.world (before ++ [.count l.preFilter? (.ok total)])
      simp only [hzero, if_false]
      refine ⟨_, ?_, hanswers⟩
      rw [hcalls, List.append_assoc]
      rfl

theorem answers_execute (q : AssembledQuery) :
    let o := (l.recorded.execute q).run (w, before)
    ∃ calls, o.world.2 = before ++ calls ∧ Answers l wording q.draw? (.ok q) none calls o.answer := by
  refine l.answers_withTotal wording w before fun total hpos w' before' => ?_
  obtain ⟨calls, hcalls, hfetches⟩ := l.fetches_run w' before' q none
    { QueryResult.empty q.draw? with total := total }
  exact ⟨calls, hcalls, .fetching hpos rfl hfetches⟩

theorem answers_findAllWith? (d : QueryDescription) (additional? : Option Predicate) :
    let o := (l.recorded.findAllWith? wording d additional?).run (w, before)
    ∃ calls, o.world.2 = before ++ calls ∧
      Answers l wording d.draw? (l.assemble d) additional? calls o.answer := by
  refine l.answers_withTotal wording w before fun total hpos w' before' => ?_
  have hassemble : l.recorded.assemble d = l.assemble d := rfl
  rw [hassemble]
  cases hq : l.assemble d with
  | error e => exact ⟨[], (List.append_nil _).symm, .uncompiled hpos rfl⟩
  | ok q =>
    obtain ⟨calls, hcalls, hfetches⟩ := l.fetches_run w' before' q additional?
      { QueryResult.empty d.draw? with total := total }
    exact ⟨calls, hcalls, .fetching hpos rfl hfetches⟩

theorem counts_count (d : QueryDescription) :
    let o := (l.recorded.count wording d).run (w, before)
    ∃ calls, o.world.2 = before ++ calls ∧ Counts l wording (l.assemble d) calls o.answer := by
  let a := (l.store.count l.preFilter?).run w
  have hcounted : (l.recorded.store.count l.recorded.preFilter?).run (w, before) =
      ⟨a.answer, a.delay, a.world, before ++ [.count l.preFilter? a.answer]⟩ := rfl
  have hassemble : l.recorded.assemble d = l.assemble d := rfl
  simp only [count, Async.answer_bind, Async.world_bind, hcounted, hassemble]
  cases ha : a.answer with
  | error e => exact ⟨_, rfl, .uncounted e⟩
  | ok total =>
    by_cases hzero : total = 0
    · subst hzero
      exact ⟨_, rfl, .nothing⟩
    · simp only [hzero, if_false]
      cases hq : l.assemble d with
      | error e => exact ⟨_, rfl, .uncompiled hzero rfl⟩
      | ok q =>
        let p := l.filteredPredicate q none
        let b := (l.store.count (some p)).run a.world
        have hfiltered (earlier : List (Exchange ρ)) :
            (l.recorded.store.count (some (l.recorded.filteredPredicate q none))).run
              (a.world, earlier) =
                ⟨b.answer, b.delay, b.world, earlier ++ [.count (some p) b.answer]⟩ := rfl
        simp only [Async.answer_bind, Async.world_bind, hfiltered, List.append_assoc]
        cases hb : b.answer with
        | error e => exact ⟨_, rfl, .unfiltered hzero rfl⟩
        | ok filtered => exact ⟨_, rfl, .counted hzero rfl⟩

end Runs

/-! ## What an envelope says -/

/-- The calls after the first one, which was answered with `total`: one predicate is counted once
and at most once fetched, if there is something to count and the query compiles. -/
structure AreInOrder (l : Listing m ρ) (compiled : Except QueryError AssembledQuery)
    (additional? : Option Predicate) (total : Except StoreFailure Nat) (rest : List (Exchange ρ)) :
    Prop where
  quiet : knownTotal total = 0 ∨ (∃ e, compiled = .error e) → rest = []
  asked : knownTotal total ≠ 0 → ∀ q, compiled = .ok q → ∃ filtered,
    rest = [.count (some (l.filteredPredicate q additional?)) filtered] ∨
      ∃ found, rest = [.count (some (l.filteredPredicate q additional?)) filtered,
        .find (l.filteredPredicate q additional?) q.page q.sort found]

/-- The counts fit the calls: a failure keeps the total alone, and is reported only if there was
one. -/
structure AreCounted (l : Listing m ρ) (wording : Wording)
    (compiled : Except QueryError AssembledQuery) (additional? : Option Predicate)
    (total : Except StoreFailure Nat) (rest : List (Exchange ρ)) (c : CountResult) : Prop where
  failed : c.error? ≠ none → c.filtered = 0 ∧ c.total = knownTotal total
  cause : ∀ message, c.error? = some message →
    (∃ e, total = .error e ∧ message = e.message) ∨
    (∃ e, compiled = .error e ∧ message = e.message wording) ∨
    ∃ e, message = StoreFailure.message e ∧
      ((∃ p, .count (some p) (.error e) ∈ rest) ∨ ∃ p page sort, .find p page sort (.error e) ∈ rest)
  counted : c.error? = none → total = .ok c.total ∧ (c.total = 0 ∧ c.filtered = 0 ∨
    ∃ q, compiled = .ok q ∧
      .count (some (l.filteredPredicate q additional?)) (.ok c.filtered) ∈ rest)

/-- The envelope fits the calls. -/
structure AreListed (l : Listing m ρ) (wording : Wording) (draw? : Option Nat)
    (compiled : Except QueryError AssembledQuery) (additional? : Option Predicate)
    (total : Except StoreFailure Nat) (rest : List (Exchange ρ)) (r : QueryResult ρ) : Prop where
  draw : r.draw? = draw?
  counts : l.AreCounted wording compiled additional? total rest r.counts
  failed : r.error? ≠ none → r.data = []
  listed : r.error? = none → r.total = 0 ∧ r.data = [] ∨ ∃ q, compiled = .ok q ∧
    .find (l.filteredPredicate q additional?) q.page q.sort (.ok r.data) ∈ rest

section Envelopes

variable {l : Listing m ρ} {wording : Wording} {draw? : Option Nat}
  {compiled : Except QueryError AssembledQuery} {additional? : Option Predicate} {total : Nat}
  {q : AssembledQuery} {calls : List (Exchange ρ)}

/-- Without a total, or without a query, there is nothing more to ask. -/
theorem areInOrder_nil {total : Except StoreFailure Nat}
    (h : knownTotal total = 0 ∨ ∃ e, compiled = .error e) :
    l.AreInOrder (ρ := ρ) compiled additional? total [] := by
  refine ⟨fun _ => rfl, fun hpos q hq => ?_⟩
  rcases h with h | ⟨e, he⟩
  · exact absurd h hpos
  · rw [hq] at he
    cases he

theorem areInOrder_of_ok (hpos : total ≠ 0)
    (h : ∃ filtered, calls = [.count (some (l.filteredPredicate q additional?)) filtered] ∨
      ∃ found, calls = [.count (some (l.filteredPredicate q additional?)) filtered,
        .find (l.filteredPredicate q additional?) q.page q.sort found]) :
    l.AreInOrder (.ok q) additional? (.ok total) calls := by
  constructor
  · rintro (hzero | ⟨e, he⟩)
    · exact absurd hzero hpos
    · cases he
  · rintro _ _ ⟨⟩
    exact h

theorem Fetches.areInOrder {r r' : QueryResult ρ} (hpos : total ≠ 0)
    (h : Fetches (l.filteredPredicate q additional?) q.page q.sort r calls r') :
    l.AreInOrder (.ok q) additional? (.ok total) calls := by
  refine areInOrder_of_ok hpos ?_
  cases h with
  | uncounted e => exact ⟨_, .inl rfl⟩
  | failed _ => exact ⟨_, .inr ⟨_, rfl⟩⟩
  | fetched filtered data => exact ⟨_, .inr ⟨_, rfl⟩⟩

theorem Fetches.areListed {r : QueryResult ρ}
    (h : Fetches (l.filteredPredicate q additional?) q.page q.sort
      { QueryResult.empty draw? with total := total } calls r) :
    l.AreListed wording draw? (.ok q) additional? (.ok total) calls r := by
  cases h with
  | uncounted e =>
    refine ⟨rfl, ⟨fun _ => ⟨rfl, rfl⟩, ?_, nofun⟩, fun _ => rfl, nofun⟩
    rintro _ ⟨⟩
    exact .inr (.inr ⟨e, rfl, .inl ⟨_, List.mem_singleton_self _⟩⟩)
  | @failed filtered found e failure =>
    refine ⟨rfl, ⟨fun _ => ⟨rfl, rfl⟩, ?_, nofun⟩, fun _ => rfl, nofun⟩
    rintro _ ⟨⟩
    refine .inr (.inr ⟨e, rfl, ?_⟩)
    rcases failure with rfl | rfl
    · exact .inl ⟨_, List.mem_cons_self⟩
    · exact .inr ⟨_, _, _, List.mem_cons_of_mem _ List.mem_cons_self⟩
  | fetched filtered data =>
    refine ⟨rfl, ⟨fun h => absurd rfl h, nofun, fun _ => ⟨rfl, .inr ⟨q, rfl, ?_⟩⟩⟩,
      fun h => absurd rfl h, fun _ => .inr ⟨q, rfl, ?_⟩⟩
    · exact List.mem_cons_self
    · exact List.mem_cons_of_mem _ List.mem_cons_self

/-- Whatever a listing is answered, it asks in order and its envelope fits the answers. -/
theorem Answers.areListed {r : QueryResult ρ}
    (h : Answers l wording draw? compiled additional? calls r) :
    ∃ total rest, calls = .count l.preFilter? total :: rest ∧
      l.AreInOrder compiled additional? total rest ∧
      l.AreListed wording draw? compiled additional? total rest r := by
  cases h with
  | uncounted e =>
    refine ⟨_, [], rfl, areInOrder_nil (.inl rfl), rfl, ⟨fun _ => ⟨rfl, rfl⟩, ?_, nofun⟩,
      fun _ => rfl, nofun⟩
    rintro _ ⟨⟩
    exact .inl ⟨e, rfl, rfl⟩
  | nothing =>
    exact ⟨_, [], rfl, areInOrder_nil (.inl rfl), rfl,
      ⟨fun h => absurd rfl h, nofun, fun _ => ⟨rfl, .inl ⟨rfl, rfl⟩⟩⟩, fun h => absurd rfl h,
      fun _ => .inl ⟨rfl, rfl⟩⟩
  | @uncompiled total e pos fault =>
    refine ⟨_, [], rfl, areInOrder_nil (.inr ⟨e, fault⟩), rfl, ⟨fun _ => ⟨rfl, rfl⟩, ?_, nofun⟩,
      fun _ => rfl, nofun⟩
    rintro _ ⟨⟩
    exact .inr (.inl ⟨e, fault, rfl⟩)
  | @fetching total q calls r pos ok fetches =>
    subst ok
    exact ⟨_, calls, rfl, fetches.areInOrder pos, fetches.areListed⟩

/-- A listing that counts asks in order, never for rows, and its counts fit the answers. -/
theorem Counts.areCounted {c : CountResult} (h : Counts l wording compiled calls c) :
    ∃ total rest, calls = .count l.preFilter? total :: rest ∧
      l.AreInOrder compiled none total rest ∧
      (∀ p page sort found, .find p page sort found ∉ rest) ∧
      l.AreCounted wording compiled none total rest c := by
  cases h with
  | uncounted e =>
    refine ⟨_, [], rfl, areInOrder_nil (.inl rfl), by simp, fun _ => ⟨rfl, rfl⟩, ?_, nofun⟩
    rintro _ ⟨⟩
    exact .inl ⟨e, rfl, rfl⟩
  | nothing =>
    exact ⟨_, [], rfl, areInOrder_nil (.inl rfl), by simp, fun h => absurd rfl h, nofun,
      fun _ => ⟨rfl, .inl ⟨rfl, rfl⟩⟩⟩
  | @uncompiled total e pos fault =>
    refine ⟨_, [], rfl, areInOrder_nil (.inr ⟨e, fault⟩), by simp, fun _ => ⟨rfl, rfl⟩, ?_, nofun⟩
    rintro _ ⟨⟩
    exact .inr (.inl ⟨e, fault, rfl⟩)
  | @unfiltered total q e pos ok =>
    subst ok
    refine ⟨_, _, rfl, areInOrder_of_ok pos ⟨_, .inl rfl⟩, by simp, fun _ => ⟨rfl, rfl⟩, ?_, nofun⟩
    rintro _ ⟨⟩
    exact .inr (.inr ⟨e, rfl, .inl ⟨_, List.mem_singleton_self _⟩⟩)
  | @counted total filtered q pos ok =>
    subst ok
    exact ⟨_, _, rfl, areInOrder_of_ok pos ⟨_, .inl rfl⟩, by simp, fun h => absurd rfl h, nofun,
      fun _ => ⟨rfl, .inr ⟨q, rfl, List.mem_singleton_self _⟩⟩⟩

end Envelopes

/-! ## Any store -/

/-- In the world `w`, the computation `x` makes these calls and comes to this answer; `y` is the same
computation with its calls recorded. -/
structure Makes {α : Type} (x : Async σ α) (y : Async (σ × List (Exchange ρ)) α) (w : σ)
    (calls : List (Exchange ρ)) (answer : α) : Prop where
  same : Async.seen (y.run (w, [])) = x.run w
  calls : (y.run (w, [])).world.2 = calls
  answer : (x.run w).answer = answer

/-- The computation asks in order and comes to an envelope that fits the calls. -/
def ListsInOrder (l : Listing (Async σ) ρ) (wording : Wording) (x : Async σ (QueryResult ρ))
    (y : Async (σ × List (Exchange ρ)) (QueryResult ρ)) (w : σ) (draw? : Option Nat)
    (compiled : Except QueryError AssembledQuery) (additional? : Option Predicate) : Prop :=
  ∃ total rest r, Makes x y w (.count l.preFilter? total :: rest) r ∧
    l.AreInOrder compiled additional? total rest ∧
    l.AreListed wording draw? compiled additional? total rest r

theorem makes_of_mirrors {α : Type} {x : Async σ α} {y : Async (σ × List (Exchange ρ)) α}
    (h : Async.Mirrors y x) (w : σ) :
    Makes x y w (y.run (w, [])).world.2 (y.run (w, [])).answer :=
  ⟨h w [], rfl, by rw [← h w []]; rfl⟩

variable (l : Listing (Async σ) ρ) (wording : Wording) (w : σ)

theorem findAllWith?_listsInOrder (d : QueryDescription) (additional? : Option Predicate) :
    l.ListsInOrder wording (l.findAllWith? wording d additional?)
      (l.recorded.findAllWith? wording d additional?) w d.draw? (l.assemble d) additional? := by
  have hmakes := makes_of_mirrors (l.mirrors_findAllWith? wording d additional?) w
  obtain ⟨calls, hcalls, hanswers⟩ := l.answers_findAllWith? wording w [] d additional?
  rw [List.nil_append] at hcalls
  obtain ⟨total, rest, rfl, horder, hlisted⟩ := hanswers.areListed
  exact ⟨total, rest, _, hcalls ▸ hmakes, horder, hlisted⟩

theorem execute_listsInOrder (q : AssembledQuery) :
    l.ListsInOrder wording (l.execute q) (l.recorded.execute q) w q.draw? (.ok q) none := by
  have hmakes := makes_of_mirrors (l.mirrors_execute q) w
  obtain ⟨calls, hcalls, hanswers⟩ := l.answers_execute wording w [] q
  rw [List.nil_append] at hcalls
  obtain ⟨total, rest, rfl, horder, hlisted⟩ := hanswers.areListed
  exact ⟨total, rest, _, hcalls ▸ hmakes, horder, hlisted⟩

/-- Over any store, every way to ask a listing asks its store in order and comes to an envelope that
fits the calls. -/
theorem envelopes_fit_calls (d : QueryDescription) (additional : Predicate) (q : AssembledQuery) :
    l.ListsInOrder wording (l.findAll wording d) (l.recorded.findAll wording d) w d.draw?
      (l.assemble d) none ∧
    l.ListsInOrder wording (l.findAllWith wording d additional)
      (l.recorded.findAllWith wording d additional) w d.draw? (l.assemble d) (some additional) ∧
    l.ListsInOrder wording (l.execute q) (l.recorded.execute q) w q.draw? (.ok q) none ∧
    ∃ total rest c, Makes (l.count wording d) (l.recorded.count wording d) w
        (.count l.preFilter? total :: rest) c ∧
      l.AreInOrder (l.assemble d) none total rest ∧
      (∀ p page sort found, .find p page sort found ∉ rest) ∧
      l.AreCounted wording (l.assemble d) none total rest c := by
  refine ⟨l.findAllWith?_listsInOrder wording w d none,
    l.findAllWith?_listsInOrder wording w d (some additional), l.execute_listsInOrder wording w q, ?_⟩
  have hmakes := makes_of_mirrors (l.mirrors_count wording d) w
  obtain ⟨calls, hcalls, hcounts⟩ := l.counts_count wording w [] d
  rw [List.nil_append] at hcalls
  obtain ⟨total, rest, rfl, horder, hfind, hcounted⟩ := hcounts.areCounted
  exact ⟨total, rest, _, hcalls ▸ hmakes, horder, hfind, hcounted⟩

end Listing

end ListingQuery
