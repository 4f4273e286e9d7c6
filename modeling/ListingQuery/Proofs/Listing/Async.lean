import ListingQuery.Listing.Registry

/-!
# Calls that take time

A computation reads and changes a world, and its answer comes after some turns.  A call acts on the
world when it is made, whenever its answer comes.

Of two calls at once, the first is looked at before the second in every turn.  So the second is not
made at all if the first fails on the spot; else both are made, and the failure that is seen first
ends both:

    tryBoth x y = the first failure, x's if both come in the same turn; else both answers
                                                              (tryBoth_cases)
-/

namespace ListingQuery

/-- What becomes of a computation: the answer, the turns until it comes, and the world behind it. -/
structure Outcome (σ α : Type) where
  answer : α
  delay : Nat
  world : σ

/-- A computation in a world with states of type `σ`. -/
structure Async (σ α : Type) where
  run : σ → Outcome σ α

namespace Async

variable {σ τ α β ε : Type}

/-! ## Algorithm -/

instance : Monad (Async σ) where
  pure a := ⟨fun w => ⟨a, 0, w⟩⟩
  bind x f := ⟨fun w =>
    let o := x.run w
    let o' := (f o.answer).run o.world
    ⟨o'.answer, o.delay + o'.delay, o'.world⟩⟩

/-- What two calls come to of which both were made. -/
def joined (a : Outcome σ (Except ε α)) (b : Outcome σ (Except ε β)) :
    Outcome σ (Except ε (α × β)) :=
  match a.answer, b.answer with
  | .ok x, .ok y => ⟨.ok (x, y), max a.delay b.delay, b.world⟩
  | .error e, .ok _ => ⟨.error e, a.delay, b.world⟩
  | .ok _, .error e => ⟨.error e, b.delay, b.world⟩
  | .error e, .error e' =>
    if a.delay ≤ b.delay then ⟨.error e, a.delay, b.world⟩ else ⟨.error e', b.delay, b.world⟩

/-- Make two calls at once. -/
def both (x : Async σ (Except ε α)) (y : Async σ (Except ε β)) : Async σ (Except ε (α × β)) where
  run w :=
    let a := x.run w
    match a.answer with
    | .ok _ => joined a (y.run a.world)
    | .error e => if a.delay = 0 then ⟨.error e, 0, a.world⟩ else joined a (y.run a.world)

instance : Concurrent (Async σ) := ⟨both⟩

/-! ## Lemmas -/

@[simp] theorem run_pure (a : α) (w : σ) : (pure a : Async σ α).run w = ⟨a, 0, w⟩ := rfl

@[simp] theorem answer_bind (x : Async σ α) (f : α → Async σ β) (w : σ) :
    ((x >>= f).run w).answer = ((f (x.run w).answer).run (x.run w).world).answer := rfl

@[simp] theorem world_bind (x : Async σ α) (f : α → Async σ β) (w : σ) :
    ((x >>= f).run w).world = ((f (x.run w).answer).run (x.run w).world).world := rfl

theorem joined_world (a : Outcome σ (Except ε α)) (b : Outcome σ (Except ε β)) :
    (joined a b).world = b.world := by
  rw [joined]
  split <;> try rfl
  split <;> rfl

/-- Two calls that were made succeed together or come to the failure of one of them. -/
theorem joined_answer (a : Outcome σ (Except ε α)) (b : Outcome σ (Except ε β)) :
    (∃ x y, a.answer = .ok x ∧ b.answer = .ok y ∧ (joined a b).answer = .ok (x, y)) ∨
      ∃ e, (a.answer = .error e ∨ b.answer = .error e) ∧ (joined a b).answer = .error e := by
  rw [joined]
  split
  · next x y hx hy => exact .inl ⟨x, y, hx, hy, rfl⟩
  · next e _ he _ => exact .inr ⟨e, .inl he, rfl⟩
  · next e _ he => exact .inr ⟨e, .inr he, rfl⟩
  · next e e' he he' =>
    split
    · exact .inr ⟨e, .inl he, rfl⟩
    · exact .inr ⟨e', .inr he', rfl⟩

/-- All that two calls at once can come to: the first fails before the second is made, or both are
made. -/
theorem tryBoth_cases (x : Async σ (Except ε α)) (y : Async σ (Except ε β)) (w : σ) :
    (∃ e, (x.run w).answer = .error e ∧
        (Concurrent.tryBoth x y).run w = ⟨.error e, 0, (x.run w).world⟩) ∨
      (Concurrent.tryBoth x y).run w = joined (x.run w) (y.run (x.run w).world) := by
  show (∃ e, _ ∧ (both x y).run w = _) ∨ (both x y).run w = _
  cases h : (x.run w).answer with
  | ok a => exact .inr (by simp [both, h])
  | error e =>
    by_cases hdelay : (x.run w).delay = 0
    · exact .inl ⟨e, rfl, by simp [both, h, hdelay]⟩
    · exact .inr (by simp [both, h, hdelay])

/-! ## Larger worlds -/

/-- What can be seen of an outcome from a part of the world. -/
def seen (o : Outcome (σ × τ) α) : Outcome σ α := ⟨o.answer, o.delay, o.world.1⟩

/-- The computation in the larger world does what the other does in its part, whatever the rest. -/
def Mirrors (y : Async (σ × τ) α) (x : Async σ α) : Prop := ∀ w t, seen (y.run (w, t)) = x.run w

theorem mirrors_pure (a : α) : Mirrors (pure a : Async (σ × τ) α) (pure a) := fun _ _ => rfl

theorem mirrors_bind {y : Async (σ × τ) α} {x : Async σ α} {g : α → Async (σ × τ) β}
    {f : α → Async σ β} (h : Mirrors y x) (hg : ∀ a, Mirrors (g a) (f a)) :
    Mirrors (y >>= g) (x >>= f) := by
  intro w t
  simp only [bind, ← h w t]
  obtain ⟨a, delay, w', t'⟩ := y.run (w, t)
  simp only [seen, ← hg a w' t']

theorem seen_joined (a : Outcome (σ × τ) (Except ε α)) (b : Outcome (σ × τ) (Except ε β)) :
    seen (joined a b) = joined (seen a) (seen b) := by
  obtain ⟨x, delay, w⟩ := a
  obtain ⟨y, delay', w'⟩ := b
  cases x with
  | ok x => cases y <;> rfl
  | error e =>
    cases y with
    | ok y => rfl
    | error e' =>
      simp only [joined, seen]
      by_cases h : delay ≤ delay'
      · simp only [h, if_true]
      · simp only [h, if_false]

theorem mirrors_tryBoth {y₁ : Async (σ × τ) (Except ε α)} {x₁ : Async σ (Except ε α)}
    {y₂ : Async (σ × τ) (Except ε β)} {x₂ : Async σ (Except ε β)} (h₁ : Mirrors y₁ x₁)
    (h₂ : Mirrors y₂ x₂) : Mirrors (Concurrent.tryBoth y₁ y₂) (Concurrent.tryBoth x₁ x₂) := by
  intro w t
  show seen ((both y₁ y₂).run (w, t)) = (both x₁ x₂).run w
  simp only [both, ← h₁ w t]
  obtain ⟨a, delay, w', t'⟩ := y₁.run (w, t)
  have hjoined : seen (joined ⟨a, delay, (w', t')⟩ (y₂.run (w', t'))) =
      joined ⟨a, delay, w'⟩ (x₂.run w') := by
    rw [seen_joined, h₂ w' t']
    rfl
  cases a with
  | ok a => exact hjoined
  | error e =>
    by_cases hdelay : delay = 0
    · simp [seen, hdelay]
    · simpa [seen, hdelay] using hjoined

end Async

end ListingQuery
