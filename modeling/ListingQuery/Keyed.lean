/-!
# Association lists in insertion order

A keyed list holds its entries in the order in which their keys first appeared.  Writing a key that
is already there replaces its value in place; writing a new key appends it.

    get? (put m k v) k = some v                         (get?_put_self)
    k ≠ j → get? (put m k v) j = get? m j               (get?_put_of_ne)
    keys (put m k v) = keys m, or keys m ++ [k]         (keys_put)
-/

namespace ListingQuery

/-- Entries in the order in which their keys first appeared. -/
abbrev Keyed (α : Type) := List (String × α)

namespace Keyed

variable {α β : Type}

/-! ## Algorithm -/

/-- The keys, in order. -/
def keys (m : Keyed α) : List String := m.map Prod.fst

/-- The value of the first entry with this key. -/
def get? : Keyed α → String → Option α
  | [], _ => none
  | (k, v) :: m, key => if k = key then some v else get? m key

/-- Replace the value of the first entry with this key, or append a new entry. -/
def put : Keyed α → String → α → Keyed α
  | [], key, value => [(key, value)]
  | (k, v) :: m, key, value =>
    if k = key then (k, value) :: m else (k, v) :: put m key value

/-- Drop the first entry with this key, keeping the order of the others. -/
def erase : Keyed α → String → Keyed α
  | [], _ => []
  | (k, v) :: m, key => if k = key then m else (k, v) :: erase m key

/-- Write the entries one after the other: a repeated key keeps its first place and its last
value. -/
def ofEntries (entries : List (String × α)) : Keyed α :=
  entries.foldl (fun m e => put m e.1 e.2) []

/-- Change every value, keeping keys and order. -/
def mapValues (f : α → β) (m : Keyed α) : Keyed β := m.map fun e => (e.1, f e.2)

/-! ## Lemmas -/

@[simp] theorem get?_nil (k : String) : get? ([] : Keyed α) k = none := rfl

theorem mem_of_get?_eq_some {m : Keyed α} {k : String} {v : α} (h : get? m k = some v) :
    (k, v) ∈ m := by
  induction m with
  | nil => cases h
  | cons e m ih =>
    obtain ⟨j, w⟩ := e
    rw [get?] at h
    split at h
    · next heq =>
      cases h
      subst heq
      exact List.mem_cons_self
    · exact List.mem_cons_of_mem _ (ih h)

theorem get?_put_self (m : Keyed α) (k : String) (v : α) : get? (put m k v) k = some v := by
  induction m with
  | nil => simp [put, get?]
  | cons e m ih =>
    obtain ⟨j, w⟩ := e
    by_cases h : j = k
    · simp [put, get?, h]
    · simp [put, get?, h, ih]

theorem get?_put_of_ne {k j : String} (h : k ≠ j) (m : Keyed α) (v : α) :
    get? (put m k v) j = get? m j := by
  induction m with
  | nil => simp [put, get?, h]
  | cons e m ih =>
    obtain ⟨i, w⟩ := e
    by_cases hi : i = k
    · subst hi
      simp [put, get?, h]
    · simp only [put, hi, if_false, get?]
      split <;> simp [ih]

theorem get?_erase_of_ne {k j : String} (h : k ≠ j) (m : Keyed α) :
    get? (erase m k) j = get? m j := by
  induction m with
  | nil => rfl
  | cons e m ih =>
    obtain ⟨i, w⟩ := e
    by_cases hi : i = k
    · subst hi
      simp [erase, get?, h]
    · simp only [erase, hi, if_false, get?]
      split <;> simp [ih]

theorem get?_eq_none_iff {m : Keyed α} {k : String} : get? m k = none ↔ k ∉ keys m := by
  induction m with
  | nil => simp [keys]
  | cons e m ih =>
    obtain ⟨j, w⟩ := e
    by_cases h : j = k
    · simp [get?, keys, h]
    · have hk : ¬ k = j := fun e => h e.symm
      simp only [keys] at ih
      simp [get?, keys, h, hk, ih]

theorem keys_put (m : Keyed α) (k : String) (v : α) :
    keys (put m k v) = if k ∈ keys m then keys m else keys m ++ [k] := by
  induction m with
  | nil => simp [put, keys]
  | cons e m ih =>
    obtain ⟨j, w⟩ := e
    by_cases h : j = k
    · simp [put, keys, h]
    · have hk : ¬ k = j := fun e => h e.symm
      simp only [put, h, if_false, keys, List.map_cons, List.mem_cons, hk, false_or]
      simp only [keys] at ih
      rw [ih]
      split <;> simp [*]

end Keyed

end ListingQuery
