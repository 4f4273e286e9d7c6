import Mathlib.Data.List.Induction
import Mathlib.Data.List.Nodup
import ListingQuery.Keyed

/-!
# Entries with distinct keys

Where no key comes twice, entries are what their keys lead to, up to order   (perm_of_get?_eq), and
entering them one after the other yields them as they are               (ofEntries_eq_self).

Where keys come again, they keep the order in which they first came   (find?_keys_ofEntries), and lead
to the values that were entered last                                  (get?_ofEntries).
-/

namespace ListingQuery.Keyed

variable {α β : Type}

/-- The values that are kept, each changed as its key says. -/
def filterMapValues (f : String → α → Option β) (m : Keyed α) : Keyed β :=
  m.filterMap fun e => (f e.1 e.2).map (e.1, ·)

/-- The entries that have a value. -/
def present (m : Keyed (Option α)) : Keyed α := filterMapValues (fun _ value? => value?) m

/-! ## Entries -/

theorem put_of_not_mem {m : Keyed α} {k : String} (h : k ∉ keys m) (v : α) :
    put m k v = m ++ [(k, v)] := by
  induction m with
  | nil => rfl
  | cons e m ih =>
    obtain ⟨j, w⟩ := e
    have hj : ¬ j = k := fun heq => h (heq ▸ List.mem_cons_self)
    have hm : k ∉ keys m := fun hmem => h (List.mem_cons_of_mem j hmem)
    rw [put, if_neg hj, ih hm, List.cons_append]

theorem not_mem_keys_of_append {m : Keyed α} {k : String} {v : α} {entries : Keyed α}
    (h : (keys (m ++ (k, v) :: entries)).Nodup) : k ∉ keys m := by
  rw [keys, List.map_append, List.nodup_append] at h
  intro hmem
  exact h.2.2 k hmem k List.mem_cons_self rfl

theorem foldl_put {entries : List (String × α)} {m : Keyed α}
    (h : (keys (m ++ entries)).Nodup) :
    entries.foldl (fun m e => put m e.1 e.2) m = m ++ entries := by
  induction entries generalizing m with
  | nil => exact (List.append_nil m).symm
  | cons e entries ih =>
    obtain ⟨k, v⟩ := e
    rw [List.foldl_cons, put_of_not_mem (not_mem_keys_of_append h), ih, List.append_assoc,
      List.singleton_append]
    rwa [List.append_assoc, List.singleton_append]

theorem ofEntries_eq_self {m : Keyed α} (h : (keys m).Nodup) : ofEntries m = m :=
  foldl_put (m := []) h

theorem mem_iff_get?_eq_some {m : Keyed α} (h : (keys m).Nodup) {k : String} {v : α} :
    (k, v) ∈ m ↔ get? m k = some v := by
  refine ⟨fun hmem => ?_, mem_of_get?_eq_some⟩
  induction m with
  | nil => cases hmem
  | cons e m ih =>
    obtain ⟨j, w⟩ := e
    obtain ⟨hj, hm⟩ := List.nodup_cons.1 h
    rcases List.mem_cons.1 hmem with heq | hmem
    · obtain ⟨rfl, rfl⟩ := Prod.mk.inj heq
      rw [get?, if_pos rfl]
    · have hne : ¬ j = k := by
        rintro rfl
        exact hj (List.mem_map.2 ⟨_, hmem, rfl⟩)
      rw [get?, if_neg hne, ih hm hmem]

/-- Up to order, entries with distinct keys are what their keys lead to. -/
theorem perm_of_get?_eq {m n : Keyed α} (hm : (keys m).Nodup) (hn : (keys n).Nodup)
    (h : ∀ k, get? m k = get? n k) : m.Perm n := by
  rw [List.perm_ext_iff_of_nodup (List.Nodup.of_map _ hm) (List.Nodup.of_map _ hn)]
  rintro ⟨k, v⟩
  rw [mem_iff_get?_eq_some hm, mem_iff_get?_eq_some hn, h]

/-- Entries with the same distinct keys in the same order are what their keys lead to. -/
theorem eq_of_get?_eq {m n : Keyed α} (hkeys : keys m = keys n) (hm : (keys m).Nodup)
    (h : ∀ k, get? m k = get? n k) : m = n := by
  induction m generalizing n with
  | nil => exact (List.map_eq_nil_iff.1 hkeys.symm).symm
  | cons e m ih =>
    obtain ⟨k, v⟩ := e
    cases n with
    | nil => cases hkeys
    | cons f n =>
      obtain ⟨j, w⟩ := f
      obtain ⟨rfl, htail⟩ := List.cons.inj hkeys
      obtain ⟨hk, hm⟩ := List.nodup_cons.1 hm
      have hv : v = w := by simpa [get?] using h k
      have hrest (i : String) : get? m i = get? n i := by
        by_cases hi : k = i
        · subst hi
          have hkn : k ∉ keys n := fun hmem => hk (htail ▸ hmem)
          rw [get?_eq_none_iff.2 hk, get?_eq_none_iff.2 hkn]
        · simpa [get?, hi] using h i
      rw [hv, ih htail hm hrest]

/-! ## Erased entries -/

/-- An entry that a key leads to stands between entries with other keys and the rest. -/
theorem exists_split_of_get? {m : Keyed α} {k : String} {v : α} (h : get? m k = some v) :
    ∃ before after, m = before ++ (k, v) :: after ∧ erase m k = before ++ after := by
  induction m with
  | nil => cases h
  | cons e m ih =>
    obtain ⟨j, w⟩ := e
    rw [get?] at h
    by_cases hj : j = k
    · rw [if_pos hj] at h
      cases h
      subst hj
      exact ⟨[], m, rfl, by simp [erase]⟩
    · rw [if_neg hj] at h
      obtain ⟨before, after, rfl, herase⟩ := ih h
      exact ⟨(j, w) :: before, after, rfl, by simp [erase, hj, herase]⟩

theorem erase_append_of_not_mem {m : Keyed α} {k : String} (h : k ∉ keys m) (v : α) :
    erase (m ++ [(k, v)]) k = m := by
  induction m with
  | nil => simp [erase]
  | cons e m ih =>
    obtain ⟨j, w⟩ := e
    have hj : ¬ j = k := fun heq => h (heq ▸ List.mem_cons_self)
    have hm : k ∉ keys m := fun hmem => h (List.mem_cons_of_mem j hmem)
    rw [List.cons_append, erase, if_neg hj, ih hm]

/-! ## Changed values -/

theorem mem_filterMapValues {f : String → α → Option β} {m : Keyed α} {k : String} {b : β} :
    (k, b) ∈ filterMapValues f m ↔ ∃ a, (k, a) ∈ m ∧ f k a = some b := by
  rw [filterMapValues, List.mem_filterMap]
  constructor
  · rintro ⟨⟨j, a⟩, hmem, h⟩
    obtain ⟨b', hb, heq⟩ := Option.map_eq_some_iff.1 h
    cases heq
    exact ⟨a, hmem, hb⟩
  · rintro ⟨a, hmem, h⟩
    exact ⟨(k, a), hmem, by rw [h]; rfl⟩

theorem keys_filterMapValues_sublist (f : String → α → Option β) (m : Keyed α) :
    (keys (filterMapValues f m)).Sublist (keys m) := by
  induction m with
  | nil => exact List.Sublist.refl _
  | cons e m ih =>
    obtain ⟨k, a⟩ := e
    rw [filterMapValues]
    cases h : f k a with
    | none =>
      rw [List.filterMap_cons_none (by simp [h])]
      exact ih.cons k
    | some b =>
      rw [List.filterMap_cons_some (b := (k, b)) (by simp [h])]
      exact ih.cons_cons k

theorem get?_filterMapValues (f : String → α → Option β) {m : Keyed α} (h : (keys m).Nodup)
    (k : String) : get? (filterMapValues f m) k = (get? m k).bind (f k) := by
  have hnodup : (keys (filterMapValues f m)).Nodup := (keys_filterMapValues_sublist f m).nodup h
  refine Option.ext fun b => ?_
  rw [← mem_iff_get?_eq_some hnodup, mem_filterMapValues, Option.bind_eq_some_iff]
  simp only [mem_iff_get?_eq_some h]

theorem get?_present {m : Keyed (Option α)} (h : (keys m).Nodup) (k : String) :
    get? (present m) k = (get? m k).join :=
  get?_filterMapValues _ h k

/-! ## Entering entries -/

theorem ofEntries_concat (entries : List (String × α)) (e : String × α) :
    ofEntries (entries ++ [e]) = put (ofEntries entries) e.1 e.2 :=
  List.foldl_append

/-- The keys stand in the order in which they first come. -/
theorem find?_keys_ofEntries (p : String → Bool) (entries : List (String × α)) :
    (keys (ofEntries entries)).find? p = (entries.map Prod.fst).find? p := by
  induction entries using List.reverseRecOn with
  | nil => rfl
  | append_singleton entries e ih =>
    rw [ofEntries_concat, keys_put, List.map_append, List.find?_append, ← ih]
    split
    · next hmem =>
      by_cases hp : p e.1 = true
      · have hfound : ((keys (ofEntries entries)).find? p).isSome :=
          List.find?_isSome.2 ⟨e.1, hmem, hp⟩
        rw [Option.or_of_isSome hfound]
      · simp [hp]
    · rw [List.find?_append]
      rfl

theorem mem_keys_ofEntries_iff {entries : List (String × α)} {k : String} :
    k ∈ keys (ofEntries entries) ↔ ∃ v, (k, v) ∈ entries := by
  induction entries using List.reverseRecOn with
  | nil => simp [ofEntries, keys]
  | append_singleton entries e ih =>
    obtain ⟨j, w⟩ := e
    rw [ofEntries_concat, keys_put]
    split
    · next hmem =>
      rw [ih]
      constructor
      · rintro ⟨v, hv⟩
        exact ⟨v, List.mem_append_left _ hv⟩
      · rintro ⟨v, hv⟩
        rcases List.mem_append.1 hv with hv | hv
        · exact ⟨v, hv⟩
        · cases List.mem_singleton.1 hv
          exact ih.1 hmem
    · rw [List.mem_append, ih, List.mem_singleton]
      constructor
      · rintro (⟨v, hv⟩ | rfl)
        · exact ⟨v, List.mem_append_left _ hv⟩
        · exact ⟨w, List.mem_append_right _ List.mem_cons_self⟩
      · rintro ⟨v, hv⟩
        rcases List.mem_append.1 hv with hv | hv
        · exact .inl ⟨v, hv⟩
        · cases List.mem_singleton.1 hv
          exact .inr rfl

/-- A key leads to the value that was entered last. -/
theorem get?_ofEntries (entries : List (String × α)) (k : String) :
    get? (ofEntries entries) k =
      (entries.reverse.find? fun e => e.1 == k).map Prod.snd := by
  induction entries using List.reverseRecOn with
  | nil => rfl
  | append_singleton entries e ih =>
    rw [ofEntries_concat, List.reverse_append, List.reverse_singleton, List.singleton_append,
      List.find?_cons]
    by_cases hk : e.1 = k
    · subst hk
      simp [get?_put_self]
    · rw [get?_put_of_ne hk, ih, beq_eq_false_iff_ne.2 hk]

theorem get?_eq_find? (m : Keyed α) (k : String) :
    get? m k = (m.find? fun e => e.1 == k).map Prod.snd := by
  induction m with
  | nil => rfl
  | cons e m ih =>
    obtain ⟨j, w⟩ := e
    by_cases hj : j = k <;> simp [get?, hj, ih]

theorem put_mapValues (f : α → β) (m : Keyed α) (k : String) (v : α) :
    put (mapValues f m) k (f v) = mapValues f (put m k v) := by
  induction m with
  | nil => rfl
  | cons e m ih =>
    obtain ⟨j, w⟩ := e
    unfold mapValues at ih ⊢
    rw [List.map_cons, put, put]
    by_cases hj : j = k
    · simp [hj]
    · simp [hj, ih]

theorem ofEntries_mapValues (f : α → β) (entries : List (String × α)) :
    ofEntries (entries.map fun e => (e.1, f e.2)) = mapValues f (ofEntries entries) := by
  induction entries using List.reverseRecOn with
  | nil => rfl
  | append_singleton entries e ih =>
    rw [List.map_append, List.map_singleton, ofEntries_concat, ofEntries_concat, ih, put_mapValues]

end ListingQuery.Keyed
