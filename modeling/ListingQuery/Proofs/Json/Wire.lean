import ListingQuery.Json.Wire
import ListingQuery.Proofs.Document.Values
import ListingQuery.Proofs.Keyed

/-!
# Values that arrive without faults

A value is read back as it was written, unless some object in it has a key twice; then the entries of
this key are read as one:

    v.HasDistinctKeys → value? (ofJson v) = some v                        (value?_ofJson)

The same goes for lists and for objects with arbitrary keys, whatever their values are read as.
-/

namespace ListingQuery

/-- No object in the value has two members with one key. -/
inductive Json.HasDistinctKeys : Json → Prop
  | null : HasDistinctKeys .null
  | bool (b : Bool) : HasDistinctKeys (.bool b)
  | number (n : Number) : HasDistinctKeys (.number n)
  | string (s : String) : HasDistinctKeys (.string s)
  | array {items : List Json} (items_distinct : ∀ v ∈ items, HasDistinctKeys v) :
      HasDistinctKeys (.array items)
  | object {members : List (String × Json)} (nodup : (Keyed.keys members).Nodup)
      (values_distinct : ∀ m ∈ members, HasDistinctKeys m.2) : HasDistinctKeys (.object members)

namespace Wire

/-! ## Values -/

theorem items?_ofItems {vs : List Json} (h : ∀ v ∈ vs, (ofJson v).value? = some v) :
    items? (ofItems vs) = some vs := by
  induction vs with
  | nil => rfl
  | cons v vs ih =>
    obtain ⟨hv, hvs⟩ := List.forall_mem_cons.1 h
    rw [ofItems, items?, hv, ih hvs]
    rfl

theorem members?_ofMembers {ms : List (String × Json)}
    (h : ∀ m ∈ ms, (ofJson m.2).value? = some m.2) : members? (ofMembers ms) = some ms := by
  induction ms with
  | nil => rfl
  | cons m ms ih =>
    obtain ⟨k, v⟩ := m
    obtain ⟨hv, hms⟩ := List.forall_mem_cons.1 h
    rw [ofMembers, members?, hv, ih hms]
    rfl

theorem value?_ofJson (v : Json) : v.HasDistinctKeys → (ofJson v).value? = some v := by
  induction v using jsonInduction with
  | array items ih =>
    rintro ⟨⟩
    next hitems =>
      rw [ofJson, value?, items?_ofItems fun v hv => ih v hv (hitems v hv)]
      rfl
  | object members ih =>
    rintro ⟨⟩
    next hnodup hvalues =>
      rw [ofJson, value?, members?_ofMembers fun m hm => ih m hm (hvalues m hm)]
      show some (Json.object (Keyed.ofEntries members)) = _
      rw [Keyed.ofEntries_eq_self hnodup]
  | _ => exact fun _ => rfl

theorem readValue_ofJson {v : Json} (h : v.HasDistinctKeys) : readValue (ofJson v) = .ok v := by
  rw [readValue, value?_ofJson v h]

theorem readOptional_ofJson {α : Type} {v : Json} (h : v ≠ .null)
    (read : Wire → Except WireFault α) :
    readOptional read (ofJson v) = (read (ofJson v)).map some := by
  cases v <;> first | rfl | exact absurd rfl h

/-! ## Numbers, lists and objects -/

theorem readInt_ofInt {fits : Int → Bool} {n : Int} (h : fits n = true) :
    readInt fits (ofJson (.ofInt n)) = .ok n := by
  simp [Json.ofInt, ofJson, readInt, h]

theorem readNat_ofNat {n : Nat} (h : isUInt64 n = true) :
    readNat (ofJson (.ofNat n)) = .ok n := by
  have hread : readInt isUInt64 (ofJson (.ofNat n)) = .ok (n : Int) := readInt_ofInt h
  rw [readNat, hread]
  rfl

section Containers

variable {α : Type} {read : Wire → Except WireFault α} {write : α → Json}

theorem readItems_ofItems {as : List α} (h : ∀ a ∈ as, read (ofJson (write a)) = .ok a) :
    readItems read (ofItems (as.map write)) = .ok as := by
  induction as with
  | nil => rfl
  | cons a as ih =>
    obtain ⟨ha, has⟩ := List.forall_mem_cons.1 h
    rw [List.map_cons, ofItems, readItems, ha, ih has]
    rfl

theorem readList_ofItems {as : List α} (h : ∀ a ∈ as, read (ofJson (write a)) = .ok a) :
    readList read (ofJson (.array (as.map write))) = .ok as := by
  rw [ofJson, readList, readItems_ofItems h]
  rfl

theorem readEntries_ofMembers {m : Keyed α} (h : ∀ e ∈ m, read (ofJson (write e.2)) = .ok e.2) :
    ∀ before : Keyed α, (Keyed.keys (before ++ m)).Nodup →
      readEntries read (ofMembers (Keyed.mapValues write m)) before = .ok (before ++ m) := by
  induction m with
  | nil =>
    intro before _
    rw [List.append_nil]
    rfl
  | cons e m ih =>
    obtain ⟨k, a⟩ := e
    obtain ⟨ha, hm⟩ := List.forall_mem_cons.1 h
    intro before hnodup
    have hk : k ∉ Keyed.keys before := Keyed.not_mem_keys_of_append hnodup
    have hrest := ih hm (before ++ [(k, a)]) (by rwa [List.append_assoc, List.singleton_append])
    rw [List.append_assoc, List.singleton_append] at hrest
    show readEntries read ((some k, ofJson (write a)) :: ofMembers (Keyed.mapValues write m)) before = _
    rw [readEntries, ha, ← hrest, ← Keyed.put_of_not_mem hk a]
    rfl

/-- An object with distinct keys is read as it was written, in the same order. -/
theorem readKeyed_ofMembers {m : Keyed α} (h : ∀ e ∈ m, read (ofJson (write e.2)) = .ok e.2)
    (hnodup : (Keyed.keys m).Nodup) :
    readKeyed read (ofJson (.object (Keyed.mapValues write m))) = .ok m := by
  rw [ofJson, readKeyed, readEntries_ofMembers h [] hnodup]
  rfl

/-- In an object that is read, the value of every member is. -/
theorem exists_of_readEntries {ms : List (Option String × Wire)} {before m : Keyed α}
    (h : readEntries read ms before = .ok m) {key? : Option String} {w : Wire}
    (hmem : (key?, w) ∈ ms) : ∃ a, read w = .ok a := by
  induction ms generalizing before with
  | nil => cases hmem
  | cons entry ms ih =>
    obtain ⟨k?, w'⟩ := entry
    cases k? with
    | none => cases h
    | some k =>
      rw [readEntries] at h
      cases hread : read w' with
      | error e =>
        rw [hread] at h
        cases h
      | ok a =>
        rw [hread] at h
        rcases List.mem_cons.1 hmem with heq | hmem
        · cases heq
          exact ⟨a, hread⟩
        · exact ih h hmem

end Containers

end Wire

end ListingQuery
