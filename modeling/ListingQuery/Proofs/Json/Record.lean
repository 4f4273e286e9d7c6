import ListingQuery.Json.Record
import ListingQuery.Proofs.Json.Wire

/-!
# Reading the members of a record

Every member of an object is read into the field with its key, or skipped if there is none and the
form is not strict.  So each member whose key is a field was read, and of a strict form every key is
a field                                                           (exists_read_of_mem).

If each field writes to its own place and leaves the others, then what stands at a place in the end
is what the member with this key says, or what stood there before       (get?_of_readMembers).
-/

namespace ListingQuery.RecordForm

open Wire

variable {ρ : Type} {form : RecordForm ρ}

theorem name_of_field? {key : String} {field : RecordField ρ}
    (h : form.field? key = some field) : field.name = key := by
  rw [field?] at h
  simpa using List.find?_some h

theorem mem_fields_of_field? {key : String} {field : RecordField ρ}
    (h : form.field? key = some field) : field ∈ form.fields :=
  List.mem_of_find?_eq_some h

theorem field?_isSome_iff {key : String} :
    (form.field? key).isSome = true ↔ key ∈ form.fields.map (·.name) := by
  rw [field?, List.find?_isSome, List.mem_map]
  simp

/-! ## Steps -/

/-- What was done with the first member. -/
theorem cases_of_readMembers {k? : Option String} {w : Wire} {ms : List (Option String × Wire)}
    {seen : List String} {r : ρ} {out : List String × ρ}
    (h : form.readMembers ((k?, w) :: ms) seen r = .ok out) :
    ∃ key, k? = some key ∧
      ((∃ field r', form.field? key = some field ∧ key ∉ seen ∧ field.read w r = .ok r' ∧
        form.readMembers ms (key :: seen) r' = .ok out) ∨
      (form.field? key = none ∧ form.strict = false ∧ form.readMembers ms seen r = .ok out)) := by
  cases k? with
  | none => cases h
  | some key =>
    refine ⟨key, rfl, ?_⟩
    rw [readMembers] at h
    cases hfield : form.field? key with
    | some field =>
      simp only [hfield] at h
      split at h
      · cases h
      · next hseen =>
        cases hread : field.read w r with
        | error e =>
          rw [hread] at h
          cases h
        | ok r' =>
          rw [hread] at h
          exact .inl ⟨field, r', rfl, by simpa using hseen, hread, h⟩
    | none =>
      simp only [hfield] at h
      cases hstrict : form.strict with
      | true => simp [hstrict] at h
      | false =>
        simp only [hstrict, Bool.false_eq_true, if_false] at h
        split at h
        · exact .inr ⟨rfl, rfl, h⟩
        · cases h

theorem readMembers_cons {key : String} {field : RecordField ρ} {seen : List String}
    (hfield : form.field? key = some field) (hseen : key ∉ seen) {w : Wire} {r r' : ρ}
    (hread : field.read w r = .ok r') (ms : List (Option String × Wire)) :
    form.readMembers ((some key, w) :: ms) seen r = form.readMembers ms (key :: seen) r' := by
  rw [readMembers]
  simp only [hfield, List.contains_eq_mem, hseen, decide_false, Bool.false_eq_true, if_false, hread]
  rfl

/-- Reading the value into the field with this key makes the change. -/
def ReadsInto (form : RecordForm ρ) (key : String) (v : Json) (change : ρ → ρ) : Prop :=
  ∃ field, form.field? key = some field ∧ ∀ r, field.read (ofJson v) r = .ok (change r)

theorem ReadsInto.readMembers_cons {key : String} {v : Json} {change : ρ → ρ}
    (h : form.ReadsInto key v change) {seen : List String} (hseen : key ∉ seen)
    (ms : List (String × Json)) (r : ρ) :
    form.readMembers (ofMembers ((key, v) :: ms)) seen r =
      form.readMembers (ofMembers ms) (key :: seen) (change r) := by
  obtain ⟨field, hfield, hread⟩ := h
  exact RecordForm.readMembers_cons hfield hseen (hread r) _

/-- A member for a value that may be missing. -/
theorem readMembers_member {α : Type} {key : String} {toJson : α → Json} {value? : Option α}
    {change : ρ → ρ} (hread : ∀ a, value? = some a → form.ReadsInto key (toJson a) change)
    {r : ρ} (hnone : value? = none → change r = r) {seen : List String} (hseen : key ∉ seen)
    (ms : List (String × Json)) :
    ∃ seen', seen' ⊆ key :: seen ∧
      form.readMembers (ofMembers (Json.member key toJson value? ++ ms)) seen r =
        form.readMembers (ofMembers ms) seen' (change r) := by
  cases value? with
  | none =>
    rw [hnone rfl]
    exact ⟨seen, List.subset_cons_self key seen, rfl⟩
  | some a =>
    exact ⟨key :: seen, List.Subset.refl _, (hread a rfl).readMembers_cons hseen ms r⟩

theorem exists_readMembers_of_read {members : List (Option String × Wire)} {closed : Bool}
    {r r' : ρ} (h : form.read r (.object members closed) = .ok r') :
    ∃ seen, form.readMembers members [] r = .ok (seen, r') := by
  rw [read] at h
  cases hmembers : form.readMembers members [] r with
  | error fault =>
    rw [hmembers] at h
    cases h
  | ok out =>
    obtain ⟨seen, r''⟩ := out
    simp only [hmembers, bind, Except.bind] at h
    split at h
    · cases h
    · split at h
      · cases h
      · cases h
        exact ⟨seen, rfl⟩

/-- Where no field is required, reading the members is all there is. -/
theorem read_of_readMembers (hform : ∀ field ∈ form.fields, field.required = false)
    {members : List (Option String × Wire)} {r r' : ρ} {seen : List String}
    (h : form.readMembers members [] r = .ok (seen, r')) :
    form.read r (.object members true) = .ok r' := by
  have hrequired : (form.fields.any fun f => f.required && !seen.contains f.name) = false := by
    rw [List.any_eq_false]
    intro field hfield
    simp [hform field hfield]
  rw [read, h]
  simp only [bind, Except.bind, hrequired]
  rfl

/-! ## Runs -/

/-- A member whose key is a field was read; of a strict form, there are no others. -/
theorem exists_read_of_mem {ms : List (Option String × Wire)} {seen : List String} {r : ρ}
    {out : List String × ρ} (h : form.readMembers ms seen r = .ok out) {key : String} {w : Wire}
    (hmem : (some key, w) ∈ ms) :
    (form.strict = true → (form.field? key).isSome = true) ∧
      ∀ field, form.field? key = some field → ∃ r₁ r₂, field.read w r₁ = .ok r₂ := by
  induction ms generalizing seen r with
  | nil => cases hmem
  | cons m ms ih =>
    obtain ⟨k?, w'⟩ := m
    obtain ⟨key', rfl, hstep⟩ := cases_of_readMembers h
    rcases hstep with ⟨field', r', hfield', -, hread, hrest⟩ | ⟨hnone, hstrict, hrest⟩
    · rcases List.mem_cons.1 hmem with heq | hmem
      · cases heq
        refine ⟨fun _ => by rw [hfield']; rfl, fun field hfield => ?_⟩
        cases hfield'.symm.trans hfield
        exact ⟨r, r', hread⟩
      · exact ih hrest hmem
    · rcases List.mem_cons.1 hmem with heq | hmem
      · cases heq
        refine ⟨fun h => ?_, fun field hfield => ?_⟩
        · rw [hstrict] at h
          cases h
        · rw [hnone] at hfield
          cases hfield
      · exact ih hrest hmem

/-- Members are read if their keys are different fields and each of these can be read. -/
theorem exists_readMembers {ms : List (String × Json)} {seen : List String} {r : ρ}
    (hnodup : (Keyed.keys ms).Nodup) (hseen : ∀ key ∈ Keyed.keys ms, key ∉ seen)
    (hread : ∀ m ∈ ms, ∃ field, form.field? m.1 = some field ∧
      ∀ r, ∃ r', field.read (ofJson m.2) r = .ok r') :
    ∃ out, form.readMembers (ofMembers ms) seen r = .ok out := by
  induction ms generalizing seen r with
  | nil => exact ⟨_, rfl⟩
  | cons m ms ih =>
    obtain ⟨key, v⟩ := m
    obtain ⟨hkey, hnodup⟩ := List.nodup_cons.1 hnodup
    obtain ⟨hnew, hseen⟩ := List.forall_mem_cons.1 hseen
    obtain ⟨⟨field, hfield, hfirst⟩, hread⟩ := List.forall_mem_cons.1 hread
    obtain ⟨r', hr'⟩ := hfirst r
    have hseen' : ∀ k ∈ Keyed.keys ms, k ∉ key :: seen := by
      intro k hk hmem
      rcases List.mem_cons.1 hmem with rfl | hmem
      · exact hkey hk
      · exact hseen k hk hmem
    obtain ⟨out, hout⟩ := ih (r := r') hnodup hseen' hread
    refine ⟨out, ?_⟩
    rw [ofMembers, readMembers_cons hfield hnew hr', hout]

/-- No key comes twice. -/
theorem not_mem_seen_of_readMembers (hstrict : form.strict = true) {ms : List (String × Json)}
    {seen : List String} {r : ρ} {out : List String × ρ}
    (h : form.readMembers (ofMembers ms) seen r = .ok out) :
    ∀ key ∈ Keyed.keys ms, key ∉ seen := by
  induction ms generalizing seen r with
  | nil => simp [Keyed.keys]
  | cons m ms ih =>
    obtain ⟨k, v⟩ := m
    rw [ofMembers] at h
    obtain ⟨k', hk', hstep⟩ := cases_of_readMembers h
    cases hk'
    rcases hstep with ⟨field, r', -, hnew, -, hrest⟩ | ⟨-, hnot, -⟩
    · intro key hkey
      rcases List.mem_cons.1 hkey with rfl | hkey
      · exact hnew
      · exact fun hmem => ih hrest key hkey (List.mem_cons_of_mem _ hmem)
    · rw [hstrict] at hnot
      cases hnot

/-- What the members say stands in the record, and the rest is as it was.  Each field changes its own
place of the record. -/
theorem get?_of_readMembers {β : Type} {places : ρ → Keyed β} {value : String → Json → β}
    (hstrict : form.strict = true) {ms : List (String × Json)}
    (hfields : ∀ field ∈ form.fields, ∀ m ∈ ms, ∀ r r', field.read (ofJson m.2) r = .ok r' →
      places r' = Keyed.put (places r) field.name (value field.name m.2))
    {seen : List String} {r : ρ} {out : List String × ρ}
    (h : form.readMembers (ofMembers ms) seen r = .ok out) (key : String) :
    Keyed.get? (places out.2) key =
      ((Keyed.get? ms key).map (value key)).or (Keyed.get? (places r) key) := by
  induction ms generalizing seen r with
  | nil =>
    cases h
    rfl
  | cons m ms ih =>
    obtain ⟨k, v⟩ := m
    rw [ofMembers] at h
    obtain ⟨k', hk', hstep⟩ := cases_of_readMembers h
    cases hk'
    rcases hstep with ⟨field, r', hfield, -, hread, hrest⟩ | ⟨-, hnot, -⟩
    · have hplaces := hfields field (mem_fields_of_field? hfield) _ List.mem_cons_self r r' hread
      rw [name_of_field? hfield] at hplaces
      rw [ih (fun field hf m hm => hfields field hf m (List.mem_cons_of_mem _ hm)) hrest, hplaces,
        Keyed.get?]
      by_cases hkey : k = key
      · subst hkey
        have hlater : Keyed.get? ms k = none := by
          rw [Keyed.get?_eq_none_iff]
          intro hmem
          exact not_mem_seen_of_readMembers hstrict hrest k hmem List.mem_cons_self
        rw [hlater, Keyed.get?_put_self, if_pos rfl]
        rfl
      · rw [if_neg hkey, Keyed.get?_put_of_ne hkey]
    · rw [hstrict] at hnot
      cases hnot

end ListingQuery.RecordForm
