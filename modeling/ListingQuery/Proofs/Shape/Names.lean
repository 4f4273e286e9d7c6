import Mathlib.Data.List.Nodup
import ListingQuery.Proofs.Shape.Composition

/-!
# Distinct names

The records of a shape are the record it describes and those that its fields hold, at any depth.  A
shape has distinct names if in none of its records two fields have the same canonical name.  Then
canonical names alone say which field a path leads to.

    shape.resolve path = .ok f → shape.Declares f.segments           (declares_of_resolve)
-/

namespace ListingQuery

namespace RecordShape

/-- A shape contains itself and the records of its fields. -/
inductive Contains : RecordShape → RecordShape → Prop
  | self (shape : RecordShape) : Contains shape shape
  | field {shape inner s : RecordShape} {f : FieldDef} (mem : f ∈ shape.fields)
      (record : f.kind.record? = some inner) (contains : Contains inner s) : Contains shape s

/-- In every record of the shape, the fields have different names. -/
def HasDistinctNames (shape : RecordShape) : Prop :=
  ∀ s, shape.Contains s → (s.fields.map (·.name)).Nodup

/-- The segments name a field of the shape, or one below it. -/
inductive Declares : RecordShape → List ResolvedSegment → Prop
  | last {shape : RecordShape} {f : FieldDef} (mem : f ∈ shape.fields) :
      Declares shape [⟨f.name, f.kind.isList⟩]
  | more {shape inner : RecordShape} {f : FieldDef} {segments : List ResolvedSegment}
      (mem : f ∈ shape.fields) (record : f.kind.record? = some inner)
      (declares : Declares inner segments) :
      Declares shape (⟨f.name, f.kind.isList⟩ :: segments)

/-! ## Lemmas -/

theorem HasDistinctNames.inner {shape inner : RecordShape} {f : FieldDef}
    (h : shape.HasDistinctNames) (hf : f ∈ shape.fields) (hinner : f.kind.record? = some inner) :
    inner.HasDistinctNames :=
  fun s hs => h s (.field hf hinner hs)

theorem hasDistinctNames_iff {shape : RecordShape} : shape.HasDistinctNames ↔
    (shape.fields.map (·.name)).Nodup ∧
      ∀ f ∈ shape.fields, ∀ inner, f.kind.record? = some inner → inner.HasDistinctNames := by
  constructor
  · intro h
    exact ⟨h shape (.self shape), fun f hf inner hinner => h.inner hf hinner⟩
  · rintro ⟨hnodup, hinner⟩ s hs
    cases hs with
    | self => exact hnodup
    | field hf hrecord hcontains => exact hinner _ hf _ hrecord s hcontains

theorem HasDistinctNames.eq_of_name_eq {shape : RecordShape} {f g : FieldDef}
    (h : shape.HasDistinctNames) (hf : f ∈ shape.fields) (hg : g ∈ shape.fields)
    (hname : f.name = g.name) : f = g :=
  List.inj_on_of_nodup_map (h shape (.self shape)) hf hg hname

theorem Declares.ne_nil {shape : RecordShape} {segments : List ResolvedSegment}
    (h : shape.Declares segments) : segments ≠ [] := by
  cases h <;> simp

theorem Declares.exists_field {shape : RecordShape} {s : ResolvedSegment}
    {rest : List ResolvedSegment} (h : shape.Declares (s :: rest)) :
    ∃ f ∈ shape.fields, s = ⟨f.name, f.kind.isList⟩ := by
  cases h with
  | last hf => exact ⟨_, hf, rfl⟩
  | more hf _ _ => exact ⟨_, hf, rfl⟩

theorem mem_fields_of_lookup? {shape : RecordShape} {segment : String} {f : FieldDef}
    (h : shape.lookup? segment = some f) : f ∈ shape.fields := by
  rw [lookup?, Option.or_eq_some_iff] at h
  rcases h with h | ⟨-, h⟩
  · exact List.mem_of_find?_eq_some h
  · exact List.mem_of_find?_eq_some h

theorem Names.declares {shape : RecordShape} {path : FieldPath} {r : ResolvedField}
    (h : shape.Names path r) : shape.Declares r.segments := by
  induction h with
  | last lookup => exact .last (mem_fields_of_lookup? lookup)
  | into lookup record _ ih => exact .more (mem_fields_of_lookup? lookup) record ih

/-- A path that resolves names a declared field. -/
theorem declares_of_resolve {shape : RecordShape} {path : String} {r : ResolvedField}
    (h : shape.resolve path = .ok r) : shape.Declares r.segments :=
  (resolve_eq_ok_iff.1 h).declares

end RecordShape

end ListingQuery
