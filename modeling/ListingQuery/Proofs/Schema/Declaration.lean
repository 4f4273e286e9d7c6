import ListingQuery.Proofs.Query.FirstFault

/-!
# Accepted configurations

A collection is accepted exactly if it is well-formed: every field, at every depth, has a type with a
known code or nested fields, not both, and every searchable path names a field of the shape that comes
out.  Otherwise the first fault is reported.  Fields are visited in pre-order, each before the fields
nested in it, and paths after all fields.

    c.declare collection = .ok f    ↔ c.Describes f                            (declare_eq_ok_iff)
    c.declare collection = .error e ↔ FaultsFirst collection c.preorder e   (declare_eq_error_iff)

The shape has the fields that are configured, at every depth and in the same order, under the same
names and aliases                                                 (collection_reports_first_fault).
-/

namespace ListingQuery

/-- What the field holds, or what it holds a list of. -/
def FieldKind.item : FieldKind → FieldKind
  | list element => element
  | kind => kind

namespace FieldConfig

/-- Configurations are built from the configurations of their nested fields. -/
theorem nestedInduction {motive : FieldConfig → Prop}
    (mk : ∀ c : FieldConfig, (∀ cs, c.fields? = some cs → ∀ f ∈ cs, motive f) → motive c) :
    ∀ c, motive c :=
  @FieldConfig.rec motive (fun fields? => ∀ cs, fields? = some cs → ∀ f ∈ cs, motive f)
    (fun cs => ∀ f ∈ cs, motive f)
    (fun _ _ _ _ _ h => mk _ h) nofun (fun _ h _ hcs => Option.some.inj hcs ▸ h) nofun
    (fun _ _ hc hcs => List.forall_mem_cons.2 ⟨hc, hcs⟩)

/-! ## Configured fields -/

mutual

/-- The field and those nested in it, at every depth: a field stands before the fields nested in it,
and fields of one record are in order. -/
def preorder : FieldConfig → List FieldConfig
  | ⟨name, alias?, type?, none, isList⟩ => [⟨name, alias?, type?, none, isList⟩]
  | ⟨name, alias?, type?, some cs, isList⟩ =>
    ⟨name, alias?, type?, some cs, isList⟩ :: preorderAll cs
  termination_by structural c => c

/-- The fields and those nested in them. -/
def preorderAll : List FieldConfig → List FieldConfig
  | [] => []
  | c :: cs => c.preorder ++ preorderAll cs
  termination_by structural cs => cs

end

/-- The field has exactly one of a type and nested fields, and its type is known. -/
structure IsSound (c : FieldConfig) : Prop where
  exactly_one : c.type?.isSome ↔ c.fields? = none
  known : ∀ code, c.type? = some code → ∃ native, NativeType.ofCode? code = some native

/-- What is wrong with the field itself, whatever is nested in it. -/
inductive HasFault : FieldConfig → FieldFault → Prop
  | both {c : FieldConfig} {code : String} {cs : List FieldConfig} (type : c.type? = some code)
      (fields : c.fields? = some cs) : HasFault c .typeAndFields
  | neither {c : FieldConfig} (type : c.type? = none) (fields : c.fields? = none) :
      HasFault c .neitherTypeNorFields
  | unknown {c : FieldConfig} {code : String} (type : c.type? = some code) (fields : c.fields? = none)
      (not_known : NativeType.ofCode? code = none) : HasFault c (.unknownType code)

/-- The definition has the name and the alias of the configured field, is a list if that is one, and
holds the type with the configured code, or a record of the configured fields in order, which is
named for the field. -/
inductive Describes : FieldConfig → FieldDef → Prop
  | scalar {c : FieldConfig} {f : FieldDef} {code : String} {native : NativeType}
      (name : f.name = c.name) (alias? : f.alias? = c.alias?) (isList : f.kind.isList = c.isList)
      (type : c.type? = some code) (no_fields : c.fields? = none)
      (known : NativeType.ofCode? code = some native) (kind : f.kind.item = .scalar native) :
      Describes c f
  | record {c : FieldConfig} {f : FieldDef} {cs : List FieldConfig} {fs : List FieldDef}
      (name : f.name = c.name) (alias? : f.alias? = c.alias?) (isList : f.kind.isList = c.isList)
      (no_type : c.type? = none) (fields : c.fields? = some cs)
      (nested : List.Forall₂ Describes cs fs) (kind : f.kind.item = .record ⟨c.name, fs⟩) :
      Describes c f

/-- `e` is the fault of the first of the fields that has one. -/
def FaultsFirst (collection : String) (cs : List FieldConfig) (e : ConfigError) : Prop :=
  ∃ before c after fault, cs = before ++ c :: after ∧ (∀ b ∈ before, b.IsSound) ∧
    c.HasFault fault ∧ e = .invalidField collection c.name fault

variable {collection : String} {c : FieldConfig} {cs cs' : List FieldConfig} {f : FieldDef}
  {fs : List FieldDef} {e : ConfigError}

/-! ## Faults -/

theorem preorder_eq (c : FieldConfig) : c.preorder = c :: preorderAll (c.fields?.getD []) := by
  obtain ⟨name, alias?, type?, fields?, isList⟩ := c
  cases fields? <;> rfl

theorem isSound_of_type {code : String} {native : NativeType} (type : c.type? = some code)
    (no_fields : c.fields? = none) (known : NativeType.ofCode? code = some native) : c.IsSound :=
  ⟨by simp [type, no_fields], by simp [type, known]⟩

theorem isSound_of_fields (no_type : c.type? = none) (fields : c.fields? = some cs) : c.IsSound :=
  ⟨by simp [no_type, fields], by simp [no_type]⟩

theorem HasFault.not_isSound {fault : FieldFault} (h : c.HasFault fault) : ¬ c.IsSound := by
  rintro ⟨hone, hknown⟩
  cases h with
  | both type fields => simp [type, fields] at hone
  | neither no_type no_fields => simp [no_type, no_fields] at hone
  | unknown type _ not_known =>
    obtain ⟨native, hnative⟩ := hknown _ type
    cases not_known.symm.trans hnative

/-- Something is wrong with a field, or it has a known type, or it has nested fields. -/
theorem fault_or_type_or_fields (c : FieldConfig) :
    (∃ fault, c.HasFault fault) ∨
      (∃ code native, c.type? = some code ∧ c.fields? = none ∧
        NativeType.ofCode? code = some native) ∨
      ∃ cs, c.type? = none ∧ c.fields? = some cs := by
  cases htype : c.type? with
  | none =>
    cases hfields : c.fields? with
    | none => exact .inl ⟨_, .neither htype hfields⟩
    | some cs => exact .inr (.inr ⟨cs, rfl, rfl⟩)
  | some code =>
    cases hfields : c.fields? with
    | some cs => exact .inl ⟨_, .both htype hfields⟩
    | none =>
      cases hcode : NativeType.ofCode? code with
      | none => exact .inl ⟨_, .unknown htype hfields hcode⟩
      | some native => exact .inr (.inl ⟨code, native, rfl, rfl, hcode⟩)

theorem isSound_or_hasFault (c : FieldConfig) : c.IsSound ∨ ∃ fault, c.HasFault fault := by
  rcases c.fault_or_type_or_fields with hfault | ⟨code, native, type, no_fields, known⟩ |
    ⟨cs, no_type, fields⟩
  · exact .inr hfault
  · exact .inl (isSound_of_type type no_fields known)
  · exact .inl (isSound_of_fields no_type fields)

theorem faultsFirst_nil : ¬ FaultsFirst collection [] e := by
  rintro ⟨before, c, after, _, h, -⟩
  simp at h

theorem faultsFirst_cons_iff : FaultsFirst collection (c :: cs) e ↔
    (∃ fault, c.HasFault fault ∧ e = .invalidField collection c.name fault) ∨
      c.IsSound ∧ FaultsFirst collection cs e := by
  constructor
  · rintro ⟨before, c', after, fault, hcs, hbefore, hfault, he⟩
    cases before with
    | nil =>
      obtain ⟨rfl, -⟩ := List.cons.inj hcs
      exact .inl ⟨fault, hfault, he⟩
    | cons b before =>
      obtain ⟨rfl, rfl⟩ := List.cons.inj hcs
      obtain ⟨hb, hbefore⟩ := List.forall_mem_cons.1 hbefore
      exact .inr ⟨hb, before, c', after, fault, rfl, hbefore, hfault, he⟩
  · rintro (⟨fault, hfault, he⟩ | ⟨hc, before, c', after, fault, rfl, hbefore, hfault, he⟩)
    · exact ⟨[], c, cs, fault, rfl, by simp, hfault, he⟩
    · exact ⟨c :: before, c', after, fault, rfl, List.forall_mem_cons.2 ⟨hc, hbefore⟩, hfault, he⟩

/-- Later fields matter only if all earlier ones are sound. -/
theorem faultsFirst_append_iff : FaultsFirst collection (cs ++ cs') e ↔
    FaultsFirst collection cs e ∨ (∀ c ∈ cs, c.IsSound) ∧ FaultsFirst collection cs' e := by
  induction cs with
  | nil => simp [faultsFirst_nil]
  | cons c cs ih =>
    rw [List.cons_append, faultsFirst_cons_iff, faultsFirst_cons_iff, ih, List.forall_mem_cons,
      and_or_left, or_assoc, and_assoc]

/-- There is a first fault unless all fields are sound. -/
theorem exists_faultsFirst_iff :
    (∃ e, FaultsFirst collection cs e) ↔ ¬ ∀ c ∈ cs, c.IsSound := by
  induction cs with
  | nil => simp [faultsFirst_nil]
  | cons c cs ih =>
    simp only [faultsFirst_cons_iff, List.forall_mem_cons, exists_or, exists_and_left, ih]
    rcases c.isSound_or_hasFault with hc | ⟨fault, hfault⟩
    · have hnone : ∀ fault, ¬ c.HasFault fault := fun fault h => h.not_isSound hc
      simp [hc, hnone]
    · exact iff_of_true (.inl ⟨_, fault, hfault, rfl⟩) fun h => hfault.not_isSound h.1

/-! ## One field -/

theorem declare_of_hasFault {fault : FieldFault} (h : c.HasFault fault) :
    c.declare collection = .error (.invalidField collection c.name fault) := by
  obtain ⟨name, alias?, type?, fields?, isList⟩ := c
  cases h with
  | both type fields =>
    cases type
    cases fields
    rfl
  | neither no_type no_fields =>
    cases no_type
    cases no_fields
    rfl
  | unknown type no_fields not_known =>
    cases type
    cases no_fields
    rw [declare, not_known]

theorem declare_of_type {code : String} {native : NativeType} (type : c.type? = some code)
    (no_fields : c.fields? = none) (known : NativeType.ofCode? code = some native) :
    c.declare collection = .ok ⟨c.name, c.alias?, listIf c.isList (.scalar native)⟩ := by
  obtain ⟨name, alias?, type?, fields?, isList⟩ := c
  cases type
  cases no_fields
  rw [declare, known]

theorem declare_of_fields (no_type : c.type? = none) (fields : c.fields? = some cs) :
    c.declare collection = (declareAll collection cs).map fun fs =>
      ⟨c.name, c.alias?, listIf c.isList (.record ⟨c.name, fs⟩)⟩ := by
  obtain ⟨name, alias?, type?, fields?, isList⟩ := c
  cases no_type
  cases fields
  rw [declare]
  cases declareAll collection cs <;> rfl

/-- A kind is found out from whether it is a list and what is in it. -/
theorem eq_listIf_iff {isList : Bool} {item kind : FieldKind} (hitem : item.isList = false) :
    kind = listIf isList item ↔ kind.isList = isList ∧ kind.item = item := by
  cases isList <;> cases kind <;> cases item <;>
    simp_all [listIf, FieldKind.isList, FieldKind.item]

theorem describes_iff_of_type {code : String} {native : NativeType} (type : c.type? = some code)
    (no_fields : c.fields? = none) (known : NativeType.ofCode? code = some native) :
    c.Describes f ↔ f = ⟨c.name, c.alias?, listIf c.isList (.scalar native)⟩ := by
  obtain ⟨name, alias?, kind⟩ := f
  rw [FieldDef.mk.injEq, eq_listIf_iff rfl]
  constructor
  · rintro (⟨hname, halias, hlist, type', -, known', hkind⟩ | ⟨-, -, -, no_type, -, -, -⟩)
    · cases type.symm.trans type'
      cases known.symm.trans known'
      exact ⟨hname, halias, hlist, hkind⟩
    · cases type.symm.trans no_type
  · rintro ⟨hname, halias, hlist, hkind⟩
    exact .scalar hname halias hlist type no_fields known hkind

theorem describes_iff_of_fields (no_type : c.type? = none) (fields : c.fields? = some cs) :
    c.Describes f ↔ ∃ fs, List.Forall₂ Describes cs fs ∧
      f = ⟨c.name, c.alias?, listIf c.isList (.record ⟨c.name, fs⟩)⟩ := by
  obtain ⟨name, alias?, kind⟩ := f
  have hdefinition (fs : List FieldDef) :
      kind = listIf c.isList (.record ⟨c.name, fs⟩) ↔
        kind.isList = c.isList ∧ kind.item = .record ⟨c.name, fs⟩ := eq_listIf_iff rfl
  simp only [FieldDef.mk.injEq, hdefinition]
  constructor
  · rintro (⟨-, -, -, type, -, -, -⟩ | ⟨hname, halias, hlist, -, fields', nested, hkind⟩)
    · cases no_type.symm.trans type
    · cases fields.symm.trans fields'
      exact ⟨_, nested, hname, halias, hlist, hkind⟩
  · rintro ⟨fs, nested, hname, halias, hlist, hkind⟩
    exact .record hname halias hlist no_type fields nested hkind

theorem Describes.isSound (h : c.Describes f) : c.IsSound := by
  cases h with
  | scalar _ _ _ type no_fields known => exact isSound_of_type type no_fields known
  | record _ _ _ no_type fields => exact isSound_of_fields no_type fields

/-! ## Declarations -/

theorem declareAll_eq_mapM (collection : String) (cs : List FieldConfig) :
    declareAll collection cs = cs.mapM (declare collection) := by
  induction cs with
  | nil => rfl
  | cons c cs ih =>
    rw [declareAll, List.mapM_cons, ih]
    cases c.declare collection with
    | error e => rfl
    | ok f => cases cs.mapM (declare collection) <;> rfl

/-- Fields are declared as they are configured if each of them is. -/
theorem declareAll_eq_ok_iff_of (collection : String)
    (h : ∀ c ∈ cs, ∀ f, c.declare collection = .ok f ↔ c.Describes f) :
    declareAll collection cs = .ok fs ↔ List.Forall₂ Describes cs fs := by
  rw [declareAll_eq_mapM, mapM_eq_ok_iff]
  constructor
  · intro hall
    exact ((List.forall₂_and_left _ _).2 ⟨h, hall⟩).imp fun c f ⟨hc, hf⟩ => (hc f).1 hf
  · intro hall
    exact ((List.forall₂_and_left _ _).2 ⟨h, hall⟩).imp fun c f ⟨hc, hf⟩ => (hc f).2 hf

/-- A field is declared as it is configured. -/
theorem declare_eq_ok_iff : c.declare collection = .ok f ↔ c.Describes f := by
  induction c using nestedInduction generalizing f with
  | mk c ih =>
    rcases c.fault_or_type_or_fields with ⟨fault, hfault⟩ | ⟨code, native, type, no_fields, known⟩ |
      ⟨cs, no_type, fields⟩
    · rw [declare_of_hasFault hfault]
      exact iff_of_false nofun fun h => hfault.not_isSound h.isSound
    · rw [declare_of_type type no_fields known, describes_iff_of_type type no_fields known,
        Except.ok.injEq, eq_comm]
    · have hnested {fs : List FieldDef} :
          declareAll collection cs = .ok fs ↔ List.Forall₂ Describes cs fs :=
        declareAll_eq_ok_iff_of collection fun c hc _ => ih cs fields c hc
      rw [declare_of_fields no_type fields, describes_iff_of_fields no_type fields]
      simp only [← hnested]
      cases declareAll collection cs <;> simp [Except.map, eq_comm]

theorem declareAll_eq_ok_iff (collection : String) :
    declareAll collection cs = .ok fs ↔ List.Forall₂ Describes cs fs :=
  declareAll_eq_ok_iff_of collection fun _ _ _ => declare_eq_ok_iff

/-- The first fault of fields in a row is that of the first of them that has one, nested or not. -/
theorem declareAll_eq_error_iff_of
    (h : ∀ c ∈ cs, ∀ e, c.declare collection = .error e ↔ FaultsFirst collection c.preorder e) :
    declareAll collection cs = .error e ↔ FaultsFirst collection (preorderAll cs) e := by
  induction cs with
  | nil => exact iff_of_false nofun faultsFirst_nil
  | cons c cs ih =>
    obtain ⟨hc, hcs⟩ := List.forall_mem_cons.1 h
    -- the fields behind are visited once everything in the first field is sound
    have hsound : (∀ c' ∈ c.preorder, c'.IsSound) ↔ ∃ f, c.declare collection = .ok f := by
      simp only [exists_eq_ok_iff, hc, exists_faultsFirst_iff, not_not]
    rw [preorderAll, faultsFirst_append_iff, hsound, ← ih hcs, ← hc, declareAll]
    cases c.declare collection with
    | error e => simp
    | ok f => cases declareAll collection cs <;> simp

/-- A field is refused for the first fault in it. -/
theorem declare_eq_error_iff :
    c.declare collection = .error e ↔ FaultsFirst collection c.preorder e := by
  induction c using nestedInduction generalizing e with
  | mk c ih =>
    rw [preorder_eq, faultsFirst_cons_iff]
    -- a fault of the field itself hides what is nested in it
    rcases c.fault_or_type_or_fields with ⟨fault, hfault⟩ | ⟨code, native, type, no_fields, known⟩ |
      ⟨cs, no_type, fields⟩
    · rw [declare_of_hasFault hfault]
      constructor
      · intro h
        exact .inl ⟨fault, hfault, (Except.error.inj h).symm⟩
      · rintro (⟨fault', hfault', rfl⟩ | ⟨hsound, -⟩)
        · rw [← declare_of_hasFault hfault, declare_of_hasFault hfault']
        · exact absurd hsound hfault.not_isSound
    · have hsound := isSound_of_type type no_fields known
      have hnone : ∀ fault, ¬ c.HasFault fault := fun _ h => h.not_isSound hsound
      simp [declare_of_type type no_fields known, hnone, no_fields, preorderAll, faultsFirst_nil]
    · have hsound := isSound_of_fields no_type fields
      have hnone : ∀ fault, ¬ c.HasFault fault := fun _ h => h.not_isSound hsound
      rw [fields, Option.getD_some,
        ← declareAll_eq_error_iff_of fun c hc _ => ih cs fields c hc,
        declare_of_fields no_type fields]
      cases declareAll collection cs <;> simp [hnone, hsound, Except.map]

theorem declareAll_eq_error_iff :
    declareAll collection cs = .error e ↔ FaultsFirst collection (preorderAll cs) e :=
  declareAll_eq_error_iff_of fun _ _ _ => declare_eq_error_iff

/-- Fields have definitions exactly if all of them, at every depth, are sound. -/
theorem exists_forall₂_describes_iff :
    (∃ fs, List.Forall₂ Describes cs fs) ↔ ∀ c ∈ preorderAll cs, c.IsSound := by
  simp only [← declareAll_eq_ok_iff "", exists_eq_ok_iff, declareAll_eq_error_iff,
    exists_faultsFirst_iff, not_not]

end FieldConfig

open FieldConfig (Describes preorderAll)

/-! ## Collections -/

namespace RecordShape

/-- Paths are resolved up to the first that names no field. -/
theorem mapM_resolve_eq_error_iff {shape : RecordShape} {paths : List String} {e : QueryError} :
    paths.mapM shape.resolve = .error e ↔ shape.FaultsFirst paths e := by
  have hpaths : paths.mapM shape.resolve = .error e ↔ shape.FaultsFirst (paths.map id) e :=
    mapM_eq_error_iff fun _ _ => Iff.rfl
  rwa [List.map_id] at hpaths

end RecordShape

namespace CollectionConfig

variable {c : CollectionConfig}

theorem toSchema_eq_ok_iff {s : CollectionSchema} : c.toSchema = .ok s ↔
    ∃ fields, List.Forall₂ Describes c.fields fields ∧
      (∀ path ∈ c.searchable, RecordShape.Resolves ⟨c.name, fields⟩ path) ∧
      s = ⟨c.name, ⟨c.name, fields⟩, c.searchable⟩ := by
  simp only [← FieldConfig.declareAll_eq_ok_iff c.name]
  rw [toSchema]
  cases FieldConfig.declareAll c.name c.fields with
  | error e => simp
  | ok fields =>
    have hpaths : (∀ path ∈ c.searchable, RecordShape.Resolves ⟨c.name, fields⟩ path) ↔
        ∃ rs, c.searchable.mapM (RecordShape.resolve ⟨c.name, fields⟩) = .ok rs := by
      simp only [exists_eq_ok_iff, RecordShape.mapM_resolve_eq_error_iff,
        RecordShape.exists_faultsFirst_iff, not_not]
    simp only [Except.ok.injEq, exists_eq_left', hpaths]
    cases c.searchable.mapM (RecordShape.resolve ⟨c.name, fields⟩) <;> simp [eq_comm]

/-- A collection is refused for the first fault of its fields, or else for the first searchable path
that names none. -/
theorem toSchema_eq_error_iff {e : ListingError} : c.toSchema = .error e ↔
    (∃ fault, FieldConfig.FaultsFirst c.name (preorderAll c.fields) fault ∧ e = .config fault) ∨
      ∃ fields fault, List.Forall₂ Describes c.fields fields ∧
        RecordShape.FaultsFirst ⟨c.name, fields⟩ c.searchable fault ∧ e = .query fault := by
  simp only [← FieldConfig.declareAll_eq_ok_iff c.name,
    ← FieldConfig.declareAll_eq_error_iff, ← RecordShape.mapM_resolve_eq_error_iff]
  rw [toSchema]
  cases FieldConfig.declareAll c.name c.fields with
  | error fault => simp [eq_comm]
  | ok fields =>
    cases h : c.searchable.mapM (RecordShape.resolve ⟨c.name, fields⟩) <;> simp [h, eq_comm]

theorem exists_toSchema_iff : (∃ s, c.toSchema = .ok s) ↔
    (∀ f ∈ preorderAll c.fields, f.IsSound) ∧ ∃ fields, List.Forall₂ Describes c.fields fields ∧
      ∀ path ∈ c.searchable, RecordShape.Resolves ⟨c.name, fields⟩ path := by
  rw [← FieldConfig.exists_forall₂_describes_iff]
  simp only [toSchema_eq_ok_iff]
  constructor
  · rintro ⟨s, fields, hfields, hpaths, -⟩
    exact ⟨⟨fields, hfields⟩, fields, hfields, hpaths⟩
  · rintro ⟨-, fields, hfields, hpaths⟩
    exact ⟨_, fields, hfields, hpaths, rfl⟩

end CollectionConfig

namespace SchemaConfig

/-- Of the collections with a name, the first is the one that is declared. -/
theorem collection_of_first {config : SchemaConfig} {name : String}
    {before after : List CollectionConfig} {c : CollectionConfig}
    (hcollections : config.collections = before ++ c :: after)
    (hbefore : ∀ b ∈ before, b.name ≠ name) (hname : c.name = name) :
    config.collection name = c.toSchema := by
  have hfind : config.collections.find? (·.name == name) = some c := by
    rw [hcollections, List.find?_append, List.find?_eq_none.2 (by simpa using hbefore),
      Option.none_or, List.find?_cons_of_pos (by simpa using hname)]
  rw [collection, hfind]

theorem collection_eq_unknown_iff {config : SchemaConfig} {name : String} :
    config.collection name = .error (.query (.unknownCollection name)) ↔
      ∀ c ∈ config.collections, c.name ≠ name := by
  rw [collection]
  cases hfind : config.collections.find? (·.name == name) with
  | none => exact iff_of_true rfl (by simpa using hfind)
  | some c =>
    refine iff_of_false (fun h => ?_) fun h => ?_
    · rcases CollectionConfig.toSchema_eq_error_iff.1 h with ⟨fault, -, hfault⟩ |
        ⟨fields, fault, -, hfirst, hfault⟩
      · cases hfault
      · obtain ⟨_, _, _, _, _, _, _, rfl, -⟩ := hfirst
        cases hfault
    · exact h c (List.mem_of_find?_eq_some hfind) (by simpa using List.find?_some hfind)

/-- A name is unknown exactly if no collection has it.  The first collection that has it is accepted
exactly if all its fields, at every depth, are sound and its searchable paths name fields of the
shape.  It is refused for the first fault of a field, in pre-order, or if there is none for the first
path that names no field.  What comes out has the configured name and searchable paths, and the
configured fields, at every depth. -/
theorem collection_reports_first_fault (config : SchemaConfig) (name : String) :
    (config.collection name = .error (.query (.unknownCollection name)) ↔
      ∀ c ∈ config.collections, c.name ≠ name) ∧
    ∀ before c after, config.collections = before ++ c :: after →
      (∀ b ∈ before, b.name ≠ name) → c.name = name →
      ((∃ s, config.collection name = .ok s) ↔
        (∀ f ∈ preorderAll c.fields, f.IsSound) ∧
          ∃ fields, List.Forall₂ Describes c.fields fields ∧
            ∀ path ∈ c.searchable, RecordShape.Resolves ⟨name, fields⟩ path) ∧
      (∀ e, config.collection name = .error e ↔
        (∃ fault, FieldConfig.FaultsFirst name (preorderAll c.fields) fault ∧ e = .config fault) ∨
          (∀ f ∈ preorderAll c.fields, f.IsSound) ∧
            ∃ fields fault, List.Forall₂ Describes c.fields fields ∧
              RecordShape.FaultsFirst ⟨name, fields⟩ c.searchable fault ∧ e = .query fault) ∧
      ∀ s, config.collection name = .ok s →
        s.name = name ∧ s.searchable = c.searchable ∧ s.shape.name = name ∧
          List.Forall₂ Describes c.fields s.shape.fields := by
  refine ⟨collection_eq_unknown_iff, fun before c after hcollections hbefore hname => ?_⟩
  rw [collection_of_first hcollections hbefore hname]
  subst hname
  refine ⟨CollectionConfig.exists_toSchema_iff, fun e => ?_, fun s hs => ?_⟩
  · rw [CollectionConfig.toSchema_eq_error_iff]
    refine or_congr_right ⟨?_, fun h => h.2⟩
    rintro ⟨fields, fault, hfields, hfault⟩
    exact ⟨FieldConfig.exists_forall₂_describes_iff.1 ⟨fields, hfields⟩,
      fields, fault, hfields, hfault⟩
  · obtain ⟨fields, hfields, -, rfl⟩ := CollectionConfig.toSchema_eq_ok_iff.1 hs
    exact ⟨rfl, rfl, rfl, hfields⟩

/-- Notes that are sound, people with two faulty fields, people without fields, and visits that are
searched by a field they do not have. -/
def clinicConfig : SchemaConfig where
  collections := [
    { name := "notes", searchable := ["n.body"], fields := [
      { name := "note", alias? := some "n", isList := true, fields? := some [
        { name := "body", type? := some "array<string>" }] }] },
    { name := "people", fields := [
      { name := "address", fields? := some [
        { name := "street", type? := some "string" }, { name := "zip", type? := some "digits" }] },
      { name := "age" }] },
    { name := "people" },
    { name := "visits", searchable := ["day", "doctor"], fields := [
      { name := "day", type? := some "date" }] }]

theorem clinicConfig_collections :
    (∃ s, clinicConfig.collection "notes" = .ok s ∧ s.searchable = ["n.body"]) ∧
    clinicConfig.collection "people" =
      .error (.config (.invalidField "people" "zip" (.unknownType "digits"))) ∧
    clinicConfig.collection "visits" =
      .error (.query (.fieldNotFound "doctor" "doctor" "visits")) ∧
    clinicConfig.collection "bills" = .error (.query (.unknownCollection "bills")) := by
  refine ⟨?_, ?_, ?_, ?_⟩
  · obtain ⟨hok, -, hschema⟩ := (collection_reports_first_fault clinicConfig "notes").2 [] _ _ rfl
      (by simp) rfl
    have hbody : NativeType.ofCode? "array<string>" = some (.array .string) := by decide +kernel
    have hfields : List.Forall₂ Describes
        [{ name := "note", alias? := some "n", isList := true, fields? := some [
          { name := "body", type? := some "array<string>" }] }]
        [⟨"note", some "n", .list (.record ⟨"note", [⟨"body", none, .scalar (.array .string)⟩]⟩)⟩] :=
      .cons (.record rfl rfl rfl rfl rfl (.cons (.scalar rfl rfl rfl rfl rfl hbody rfl) .nil) rfl) .nil
    obtain ⟨s, hs⟩ := hok.2 ⟨FieldConfig.exists_forall₂_describes_iff.1 ⟨_, hfields⟩, _, hfields,
      List.forall_mem_singleton.2 ⟨⟨.string, [⟨"note", true⟩, ⟨"body", false⟩]⟩, by decide +kernel⟩⟩
    exact ⟨s, hs, (hschema s hs).2.1⟩
  · obtain ⟨-, herror, -⟩ := (collection_reports_first_fault clinicConfig "people").2
      (clinicConfig.collections.take 1) _ _ rfl (by decide) rfl
    have hstring : NativeType.ofCode? "string" = some .string := by decide +kernel
    have hdigits : NativeType.ofCode? "digits" = none := by decide +kernel
    refine (herror _).2 (.inl ⟨_, ⟨[_, _], _, [_], _, rfl, ?_, .unknown rfl rfl hdigits, rfl⟩, rfl⟩)
    exact List.forall_mem_cons.2 ⟨FieldConfig.isSound_of_fields rfl rfl,
      List.forall_mem_singleton.2 (FieldConfig.isSound_of_type rfl rfl hstring)⟩
  · obtain ⟨-, herror, -⟩ := (collection_reports_first_fault clinicConfig "visits").2
      (clinicConfig.collections.take 3) _ _ rfl (by decide) rfl
    have hdate : NativeType.ofCode? "date" = some .date := by decide +kernel
    have hfields : List.Forall₂ Describes [{ name := "day", type? := some "date" }]
        [⟨"day", none, .scalar .date⟩] :=
      .cons (.scalar rfl rfl rfl rfl rfl hdate rfl) .nil
    refine (herror _).2 (.inr ⟨FieldConfig.exists_forall₂_describes_iff.1 ⟨_, hfields⟩, _, _,
      hfields, ⟨["day"], "doctor", [], _, _, rfl, ?_, rfl, by decide +kernel⟩, rfl⟩)
    exact List.forall_mem_singleton.2 ⟨⟨.date, [⟨"day", false⟩]⟩, by decide +kernel⟩
  · exact (collection_reports_first_fault clinicConfig "bills").1.2 (by decide)

end SchemaConfig

end ListingQuery
