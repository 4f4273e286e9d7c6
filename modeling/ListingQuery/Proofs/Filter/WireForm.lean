import ListingQuery.Proofs.Filter.Typed
import ListingQuery.Proofs.Json.Record

/-!
# The wire form of expressions

An expression is written as the members of the operators that are set, and read back from them.  What
was read from an object is written as that object, its members in the order of the operators, but for
two things: null stays only with the comparisons, and a type has its own code.

    ofWire (ofJson e.toJson) = .ok e                                          (ofWire_toJson)
    ofWire (ofJson (.object ms)) = .ok e → e.toJson is ms rewritten           (perm_of_ofWire)

An object with a key of no operator is not read             (ofWire_ne_ok_of_hasUnknownKey).
-/

namespace ListingQuery

open Wire

namespace FilterExpression

/-- The keys of the operators, in the order in which they are written. -/
def operatorNames : List String :=
  ["type", "eq", "ne", "in", "nin", "gt", "gte", "lt", "lte", "regex", "like", "exists", "isNull",
    "isEmpty", "isVoid"]

/-- The keys under which null is a value. -/
def nullableNames : List String := ["eq", "ne", "gt", "gte", "lt", "lte"]

/-- What each operator is written as, if it is set. -/
def written (e : FilterExpression) : Keyed (Option Json) := [
  ("type", e.columnType?.map fun t => .string t.code), ("eq", e.eq?), ("ne", e.ne?),
  ("in", e.among?.map .array), ("nin", e.notAmong?.map .array), ("gt", e.gt?), ("gte", e.gte?),
  ("lt", e.lt?), ("lte", e.lte?), ("regex", e.regex?.map .string), ("like", e.like?.map .string),
  ("exists", e.exists?.map .bool), ("isNull", e.isNull?.map .bool),
  ("isEmpty", e.isEmpty?.map .bool), ("isVoid", e.isVoid?.map .bool)]

/-- What a member becomes when it is read and written again. -/
def rewritten? (key : String) (v : Json) : Option Json :=
  if key ∈ nullableNames then some v
  else
    match v with
    | .null => none
    | .string s => some (.string (if key = "type" then (ColumnType.ofCode s).code else s))
    | v => some v

/-! ## Operators -/

theorem keys_written (e : FilterExpression) : Keyed.keys e.written = operatorNames := rfl

theorem nodup_keys_written (e : FilterExpression) : (Keyed.keys e.written).Nodup := by
  rw [keys_written]
  decide

theorem get?_written_eq_none_iff {e : FilterExpression} {key : String} :
    Keyed.get? e.written key = none ↔ key ∉ operatorNames :=
  Keyed.get?_eq_none_iff

theorem toJson_eq (e : FilterExpression) : e.toJson = .object (Keyed.present e.written) := by
  have hmember {α : Type} (key : String) (toJson : α → Json) (value? : Option α) :
      Json.member key toJson value? = Keyed.present [(key, value?.map toJson)] := by
    cases value? <;> rfl
  have happend (m n : Keyed (Option Json)) :
      Keyed.present m ++ Keyed.present n = Keyed.present (m ++ n) := List.filterMap_append.symm
  rw [toJson]
  simp only [hmember, happend, Option.map_id]
  rfl

/-- The operators that are set make the expression. -/
theorem eq_of_written_eq {e e' : FilterExpression} (h : e.written = e'.written) : e = e' := by
  have hcode : Function.Injective fun t : ColumnType => Json.string t.code := by
    intro t u htu
    rw [← ColumnType.ofCode_code t, ← ColumnType.ofCode_code u, Json.string.inj htu]
  have harray : Function.Injective Json.array := fun _ _ => Json.array.inj
  have hstring : Function.Injective Json.string := fun _ _ => Json.string.inj
  have hbool : Function.Injective Json.bool := fun _ _ => Json.bool.inj
  simp only [written, List.cons.injEq, Prod.mk.injEq, true_and, and_true,
    (Option.map_injective hcode).eq_iff, (Option.map_injective harray).eq_iff,
    (Option.map_injective hstring).eq_iff, (Option.map_injective hbool).eq_iff] at h
  cases e
  cases e'
  simpa using h

/-! ## Reading one operator -/

/-- The change of one operator, as the text has it. -/
def Sets {α : Type} (key : String) (write : α → Option Json)
    (set : α → FilterExpression → FilterExpression) : Prop :=
  ∀ a e, (set a e).written = Keyed.put e.written key (write a)

section Operators

variable {α : Type} {key : String} {v : Json} {e e' : FilterExpression}

theorem exists_of_read_operator {read : Wire → Except WireFault α}
    {set : α → FilterExpression → FilterExpression} {w : Wire}
    (h : (operator key read set).read w e = .ok e') : ∃ a, read w = .ok a ∧ e' = set a e := by
  have h : (read w).map (fun a => set a e) = .ok e' := h
  cases ha : read w with
  | error fault =>
    rw [ha] at h
    cases h
  | ok a =>
    rw [ha] at h
    cases h
    exact ⟨a, rfl, rfl⟩

theorem eq_of_readString {s : String} (h : readString (ofJson v) = .ok s) : v = .string s := by
  cases v <;> cases h
  rfl

theorem eq_of_readBool {b : Bool} (h : readBool (ofJson v) = .ok b) : v = .bool b := by
  cases v <;> cases h
  rfl

theorem readList_readValue {vs : List Json} (h : ∀ v ∈ vs, v.HasDistinctKeys) :
    readList readValue (ofJson (.array vs)) = .ok vs := by
  have hread : readList readValue (ofJson (.array (vs.map id))) = .ok vs :=
    readList_ofItems fun v hv => readValue_ofJson (h v hv)
  rwa [List.map_id] at hread

theorem eq_of_readList_readValue (hv : v.HasDistinctKeys) {vs : List Json}
    (h : readList readValue (ofJson v) = .ok vs) : v = .array vs := by
  cases hv with
  | array hitems =>
    rw [readList_readValue hitems] at h
    cases h
    rfl
  | _ => cases h

theorem rewritten?_of_mem (h : key ∈ nullableNames) (v : Json) : rewritten? key v = some v := by
  unfold rewritten?
  rw [if_pos h]

/-- Null is read like any other value. -/
theorem written_of_read_value {set : Json → FilterExpression → FilterExpression}
    (hset : Sets key some set) (hkey : key ∈ nullableNames) (hv : v.HasDistinctKeys)
    (h : (operator key readValue set).read (ofJson v) e = .ok e') :
    e'.written = Keyed.put e.written key (rewritten? key v) := by
  obtain ⟨a, ha, rfl⟩ := exists_of_read_operator h
  rw [readValue_ofJson hv] at ha
  cases ha
  rw [hset, rewritten?_of_mem hkey]

/-- Null leaves the operator out. -/
theorem written_of_read_optional {read : Wire → Except WireFault α} {write : α → Json}
    {set : Option α → FilterExpression → FilterExpression}
    (hset : Sets key (Option.map write) set) (hkey : key ∉ nullableNames)
    (hread : ∀ a, read (ofJson v) = .ok a → rewritten? key v = some (write a))
    (h : (operator key (readOptional read) set).read (ofJson v) e = .ok e') :
    e'.written = Keyed.put e.written key (rewritten? key v) := by
  obtain ⟨a?, ha, rfl⟩ := exists_of_read_operator h
  rw [hset]
  by_cases hnull : v = .null
  · subst hnull
    cases ha
    rw [rewritten?, if_neg hkey]
    rfl
  · rw [readOptional_ofJson hnull] at ha
    cases hr : read (ofJson v) with
    | error fault =>
      rw [hr] at ha
      cases ha
    | ok a =>
      rw [hr] at ha
      cases ha
      rw [hread a hr]
      rfl

theorem rewritten?_string (hkey : key ∉ nullableNames) (htype : key ≠ "type") {s : String}
    (h : readString (ofJson v) = .ok s) : rewritten? key v = some (.string s) := by
  obtain rfl := eq_of_readString h
  rw [rewritten?, if_neg hkey, if_neg htype]

theorem rewritten?_bool (hkey : key ∉ nullableNames) {b : Bool}
    (h : readBool (ofJson v) = .ok b) : rewritten? key v = some (.bool b) := by
  obtain rfl := eq_of_readBool h
  unfold rewritten?
  rw [if_neg hkey]

theorem rewritten?_array (hkey : key ∉ nullableNames) (hv : v.HasDistinctKeys) {vs : List Json}
    (h : readList readValue (ofJson v) = .ok vs) : rewritten? key v = some (.array vs) := by
  obtain rfl := eq_of_readList_readValue hv h
  unfold rewritten?
  rw [if_neg hkey]

theorem rewritten?_type {s : String} (h : readString (ofJson v) = .ok s) :
    rewritten? "type" v = some (.string (ColumnType.ofCode s).code) := by
  obtain rfl := eq_of_readString h
  rw [rewritten?, if_neg (by decide)]
  rfl

end Operators

/-- Reading a member sets its operator to what the member is rewritten as, and no other. -/
theorem written_of_read {field : RecordField FilterExpression} (hfield : field ∈ form.fields)
    {v : Json} (hv : v.HasDistinctKeys) {e e' : FilterExpression}
    (h : field.read (ofJson v) e = .ok e') :
    e'.written = Keyed.put e.written field.name (rewritten? field.name v) := by
  simp only [form, List.mem_cons, List.not_mem_nil, or_false] at hfield
  rcases hfield with rfl | rfl | rfl | rfl | rfl | rfl | rfl | rfl | rfl | rfl | rfl | rfl | rfl |
    rfl | rfl
  · have hset : Sets "type" (Option.map fun s => .string (ColumnType.ofCode s).code)
        fun code e => { e with columnType? := code.map ColumnType.ofCode } := by
      intro code e
      cases code <;> rfl
    exact written_of_read_optional hset (by decide) (fun _ => rewritten?_type) h
  · exact written_of_read_value (fun _ _ => rfl) (by decide) hv h
  · exact written_of_read_value (fun _ _ => rfl) (by decide) hv h
  · exact written_of_read_optional (fun _ _ => rfl) (by decide)
      (fun _ => rewritten?_array (by decide) hv) h
  · exact written_of_read_optional (fun _ _ => rfl) (by decide)
      (fun _ => rewritten?_array (by decide) hv) h
  · exact written_of_read_value (fun _ _ => rfl) (by decide) hv h
  · exact written_of_read_value (fun _ _ => rfl) (by decide) hv h
  · exact written_of_read_value (fun _ _ => rfl) (by decide) hv h
  · exact written_of_read_value (fun _ _ => rfl) (by decide) hv h
  · exact written_of_read_optional (fun _ _ => rfl) (by decide)
      (fun _ => rewritten?_string (by decide) (by decide)) h
  · exact written_of_read_optional (fun _ _ => rfl) (by decide)
      (fun _ => rewritten?_string (by decide) (by decide)) h
  · exact written_of_read_optional (fun _ _ => rfl) (by decide)
      (fun _ => rewritten?_bool (by decide)) h
  · exact written_of_read_optional (fun _ _ => rfl) (by decide)
      (fun _ => rewritten?_bool (by decide)) h
  · exact written_of_read_optional (fun _ _ => rfl) (by decide)
      (fun _ => rewritten?_bool (by decide)) h
  · exact written_of_read_optional (fun _ _ => rfl) (by decide)
      (fun _ => rewritten?_bool (by decide)) h

/-! ## Reading what was written -/

/-- The member is read into its operator and written again as it is. -/
structure IsKept (key : String) (v : Json) : Prop where
  distinct : v.HasDistinctKeys
  rewritten : rewritten? key v = some v
  read : ∃ field, form.field? key = some field ∧
    ∀ e, ∃ e', field.read (ofJson v) e = .ok e'

section Kept

variable {α : Type} {key : String} {v : Json}

theorem isKept_value {set : Json → FilterExpression → FilterExpression}
    (hfield : form.field? key = some (operator key readValue set)) (hkey : key ∈ nullableNames)
    (hv : v.HasDistinctKeys) : IsKept key v := by
  refine ⟨hv, rewritten?_of_mem hkey v, _, hfield, fun e => ⟨set v e, ?_⟩⟩
  show (readValue (ofJson v)).map (fun a => set a e) = _
  rw [readValue_ofJson hv]
  rfl

theorem isKept_optional {read : Wire → Except WireFault α}
    {set : Option α → FilterExpression → FilterExpression}
    (hfield : form.field? key = some (operator key (readOptional read) set))
    (hv : v.HasDistinctKeys) (hne : v ≠ .null) {a : α} (hread : read (ofJson v) = .ok a)
    (hrewritten : rewritten? key v = some v) : IsKept key v := by
  refine ⟨hv, hrewritten, _, hfield, fun e => ⟨set (some a) e, ?_⟩⟩
  show (readOptional read (ofJson v)).map (fun a => set a e) = _
  rw [readOptional_ofJson hne, hread]
  rfl

end Kept

/-- Whatever an expression is written as is kept. -/
theorem isKept_of_mem_written {e : FilterExpression} (he : ∀ v ∈ e.operands, v.HasDistinctKeys)
    {key : String} {v : Json} (hmem : (key, some v) ∈ e.written) : IsKept key v := by
  have value (name : String) (hname : name ∈ nullableNames)
      {set : Json → FilterExpression → FilterExpression}
      (hfield : form.field? name = some (operator name readValue set)) (hv : v ∈ e.operands) :
      IsKept name v := isKept_value hfield hname (he v hv)
  have array (name : String) (hname : name ∉ nullableNames)
      {set : Option (List Json) → FilterExpression → FilterExpression}
      (hfield : form.field? name =
        some (operator name (readOptional (readList readValue)) set))
      {vs : List Json} (hvs : ∀ v ∈ vs, v ∈ e.operands) : IsKept name (.array vs) := by
    have hdistinct : ∀ v ∈ vs, v.HasDistinctKeys := fun v hv => he v (hvs v hv)
    have hread := readList_readValue hdistinct
    exact isKept_optional hfield (.array hdistinct) nofun hread
      (rewritten?_array hname (.array hdistinct) hread)
  have string (name : String) (hname : name ∉ nullableNames) (htype : name ≠ "type")
      {set : Option String → FilterExpression → FilterExpression}
      (hfield : form.field? name = some (operator name (readOptional readString) set))
      (s : String) : IsKept name (.string s) :=
    isKept_optional hfield (.string s) nofun rfl (rewritten?_string hname htype rfl)
  have bool (name : String) (hname : name ∉ nullableNames)
      {set : Option Bool → FilterExpression → FilterExpression}
      (hfield : form.field? name = some (operator name (readOptional readBool) set))
      (b : Bool) : IsKept name (.bool b) :=
    isKept_optional hfield (.bool b) nofun rfl (rewritten?_bool hname rfl)
  simp only [written, List.mem_cons, List.not_mem_nil, or_false, Prod.mk.injEq] at hmem
  rcases hmem with ⟨rfl, h⟩ | ⟨rfl, h⟩ | ⟨rfl, h⟩ | ⟨rfl, h⟩ | ⟨rfl, h⟩ | ⟨rfl, h⟩ | ⟨rfl, h⟩ |
    ⟨rfl, h⟩ | ⟨rfl, h⟩ | ⟨rfl, h⟩ | ⟨rfl, h⟩ | ⟨rfl, h⟩ | ⟨rfl, h⟩ | ⟨rfl, h⟩ | ⟨rfl, h⟩
  · obtain ⟨t, -, rfl⟩ := Option.map_eq_some_iff.1 h.symm
    have hcode : rewritten? "type" (.string t.code) = some (.string t.code) := by
      rw [rewritten?_type rfl, ColumnType.ofCode_code]
    exact isKept_optional rfl (.string _) nofun rfl hcode
  · exact value _ (by decide) rfl (by simp [operands, ← h])
  · exact value _ (by decide) rfl (by simp [operands, ← h])
  · obtain ⟨vs, hvs, rfl⟩ := Option.map_eq_some_iff.1 h.symm
    exact array _ (by decide) rfl fun v hv => by simp [operands, hvs, hv]
  · obtain ⟨vs, hvs, rfl⟩ := Option.map_eq_some_iff.1 h.symm
    exact array _ (by decide) rfl fun v hv => by simp [operands, hvs, hv]
  · exact value _ (by decide) rfl (by simp [operands, ← h])
  · exact value _ (by decide) rfl (by simp [operands, ← h])
  · exact value _ (by decide) rfl (by simp [operands, ← h])
  · exact value _ (by decide) rfl (by simp [operands, ← h])
  · obtain ⟨s, -, rfl⟩ := Option.map_eq_some_iff.1 h.symm
    exact string _ (by decide) (by decide) rfl s
  · obtain ⟨s, -, rfl⟩ := Option.map_eq_some_iff.1 h.symm
    exact string _ (by decide) (by decide) rfl s
  · obtain ⟨b, -, rfl⟩ := Option.map_eq_some_iff.1 h.symm
    exact bool _ (by decide) rfl b
  · obtain ⟨b, -, rfl⟩ := Option.map_eq_some_iff.1 h.symm
    exact bool _ (by decide) rfl b
  · obtain ⟨b, -, rfl⟩ := Option.map_eq_some_iff.1 h.symm
    exact bool _ (by decide) rfl b
  · obtain ⟨b, -, rfl⟩ := Option.map_eq_some_iff.1 h.symm
    exact bool _ (by decide) rfl b

/-! ## Round trips -/

theorem ofWire_object_iff {ms : List (String × Json)} {e : FilterExpression} :
    ofWire (ofJson (.object ms)) = .ok e ↔
      ∃ seen, form.readMembers (ofMembers ms) [] {} = .ok (seen, e) := by
  constructor
  · exact RecordForm.exists_readMembers_of_read
  · rintro ⟨seen, hmembers⟩
    exact RecordForm.read_of_readMembers (by decide) hmembers

theorem eq_none_of_get?_written_empty {key : String} {value? : Option Json}
    (h : Keyed.get? (written {}) key = some value?) : value? = none := by
  have hmem : (key, value?) ∈ written {} := Keyed.mem_of_get?_eq_some h
  have hnone : ∀ m ∈ written {}, m.2 = none := by simp [written]
  exact hnone _ hmem

/-- Up to order, an object that is read as an expression says what this is written as. -/
theorem get?_written_of_ofWire {ms : List (String × Json)} {e : FilterExpression}
    (hms : ∀ m ∈ ms, m.2.HasDistinctKeys) (h : ofWire (ofJson (.object ms)) = .ok e)
    (key : String) : Keyed.get? e.written key =
      ((Keyed.get? ms key).map (rewritten? key)).or (Keyed.get? (written {}) key) := by
  obtain ⟨seen, hread⟩ := ofWire_object_iff.1 h
  have hfields : ∀ field ∈ form.fields, ∀ m ∈ ms, ∀ e e', field.read (ofJson m.2) e = .ok e' →
      e'.written = Keyed.put e.written field.name (rewritten? field.name m.2) :=
    fun field hfield m hm e e' => written_of_read hfield (hms m hm)
  exact RecordForm.get?_of_readMembers rfl hfields hread key

/-- An expression is what its members are rewritten as, where it is not empty. -/
theorem get?_rewritten_or_empty {e : FilterExpression} (he : ∀ v ∈ e.operands, v.HasDistinctKeys)
    (key : String) :
    ((Keyed.get? (Keyed.present e.written) key).map (rewritten? key)).or
      (Keyed.get? (written {}) key) = Keyed.get? e.written key := by
  rw [Keyed.get?_present (nodup_keys_written e)]
  cases hvalue : Keyed.get? e.written key with
  | none => exact get?_written_eq_none_iff.2 (get?_written_eq_none_iff.1 hvalue)
  | some value? =>
    cases value? with
    | none =>
      show Keyed.get? (written {}) key = some none
      cases hempty : Keyed.get? (written {}) key with
      | none =>
        have hnone : Keyed.get? e.written key = none :=
          get?_written_eq_none_iff.2 (get?_written_eq_none_iff.1 hempty)
        rw [hvalue] at hnone
        cases hnone
      | some value? => rw [eq_none_of_get?_written_empty hempty]
    | some v =>
      have hv : IsKept key v := isKept_of_mem_written he (Keyed.mem_of_get?_eq_some hvalue)
      show some (rewritten? key v) = some (some v)
      rw [hv.rewritten]

/-- An expression is read back from its wire form. -/
theorem ofWire_toJson {e : FilterExpression} (he : ∀ v ∈ e.operands, v.HasDistinctKeys) :
    ofWire (ofJson e.toJson) = .ok e := by
  have hkept (m : String × Json) (hm : m ∈ Keyed.present e.written) : IsKept m.1 m.2 := by
    obtain ⟨value?, hmem, rfl⟩ := Keyed.mem_filterMapValues.1 hm
    exact isKept_of_mem_written he hmem
  have hnodup : (Keyed.keys (Keyed.present e.written)).Nodup :=
    (Keyed.keys_filterMapValues_sublist _ _).nodup (nodup_keys_written e)
  obtain ⟨⟨seen, e'⟩, hmembers⟩ : ∃ out,
      form.readMembers (ofMembers (Keyed.present e.written)) [] {} = .ok out :=
    RecordForm.exists_readMembers hnodup (by simp) fun m hm => (hkept m hm).read
  have hread : ofWire (ofJson (.object (Keyed.present e.written))) = .ok e' :=
    ofWire_object_iff.2 ⟨seen, hmembers⟩
  have hwritten : e'.written = e.written := by
    refine Keyed.eq_of_get?_eq rfl (nodup_keys_written e') fun key => ?_
    rw [get?_written_of_ofWire (fun m hm => (hkept m hm).distinct) hread,
      get?_rewritten_or_empty he]
  rw [toJson_eq, hread, eq_of_written_eq hwritten]

/-- What was read from an object is written as this object, up to order, each member as it is
rewritten. -/
theorem perm_of_ofWire {ms : List (String × Json)} {e : FilterExpression}
    (hms : (Json.object ms).HasDistinctKeys) (h : ofWire (ofJson (.object ms)) = .ok e) :
    (Keyed.present e.written).Perm (Keyed.filterMapValues rewritten? ms) := by
  obtain ⟨hnodup, hdistinct⟩ : (Keyed.keys ms).Nodup ∧ ∀ m ∈ ms, m.2.HasDistinctKeys := by
    cases hms with
    | object nodup values_distinct => exact ⟨nodup, values_distinct⟩
  refine Keyed.perm_of_get?_eq
    ((Keyed.keys_filterMapValues_sublist _ _).nodup (nodup_keys_written e))
    ((Keyed.keys_filterMapValues_sublist _ _).nodup hnodup) fun key => ?_
  rw [Keyed.get?_present (nodup_keys_written e), Keyed.get?_filterMapValues _ hnodup,
    get?_written_of_ofWire hdistinct h]
  cases Keyed.get? ms key with
  | some v => rfl
  | none =>
    show (Keyed.get? (written {}) key).join = none
    cases hempty : Keyed.get? (written {}) key with
    | none => rfl
    | some value? => rw [eq_none_of_get?_written_empty hempty]; rfl

/-! ## Unknown keys -/

/-- The value is an object with a key of no operator. -/
inductive HasUnknownKey : Wire → Prop
  | mk {key : String} {w : Wire} {members : List (Option String × Wire)} {closed : Bool}
      (mem : (some key, w) ∈ members) (unknown : key ∉ operatorNames) :
      HasUnknownKey (.object members closed)

/-- What is not an operator is refused, whatever else there is. -/
theorem ofWire_ne_ok_of_hasUnknownKey {w : Wire} (h : HasUnknownKey w) (e : FilterExpression) :
    ofWire w ≠ .ok e := by
  obtain ⟨hmem, hunknown⟩ := h
  intro hread
  obtain ⟨seen, hmembers⟩ := RecordForm.exists_readMembers_of_read hread
  have hfield := (RecordForm.exists_read_of_mem hmembers hmem).1 rfl
  exact hunknown (RecordForm.field?_isSome_iff.1 hfield)

end FilterExpression

end ListingQuery
