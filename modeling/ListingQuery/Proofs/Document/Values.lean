import ListingQuery.Document.Values
import ListingQuery.Keyed

/-!
# Values at a path, as a relation

A value lies at a path if the path leads to it, member by member, through any element of an array on
the way.  This is what the values at a path are, and one path after another is the two joined:

    v ∈ d.valuesAt path ↔ d.LiesAt path v               (mem_valuesAt_iff)
    d.LiesAt (p ++ q) v ↔ ∃ u, d.LiesAt p u ∧ u.LiesAt q v            (liesAt_append_iff)
-/

namespace ListingQuery

/-- Induction on items and members. -/
theorem jsonInduction {motive : Json → Prop} (null : motive .null) (bool : ∀ b, motive (.bool b))
    (number : ∀ n, motive (.number n)) (string : ∀ s, motive (.string s))
    (array : ∀ items, (∀ v ∈ items, motive v) → motive (.array items))
    (object : ∀ members, (∀ m ∈ members, motive m.2) → motive (.object members)) : ∀ v, motive v :=
  @Json.rec motive (fun items => ∀ v ∈ items, motive v)
    (fun members => ∀ m ∈ members, motive m.2) (fun m => motive m.2)
    null bool number string array object (by simp)
    (fun _ _ hv hvs => List.forall_mem_cons.2 ⟨hv, hvs⟩) (by simp)
    (fun _ _ hm hms => List.forall_mem_cons.2 ⟨hm, hms⟩) (fun _ _ hv => hv)

theorem json_valuesAt_nil (v : Json) : v.valuesAt [] = [v] := by
  cases v <;> rfl

namespace Json

/-- The path leads from the first value to the second. -/
inductive LiesAt : Json → FieldPath → Json → Prop
  | here (v : Json) : LiesAt v [] v
  | member {members : List (String × Json)} {key : String} {rest : FieldPath} {u v : Json}
      (lookup : Keyed.get? members key = some u) (below : LiesAt u rest v) :
      LiesAt (.object members) (key :: rest) v
  | item {items : List Json} {key : String} {rest : FieldPath} {u v : Json} (mem : u ∈ items)
      (below : LiesAt u (key :: rest) v) : LiesAt (.array items) (key :: rest) v

/-! ## One step -/

theorem liesAt_nil_iff {d v : Json} : d.LiesAt [] v ↔ v = d := by
  constructor
  · rintro ⟨⟩
    rfl
  · rintro rfl
    exact .here v

theorem liesAt_object_iff {members : List (String × Json)} {key : String} {rest : FieldPath}
    {v : Json} : LiesAt (.object members) (key :: rest) v ↔
      ∃ u, Keyed.get? members key = some u ∧ u.LiesAt rest v := by
  constructor
  · rintro (_ | ⟨lookup, below⟩)
    exact ⟨_, lookup, below⟩
  · rintro ⟨u, lookup, below⟩
    exact .member lookup below

theorem liesAt_array_iff {items : List Json} {key : String} {rest : FieldPath} {v : Json} :
    LiesAt (.array items) (key :: rest) v ↔ ∃ u ∈ items, u.LiesAt (key :: rest) v := by
  constructor
  · rintro (_ | _ | ⟨mem, below⟩)
    exact ⟨_, mem, below⟩
  · rintro ⟨u, mem, below⟩
    exact .item mem below

/-! ## Values -/

theorem valuesAtEach_eq_flatMap (items : List Json) (path : FieldPath) :
    valuesAtEach items path = items.flatMap fun v => v.valuesAt path := by
  induction items with
  | nil => rfl
  | cons v items ih => rw [valuesAtEach, ih, List.flatMap_cons]

theorem mem_valuesAtKey_iff {members : List (String × Json)} {key : String} {rest : FieldPath}
    {v : Json} : v ∈ valuesAtKey members key rest ↔
      ∃ u, Keyed.get? members key = some u ∧ v ∈ u.valuesAt rest := by
  induction members with
  | nil => simp [valuesAtKey]
  | cons m members ih =>
    obtain ⟨k, u⟩ := m
    rw [valuesAtKey, Keyed.get?]
    split
    · simp
    · exact ih

theorem mem_valuesAt_iff (d : Json) :
    ∀ {path : FieldPath} {v : Json}, v ∈ d.valuesAt path ↔ d.LiesAt path v := by
  induction d using jsonInduction with
  | null | bool | number | string =>
    intro path v
    cases path with
    | nil => rw [json_valuesAt_nil, List.mem_singleton, liesAt_nil_iff]
    | cons key rest => exact ⟨nofun, nofun⟩
  | array items ih =>
    intro path v
    cases path with
    | nil => rw [json_valuesAt_nil, List.mem_singleton, liesAt_nil_iff]
    | cons key rest =>
      show v ∈ valuesAtEach items (key :: rest) ↔ _
      rw [valuesAtEach_eq_flatMap, List.mem_flatMap, liesAt_array_iff]
      exact exists_congr fun u => and_congr_right fun hu => ih u hu
  | object members ih =>
    intro path v
    cases path with
    | nil => rw [json_valuesAt_nil, List.mem_singleton, liesAt_nil_iff]
    | cons key rest =>
      rw [valuesAt, mem_valuesAtKey_iff, liesAt_object_iff]
      exact exists_congr fun u => and_congr_right fun hu => ih _ (Keyed.mem_of_get?_eq_some hu)

/-! ## Joined paths -/

theorem LiesAt.append {d u v : Json} {p q : FieldPath} (h : d.LiesAt p u) (h' : u.LiesAt q v) :
    d.LiesAt (p ++ q) v := by
  induction h with
  | here => exact h'
  | member lookup _ ih => exact .member lookup (ih h')
  | item mem _ ih => exact .item mem (ih h')

theorem LiesAt.exists_between {d v : Json} {path : FieldPath} (h : d.LiesAt path v) :
    ∀ {p q : FieldPath}, path = p ++ q → ∃ u, d.LiesAt p u ∧ u.LiesAt q v := by
  induction h with
  | here v =>
    intro p q hpath
    obtain ⟨rfl, rfl⟩ := List.nil_eq_append_iff.1 hpath
    exact ⟨v, .here v, .here v⟩
  | @member members key rest w v lookup below ih =>
    intro p q hpath
    cases p with
    | nil =>
      obtain rfl : key :: rest = q := hpath
      exact ⟨_, .here _, .member lookup below⟩
    | cons key' p =>
      obtain ⟨rfl, hrest⟩ := List.cons_eq_cons.1 hpath
      obtain ⟨u, hu, hv⟩ := ih hrest
      exact ⟨u, .member lookup hu, hv⟩
  | @item items key rest w v mem below ih =>
    intro p q hpath
    cases p with
    | nil =>
      obtain rfl : key :: rest = q := hpath
      exact ⟨_, .here _, .item mem below⟩
    | cons key' p =>
      obtain ⟨u, hu, hv⟩ := ih hpath
      exact ⟨u, .item mem hu, hv⟩

theorem liesAt_append_iff {d v : Json} {p q : FieldPath} :
    d.LiesAt (p ++ q) v ↔ ∃ u, d.LiesAt p u ∧ u.LiesAt q v :=
  ⟨fun h => h.exists_between rfl, fun ⟨_, h, h'⟩ => h.append h'⟩

/-- A path that goes on goes on in the elements of a value. -/
theorem liesAt_iff_exists_element {d v : Json} {path : FieldPath} (hne : path ≠ []) :
    d.LiesAt path v ↔ ∃ e ∈ d.elements, e.LiesAt path v := by
  obtain ⟨key, rest, rfl⟩ := List.exists_cons_of_ne_nil hne
  cases d with
  | array items => exact liesAt_array_iff
  | _ => exact ⟨fun h => ⟨_, List.mem_singleton_self _, h⟩, fun ⟨e, he, h⟩ =>
      List.mem_singleton.1 he ▸ h⟩

theorem mem_elementsAt_iff {d e : Json} {path : FieldPath} :
    e ∈ d.elementsAt path ↔ ∃ v, d.LiesAt path v ∧ e ∈ v.elements := by
  rw [elementsAt, List.mem_flatMap]
  exact exists_congr fun v => and_congr_left fun _ => mem_valuesAt_iff d

/-- What lies behind the elements at a path is what lies at the joined path. -/
theorem liesAt_append_iff_exists_element {d v : Json} {p q : FieldPath} (hne : q ≠ []) :
    d.LiesAt (p ++ q) v ↔ ∃ e ∈ d.elementsAt p, e.LiesAt q v := by
  rw [liesAt_append_iff]
  constructor
  · rintro ⟨u, hu, hv⟩
    obtain ⟨e, he, hv⟩ := (liesAt_iff_exists_element hne).1 hv
    exact ⟨e, mem_elementsAt_iff.2 ⟨u, hu, he⟩, hv⟩
  · rintro ⟨e, he, hv⟩
    obtain ⟨u, hu, he⟩ := mem_elementsAt_iff.1 he
    exact ⟨u, hu, (liesAt_iff_exists_element hne).2 ⟨e, he, hv⟩⟩

end Json

end ListingQuery
