import ListingQuery.Proofs.Filter.WireForm
import ListingQuery.Query.Description

/-!
# The wire form of queries

A description is read back from its wire form, its sort keys and filters in the same order. So is an
expression; and what was read as an expression is written as the object it was read from, up to order,
without the nulls that say nothing and with the code of its type      (queries_round_trip).
-/

namespace ListingQuery

open Wire

namespace Direction

theorem ofWire_code (direction : Direction) :
    ofWire (ofJson (.string direction.code)) = .ok direction := by
  cases direction <;> rfl

end Direction

namespace QueryDescription

/-- The numbers fit their types, no key comes twice, and the operands are JSON values. -/
structure Fits (d : QueryDescription) : Prop where
  draw : ∀ n, d.draw? = some n → isUInt64 n = true
  offset : isUInt64 d.offset = true
  limit : isInt64 d.limit = true
  orderBy : (Keyed.keys d.orderBy).Nodup
  filters : (Keyed.keys d.filters).Nodup
  operands : ∀ entry ∈ d.filters, ∀ v ∈ entry.2.operands, v.HasDistinctKeys

/-- The members that are written always. -/
def fixedMembers (d : QueryDescription) : List (String × Json) := [
  ("offset", .ofNat d.offset), ("limit", .ofInt d.limit),
  ("order_by", .object (Keyed.mapValues (fun direction => .string direction.code) d.orderBy)),
  ("where", .object (Keyed.mapValues FilterExpression.toJson d.filters))]

/-! ## Descriptions -/

section Members

variable {d : QueryDescription} (h : d.Fits)
include h

theorem readsInto_draw {n : Nat} (hn : d.draw? = some n) :
    form.ReadsInto "draw" (.ofNat n) fun r => { r with draw? := d.draw? } := by
  refine ⟨_, rfl, fun r => ?_⟩
  have hne : Json.ofNat n ≠ .null := nofun
  simp only [readOptional_ofJson hne, readNat_ofNat (h.draw n hn), hn]
  rfl

theorem readsInto_offset :
    form.ReadsInto "offset" (.ofNat d.offset) fun r => { r with offset := d.offset } := by
  refine ⟨_, rfl, fun r => ?_⟩
  simp only [readNat_ofNat h.offset]
  rfl

theorem readsInto_limit :
    form.ReadsInto "limit" (.ofInt d.limit) fun r => { r with limit := d.limit } := by
  refine ⟨_, rfl, fun r => ?_⟩
  simp only [readInt_ofInt h.limit]
  rfl

theorem readsInto_orderBy :
    form.ReadsInto "order_by"
      (.object (Keyed.mapValues (fun direction => .string direction.code) d.orderBy))
      fun r => { r with orderBy := d.orderBy } := by
  refine ⟨_, rfl, fun r => ?_⟩
  have hread : readKeyed Direction.ofWire (ofJson (.object
      (Keyed.mapValues (fun direction => .string direction.code) d.orderBy))) = .ok d.orderBy :=
    readKeyed_ofMembers (fun entry _ => Direction.ofWire_code entry.2) h.orderBy
  simp only [hread]
  rfl

theorem readsInto_where :
    form.ReadsInto "where" (.object (Keyed.mapValues FilterExpression.toJson d.filters))
      fun r => { r with filters := d.filters } := by
  refine ⟨_, rfl, fun r => ?_⟩
  have hread : readKeyed FilterExpression.ofWire (ofJson (.object
      (Keyed.mapValues FilterExpression.toJson d.filters))) = .ok d.filters :=
    readKeyed_ofMembers
      (fun entry hentry => FilterExpression.ofWire_toJson (h.operands entry hentry)) h.filters
  simp only [hread]
  rfl

omit h in
theorem readsInto_search {s : String} (hs : d.search? = some s) :
    form.ReadsInto "search" (.string s) fun r => { r with search? := d.search? } :=
  ⟨_, rfl, fun _ => by rw [hs]; rfl⟩

/-- The members that are always there are read after what was seen before. -/
theorem readMembers_fixedMembers {seen : List String} (hseen : seen ⊆ ["draw"])
    (ms : List (String × Json)) (r : QueryDescription) :
    form.readMembers (ofMembers (d.fixedMembers ++ ms)) seen r =
      form.readMembers (ofMembers ms) ("where" :: "order_by" :: "limit" :: "offset" :: seen)
        { d with draw? := r.draw?, search? := r.search? } := by
  have hnew {key : String} (hkey : key ≠ "draw") : key ∉ seen :=
    fun hmem => hkey (List.mem_singleton.1 (hseen hmem))
  simp only [fixedMembers, List.cons_append, List.nil_append]
  rw [(readsInto_offset h).readMembers_cons (hnew (by decide)),
    (readsInto_limit h).readMembers_cons (by simp [hnew]),
    (readsInto_orderBy h).readMembers_cons (by simp [hnew]),
    (readsInto_where h).readMembers_cons (by simp [hnew])]

/-- A description is read back from its wire form. -/
theorem ofWire_toJson : ofWire (ofJson d.toJson) = .ok d := by
  obtain ⟨seen, hseen, hdraw⟩ := RecordForm.readMembers_member (r := {})
    (fun n hn => readsInto_draw h hn) (fun hn => by rw [hn]) List.not_mem_nil
    (d.fixedMembers ++ (Json.member "search" .string d.search? ++ []))
  have hsearch : "search" ∉ "where" :: "order_by" :: "limit" :: "offset" :: seen := by
    have hnew : "search" ∉ seen := fun hmem => absurd (hseen hmem) (by decide)
    simp [hnew]
  obtain ⟨seen', -, hlast⟩ := RecordForm.readMembers_member (r := { d with search? := none })
    (fun s hs => readsInto_search hs) (fun hs => by rw [hs]) hsearch []
  have hmembers : d.toJson = .object (Json.member "draw" .ofNat d.draw? ++
      (d.fixedMembers ++ (Json.member "search" .string d.search? ++ []))) := by
    rw [toJson, List.append_nil, List.append_assoc]
    rfl
  have hread : form.readMembers (ofMembers (Json.member "draw" .ofNat d.draw? ++
      (d.fixedMembers ++ (Json.member "search" .string d.search? ++ [])))) [] {} =
        .ok (seen', d) := by
    rw [hdraw, readMembers_fixedMembers h hseen, hlast]
    rfl
  rw [hmembers]
  exact RecordForm.read_of_readMembers (by decide) hread

end Members

/-- Among the filters of a description, none has a key of no operator. -/
theorem ofWire_ne_ok_of_hasUnknownKey {fields entries : List (Option String × Wire)}
    {closed closed' : Bool} (hfilters : (some "where", .object entries closed') ∈ fields)
    {path? : Option String} {w : Wire} (hentry : (path?, w) ∈ entries)
    (hw : FilterExpression.HasUnknownKey w) (d : QueryDescription) :
    ofWire (.object fields closed) ≠ .ok d := by
  intro hread
  obtain ⟨seen, hmembers⟩ := RecordForm.exists_readMembers_of_read hread
  obtain ⟨r, r', hfield⟩ := (RecordForm.exists_read_of_mem hmembers hfilters).2 _ rfl
  have hfield : (readKeyed FilterExpression.ofWire (.object entries closed')).map
      (fun m => { r with filters := m }) = .ok r' := hfield
  rw [readKeyed] at hfield
  cases hentries : readEntries FilterExpression.ofWire entries [] with
  | error fault =>
    rw [hentries] at hfield
    cases hfield
  | ok m =>
    obtain ⟨e, he⟩ := exists_of_readEntries hentries hentry
    exact FilterExpression.ofWire_ne_ok_of_hasUnknownKey hw e he

end QueryDescription

/-! ## Queries -/

/-- Expressions and descriptions are read back from their wire form.  An object that is read as an
expression is its wire form, up to order, with every member rewritten, and has no other keys than
those of operators, alone or among the filters of a description. -/
theorem queries_round_trip :
    (∀ e : FilterExpression, (∀ v ∈ e.operands, v.HasDistinctKeys) →
      FilterExpression.ofWire (ofJson e.toJson) = .ok e) ∧
    (∀ d : QueryDescription, d.Fits → QueryDescription.ofWire (ofJson d.toJson) = .ok d) ∧
    (∀ (ms : List (String × Json)) (e : FilterExpression), (Json.object ms).HasDistinctKeys →
      FilterExpression.ofWire (ofJson (.object ms)) = .ok e →
        ∃ written, e.toJson = .object written ∧
          written.Perm (Keyed.filterMapValues FilterExpression.rewritten? ms)) ∧
    ∀ w, FilterExpression.HasUnknownKey w →
      (∀ e, FilterExpression.ofWire w ≠ .ok e) ∧
      ∀ fields closed entries closed' path?, (some "where", .object entries closed') ∈ fields →
        (path?, w) ∈ entries → ∀ d, QueryDescription.ofWire (.object fields closed) ≠ .ok d := by
  refine ⟨fun _ => FilterExpression.ofWire_toJson, fun _ => QueryDescription.ofWire_toJson, ?_, ?_⟩
  · intro ms e hms hread
    exact ⟨_, e.toJson_eq, FilterExpression.perm_of_ofWire hms hread⟩
  · intro w hw
    refine ⟨FilterExpression.ofWire_ne_ok_of_hasUnknownKey hw, ?_⟩
    intro fields closed entries closed' path? hfilters hentry
    exact QueryDescription.ofWire_ne_ok_of_hasUnknownKey hfilters hentry hw

/-- Orders that were not shipped, the latest first. -/
def unshippedQuery : QueryDescription where
  draw? := some 3
  limit := -1
  orderBy := [("created_at", .desc), ("id", .asc)]
  filters := [("shipped_at", { columnType? := some .date, eq? := some .null }),
    ("status", { among? := some [.string "paid", .null] })]

theorem unshippedQuery_round_trip :
    QueryDescription.ofWire (ofJson unshippedQuery.toJson) = .ok unshippedQuery ∧
    FilterExpression.ofWire (ofJson (FilterExpression.toJson { eq? := some .null })) =
      .ok { eq? := some .null } ∧
    (∃ e written, FilterExpression.ofWire (ofJson (.object [("lt", .null), ("like", .null),
        ("type", .string " Integer ")])) = .ok e ∧ e.toJson = .object written ∧
      written.Perm [("lt", .null), ("type", .string "integer")]) ∧
    (∀ e, FilterExpression.ofWire (.object [(some "between", .null)] true) ≠ .ok e) ∧
    ∀ d, QueryDescription.ofWire (.object [(some "where", .object [(some "total",
      .object [(some "between", .null)] true)] true)] true) ≠ .ok d := by
  obtain ⟨hexpression, hdescription, hobject, hunknown⟩ := queries_round_trip
  have hbetween : FilterExpression.HasUnknownKey (.object [(some "between", .null)] true) :=
    .mk List.mem_cons_self (by decide)
  refine ⟨hdescription _ ?_, hexpression _ ?_, ?_, (hunknown _ hbetween).1,
    (hunknown _ hbetween).2 _ _ _ _ _ List.mem_cons_self List.mem_cons_self⟩
  · refine ⟨?_, by decide, by decide, by decide, by decide, ?_⟩
    · rintro n ⟨⟩
      decide
    · simp [unshippedQuery, FilterExpression.operands, Json.HasDistinctKeys.null,
        Json.HasDistinctKeys.string]
  · simp [FilterExpression.operands, Json.HasDistinctKeys.null]
  · obtain ⟨e, he⟩ : ∃ e, FilterExpression.ofWire (ofJson (.object [("lt", .null),
        ("like", .null), ("type", .string " Integer ")])) = .ok e := ⟨_, rfl⟩
    have hdistinct : (Json.object [("lt", .null), ("like", .null),
        ("type", .string " Integer ")]).HasDistinctKeys :=
      .object (by decide) (by simp [Json.HasDistinctKeys.null, Json.HasDistinctKeys.string])
    obtain ⟨written, hjson, hperm⟩ := hobject _ e hdistinct he
    exact ⟨e, written, he, hjson, hperm⟩

end ListingQuery
