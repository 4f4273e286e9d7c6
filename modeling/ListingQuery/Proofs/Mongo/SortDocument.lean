import Mathlib.Data.List.Find
import ListingQuery.Proofs.Document.FirstDifference
import ListingQuery.Proofs.Keyed
import ListingQuery.Proofs.Mongo.Addressing
import ListingQuery.Proofs.Query.FirstFault

/-!
# Sort documents

A sort document has an entry for each stored key of the sort fields, in the order in which they first
come, with the sign of the last direction.  Read as sort keys, it orders documents as the list that it
was made of exactly if every field is read back from its key and the last key on a field has the
direction of the first:

    every query that was assembled                                    (sortDocument_orders_iff)

So a field that is named twice, by its name and by its alias, with two directions is ordered the
other way round.
-/

namespace ListingQuery.Mongo

open FieldPath (IsDotless ofDotted dotted ofDotted_dotted)
open Document

/-! ## Reading sort documents -/

/-- The field that a key of a sort document stands for. -/
def readField (key : String) : FieldPath := if key = "_id" then ["id"] else ofDotted key

/-- The direction that a value of a sort document stands for. -/
def readDirection? : Bson → Option Direction
  | .integer 1 => some .asc
  | .integer (-1) => some .desc
  | _ => none

/-- The sort keys that a sort document stands for. -/
def readSort? (d : Document) : Option (List SortKey) :=
  d.mapM fun e => (readDirection? e.2).map fun direction => ⟨readField e.1, direction⟩

/-- The field is read back from its key. -/
def IsReadable (field : FieldPath) : Prop := IsDotless field ∧ field ≠ ["_id"]

theorem readField_storedKey {field : FieldPath} (hne : field ≠ []) (h : IsReadable field) :
    readField (storedKey field) = field := by
  by_cases hid : field = ["id"]
  · subst hid
    rfl
  · have hkey : dotted field ≠ "_id" := by
      intro heq
      exact h.2 (FieldPath.eq_of_dotted_eq (by decide) (by decide) heq)
    rw [storedKey_of_ne hid, readField, if_neg hkey, ofDotted_dotted hne h.1]

/-- What keys are read as has neither dots nor the name of stored identifiers. -/
theorem isReadable_readField (key : String) : IsReadable (readField key) := by
  unfold readField
  split
  · refine ⟨?_, by decide⟩
    simp [IsDotless]
  · next hkey =>
    refine ⟨FieldPath.isDotless_ofDotted key, fun heq => hkey ?_⟩
    have hparts : Text.splitOn '.' key.toList = ["_id".toList] := by
      have hmap : (Text.splitOn '.' key.toList).map String.ofList = ["_id"] := heq
      obtain ⟨part, hpart, hid⟩ := List.map_eq_singleton_iff.1 hmap
      rw [hpart, ← hid, String.toList_ofList]
    have hchars := Text.intercalate_splitOn '.' key.toList
    rw [hparts, List.intercalate_singleton] at hchars
    exact (String.toList_inj.1 hchars).symm

/-! ## Reading back what was written -/

/-- The entries of a sort document, in the order in which they are written. -/
def sortEntries (sort : List SortKey) : List (String × Direction) :=
  sort.map fun key => (storedKey key.field, key.direction)

/-- The sort keys that a sort document of these keys stands for. -/
def readBack (sort : List SortKey) : List SortKey :=
  (Keyed.ofEntries (sortEntries sort)).map fun e => ⟨readField e.1, e.2⟩

/-- Every sort document is read as sort keys. -/
theorem readSort?_sortDocument (sort : List SortKey) :
    readSort? (sortDocument sort) = some (readBack sort) := by
  have hentries : sortDocument sort = Keyed.mapValues
      (fun direction => .integer (directionSign direction))
      (Keyed.ofEntries (sortEntries sort)) := by
    rw [← Keyed.ofEntries_mapValues, sortEntries, List.map_map]
    rfl
  have hdirection (direction : Direction) :
      readDirection? (.integer (directionSign direction)) = some direction := by
    cases direction <;> rfl
  rw [hentries, readBack]
  induction Keyed.ofEntries (sortEntries sort) with
  | nil => rfl
  | cons e m ih =>
    unfold Keyed.mapValues readSort? at ih ⊢
    rw [List.map_cons, List.mapM_cons, ih, hdirection]
    rfl

theorem isReadable_of_mem_readBack {sort : List SortKey} {key : SortKey}
    (h : key ∈ readBack sort) : IsReadable key.field := by
  obtain ⟨e, -, rfl⟩ := List.mem_map.1 h
  exact isReadable_readField e.1

section Readable

variable {sort : List SortKey} (hne : ∀ key ∈ sort, key.field ≠ [])
  (hreadable : ∀ key ∈ sort, IsReadable key.field)

include hne hreadable

theorem readField_of_mem {key : SortKey} (h : key ∈ sort) :
    readField (storedKey key.field) = key.field :=
  readField_storedKey (hne key h) (hreadable key h)

/-- The fields come in the order in which they first came. -/
theorem find?_readBack (p : FieldPath → Bool) :
    ((readBack sort).map SortKey.field).find? p = (sort.map SortKey.field).find? p := by
  have hread : (readBack sort).map SortKey.field =
      (Keyed.keys (Keyed.ofEntries (sortEntries sort))).map readField := by
    rw [readBack, Keyed.keys, List.map_map, List.map_map]
    rfl
  have hwritten : ((sortEntries sort).map Prod.fst).map readField = sort.map SortKey.field := by
    rw [sortEntries, List.map_map, List.map_map]
    exact List.map_congr_left fun key hkey => readField_of_mem hne hreadable hkey
  rw [hread, List.find?_map, Keyed.find?_keys_ofEntries, ← List.find?_map, hwritten]

/-- The fields that are read back are told apart by their keys. -/
theorem storedKey_beq {key other : SortKey} (hkey : key ∈ sort) (hother : other ∈ sort) :
    (storedKey other.field == storedKey key.field) = (other.field == key.field) := by
  by_cases heq : other.field = key.field
  · rw [heq, beq_self_eq_true, beq_self_eq_true]
  · have hstored : storedKey other.field ≠ storedKey key.field := by
      intro hstored
      apply heq
      rw [← readField_of_mem hne hreadable hother, hstored, readField_of_mem hne hreadable hkey]
    rw [beq_eq_false_iff_ne.2 heq, beq_eq_false_iff_ne.2 hstored]

/-- Each field has the direction that it had last. -/
theorem firstDirection?_readBack (field : FieldPath) :
    firstDirection? (readBack sort) field = lastDirection? sort field := by
  have hentry : ∀ e ∈ Keyed.ofEntries (sortEntries sort),
      ∃ key ∈ sort, e.1 = storedKey key.field := by
    intro e he
    obtain ⟨direction, hmem⟩ := Keyed.mem_keys_ofEntries_iff.1 (List.mem_map_of_mem he)
    obtain ⟨key, hkey, heq⟩ := List.mem_map.1 hmem
    exact ⟨key, hkey, (Prod.mk.inj heq).1.symm⟩
  by_cases hfield : ∃ key ∈ sort, key.field = field
  · obtain ⟨key, hkey, rfl⟩ := hfield
    have hget : firstDirection? (readBack sort) key.field =
        Keyed.get? (Keyed.ofEntries (sortEntries sort)) (storedKey key.field) := by
      rw [firstDirection?, readBack, List.find?_map, Option.map_map, Keyed.get?_eq_find?]
      refine congrArg (Option.map Prod.snd) (List.find?_congr fun e he => ?_)
      obtain ⟨other, hother, hkeyed⟩ := hentry e he
      show (readField e.1 == key.field) = (e.1 == storedKey key.field)
      rw [hkeyed, readField_of_mem hne hreadable hother, storedKey_beq hne hreadable hkey hother]
    have hlast : (sortEntries sort).reverse.find? (fun e => e.1 == storedKey key.field) =
        (sort.reverse.find? fun other => other.field == key.field).map
          fun other => (storedKey other.field, other.direction) := by
      rw [sortEntries, ← List.map_reverse, List.find?_map]
      refine congrArg (Option.map _) (List.find?_congr fun other hother => ?_)
      exact storedKey_beq hne hreadable hkey (List.mem_reverse.1 hother)
    rw [hget, Keyed.get?_ofEntries, hlast, Option.map_map, lastDirection?, firstDirection?]
    rfl
  · have hread : ∀ key ∈ readBack sort, key.field ≠ field := by
      rintro key hkey rfl
      obtain ⟨e, he, rfl⟩ := List.mem_map.1 hkey
      obtain ⟨other, hother, hkeyed⟩ := hentry e he
      refine hfield ⟨other, hother, ?_⟩
      rw [hkeyed, readField_of_mem hne hreadable hother]
    have hsort : ∀ key ∈ sort.reverse, key.field ≠ field :=
      fun key hkey heq => hfield ⟨key, List.mem_reverse.1 hkey, heq⟩
    rw [firstDirection?_eq_none_iff.2 hread, lastDirection?, firstDirection?_eq_none_iff.2 hsort]

end Readable

/-! ## Documents that differ at one field -/

/-- A number at a path. -/
def numbered (n : Int) (field : FieldPath) : Json := holding (.number (.int n)) field

theorem sortValue_numbered_self (n : Int) (field : FieldPath) :
    sortValue (numbered n field) field = .number (.int n) := by
  rw [sortValue, Json.elementsAt, numbered, valuesAt_holding_self]
  rfl

/-- At another field the numbers are not seen: it has null at most, or an object around the number. -/
theorem compareValues_numbered_of_ne (m n : Int) {field other : FieldPath} (h : field ≠ other) :
    compareValues (sortValue (numbered m field) other) (sortValue (numbered n field) other) =
      .eq := by
  induction field generalizing other with
  | nil =>
    obtain ⟨key, rest, rfl⟩ := List.exists_cons_of_ne_nil h.symm
    rfl
  | cons key rest ih =>
    cases other with
    | nil => rfl
    | cons key' rest' =>
      have hobject (k : Int) : sortValue (numbered k (key :: rest)) (key' :: rest') =
          if key = key' then sortValue (numbered k rest) rest' else .null := by
        by_cases hkey : key = key'
        · simp [sortValue, numbered, holding, Json.elementsAt, Json.valuesAt, Json.valuesAtKey,
            hkey]
        -- the path may lead to the other member, which is null like no value at all
        · by_cases hbeside : beside key = key' <;> cases rest' <;>
            simp [sortValue, numbered, holding, Json.elementsAt, Json.elements, Json.valuesAt,
              Json.valuesAtKey, hkey, hbeside]
      rw [hobject, hobject]
      by_cases hkey : key = key'
      · subst hkey
        rw [if_pos rfl, if_pos rfl]
        exact ih fun heq => h (heq ▸ rfl)
      · rw [if_neg hkey, if_neg hkey]
        rfl

/-- The first key on a field orders two numbers at it. -/
theorem compareBy_numbered (keys : List SortKey) (field : FieldPath) :
    compareBy keys (numbered 1 field) (numbered 2 field) =
      match firstDirection? keys field with
      | none => .eq
      | some direction => direction.orient .lt := by
  induction keys with
  | nil => rfl
  | cons key keys ih =>
    rw [compareBy, ih]
    by_cases h : field = key.field
    · subst h
      rw [firstDirection?_cons_self, sortValue_numbered_self, sortValue_numbered_self]
      show (key.direction.orient .lt).then _ = _
      cases key.direction <;> rfl
    · rw [compareValues_numbered_of_ne 1 2 h, firstDirection?_cons_of_ne (Ne.symm h)]
      cases key.direction <;> rfl

/-- Keys that order all documents alike give the same first direction to every field. -/
theorem firstDirection?_of_compareBy {keys keys' : List SortKey}
    (h : ∀ a b, compareBy keys a b = compareBy keys' a b) (field : FieldPath) :
    firstDirection? keys field = firstDirection? keys' field := by
  have hfield := h (numbered 1 field) (numbered 2 field)
  rw [compareBy_numbered, compareBy_numbered] at hfield
  cases hfirst : firstDirection? keys field with
  | none =>
    cases hfirst' : firstDirection? keys' field with
    | none => rfl
    | some direction =>
      rw [hfirst, hfirst'] at hfield
      cases direction <;> cases hfield
  | some direction =>
    cases hfirst' : firstDirection? keys' field with
    | none =>
      rw [hfirst, hfirst'] at hfield
      cases direction <;> cases hfield
    | some direction' =>
      rw [hfirst, hfirst'] at hfield
      cases direction <;> cases direction' <;> first | rfl | cases hfield

/-! ## Sorting alike -/

/-- What is read from a sort document orders documents as the keys that were written exactly if their
fields are read back and end in the direction that they began with. -/
theorem compareBy_readBack_iff {sort : List SortKey} (hne : ∀ key ∈ sort, key.field ≠ []) :
    (∀ a b, compareBy (readBack sort) a b = compareBy sort a b) ↔
      (∀ key ∈ sort, IsReadable key.field) ∧
        ∀ field, firstDirection? sort field = lastDirection? sort field := by
  constructor
  · intro h
    have hfirst := firstDirection?_of_compareBy h
    have hreadable : ∀ key ∈ sort, IsReadable key.field := by
      intro key hkey
      -- the field has a first direction here, so it has one in what is read
      have hsome : firstDirection? (readBack sort) key.field ≠ none := by
        rw [hfirst, Ne, firstDirection?_eq_none_iff]
        exact fun hall => hall key hkey rfl
      rw [Ne, firstDirection?_eq_none_iff] at hsome
      obtain ⟨read, hread, heq⟩ : ∃ read ∈ readBack sort, read.field = key.field := by
        simpa using hsome
      exact heq ▸ isReadable_of_mem_readBack hread
    refine ⟨hreadable, fun field => ?_⟩
    rw [← hfirst, firstDirection?_readBack hne hreadable]
  · rintro ⟨hreadable, hsame⟩
    refine compareBy_congr (find?_readBack hne hreadable) fun field => ?_
    rw [firstDirection?_readBack hne hreadable, hsame]

/-- The fields of assembled sort keys have names. -/
theorem ne_nil_of_mem_sort {schema : CollectionSchema} {d : QueryDescription} {maxPageSize : Nat}
    {q : AssembledQuery} (h : AssembledQuery.assemble schema d maxPageSize = .ok q) :
    ∀ key ∈ q.sort, key.field ≠ [] := by
  obtain ⟨page, t, sort, -, -, hsort, rfl⟩ := AssembledQuery.assemble_eq_ok_iff.1 h
  have hkeys := mapM_eq_ok_iff.1 hsort
  clear hsort h
  generalize d.orderBy = entries at hkeys
  induction hkeys with
  | nil => exact List.forall_mem_nil _
  | cons hentry _ ih =>
    obtain ⟨field, hfield, rfl⟩ := AssembledQuery.sortKey_eq_ok_iff.1 hentry
    have hsegments := (RecordShape.declares_of_resolve hfield).ne_nil
    exact List.forall_mem_cons.2 ⟨by simpa [ResolvedField.path] using hsegments, ih⟩

/-- The sort document of an assembled query is read as sort keys.  They order documents as the query
does exactly if no sort field has a dot in a segment or is stored under the name of identifiers, and
the first and the last key on a field have the same direction. -/
theorem sortDocument_orders_iff {schema : CollectionSchema} {d : QueryDescription}
    {maxPageSize : Nat} {q : AssembledQuery}
    (h : AssembledQuery.assemble schema d maxPageSize = .ok q) :
    ∃ keys, readSort? (sortDocument q.sort) = some keys ∧
      ((∀ a b, compareBy keys a b = compareBy q.sort a b) ↔
        (∀ key ∈ q.sort, IsDotless key.field ∧ key.field ≠ ["_id"]) ∧
          ∀ field, firstDirection? q.sort field = lastDirection? q.sort field) :=
  ⟨readBack q.sort, readSort?_sortDocument q.sort, compareBy_readBack_iff (ne_nil_of_mem_sort h)⟩

/-- Goods with a price, which goes on the wire under another name as well. -/
def goods : CollectionSchema :=
  ⟨"goods", ⟨"Good", [⟨"id", none, .scalar .i64⟩, ⟨"price", some "cost", .scalar .i64⟩]⟩, []⟩

/-- Goods ordered by price, then by identifier, then by price again. -/
def byPrice (first last : Direction) : QueryDescription where
  orderBy := [("price", first), ("id", .asc), ("cost", last)]

theorem byPrice_sorts_alike :
    ∃ q, AssembledQuery.assemble goods (byPrice .desc .desc) 10 = .ok q ∧
      sortDocument q.sort = [("price", .integer (-1)), ("_id", .integer 1)] ∧
      ∃ keys, readSort? (sortDocument q.sort) = some keys ∧
        ∀ a b, compareBy keys a b = compareBy q.sort a b := by
  have hq : AssembledQuery.assemble goods (byPrice .desc .desc) 10 =
      .ok ⟨.always, ⟨0, 10⟩, [⟨["price"], .desc⟩, ⟨["id"], .asc⟩, ⟨["price"], .desc⟩], none⟩ := rfl
  obtain ⟨keys, hkeys, hiff⟩ := sortDocument_orders_iff hq
  refine ⟨_, hq, rfl, keys, hkeys, hiff.2 ⟨by simp [IsDotless], fun field => ?_⟩⟩
  by_cases hprice : ["price"] = field <;> by_cases hid : ["id"] = field <;>
    simp [firstDirection?, lastDirection?, hprice, hid]

/-- A price that is named twice with two directions is sorted by the second. -/
theorem byPrice_sorts_backwards :
    ∃ q, AssembledQuery.assemble goods (byPrice .asc .desc) 10 = .ok q ∧
      sortDocument q.sort = [("price", .integer (-1)), ("_id", .integer 1)] ∧
      ∃ keys, readSort? (sortDocument q.sort) = some keys ∧
        compareBy keys (numbered 1 ["price"]) (numbered 2 ["price"]) = .gt ∧
        compareBy q.sort (numbered 1 ["price"]) (numbered 2 ["price"]) = .lt :=
  ⟨_, rfl, rfl, _, rfl, rfl, rfl⟩

end ListingQuery.Mongo
