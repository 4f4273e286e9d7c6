import ListingQuery.Mongo.Row
import ListingQuery.Proofs.Document.Values

/-!
# Values in stored documents

A path into a stored value leads into documents by their keys, and arrays on the way are fanned out, as
in the rows themselves.  Storing a value keeps what is at each of its paths, up to the stored form of
strings:

    values at a path, stored = values of the stored value at this path        (valuesAt_stored)

An object that is the written form of another type has no members in the store, so there must be no
value at the path, or at a part of it, within such an object.  This is so if no segment of the path
starts with a dollar sign                                            (storesAlong_of_plain)

The identifier of a row is under its other name:

    values at id = values of the document at _id                      (valuesAt_identifier)
-/

namespace ListingQuery.Mongo

namespace Bson

mutual

/-- The values at a path, in document order. -/
def valuesAt : Bson → FieldPath → List Bson
  | v, [] => [v]
  | .document members, key :: rest => valuesAtKey members key rest
  | .array items, path => valuesAtEach items path
  | _, _ :: _ => []
  termination_by structural v => v

/-- The values at a path whose first segment is looked up among members. -/
def valuesAtKey : List (String × Bson) → String → FieldPath → List Bson
  | [], _, _ => []
  | (k, v) :: ms, key, rest => if k = key then v.valuesAt rest else valuesAtKey ms key rest
  termination_by structural ms => ms

/-- The values at a path in each of some values. -/
def valuesAtEach : List Bson → FieldPath → List Bson
  | [], _ => []
  | v :: vs, path => v.valuesAt path ++ valuesAtEach vs path
  termination_by structural vs => vs

end

theorem valuesAt_nil (v : Bson) : v.valuesAt [] = [v] := by
  cases v <;> rfl

/-- A key is looked up once. -/
theorem valuesAtKey_eq (members : Document) (key : String) (rest : FieldPath) :
    valuesAtKey members key rest =
      ((Keyed.get? members key).map fun v => v.valuesAt rest).getD [] := by
  induction members with
  | nil => rfl
  | cons m members ih =>
    obtain ⟨k, v⟩ := m
    rw [valuesAtKey, Keyed.get?]
    split
    · rfl
    · exact ih

end Bson

/-! ## Written forms of other types -/

namespace Bson

variable {forms : WrittenForms}

theorem valuesAt_of_isLeaf {b : Bson} (h : b.isLeaf = true) (key : String) (rest : FieldPath) :
    b.valuesAt (key :: rest) = [] := by
  cases b with
  | array => cases h
  | document => cases h
  | _ => rfl

/-- Members are a document, unless they are a written form. -/
theorem ofMembers_cases (forms : WrittenForms) (members : Document) :
    ofMembers forms members = .document members ∨ (ofMembers forms members).isLeaf = true := by
  rw [ofMembers]
  cases hread : forms.read members with
  | none => exact .inl rfl
  | some b => exact .inr (forms.isLeaf_of_read hread)

/-- If members are a document, it is their own. -/
theorem eq_of_ofMembers_eq_document {members d : Document}
    (h : ofMembers forms members = .document d) : members = d := by
  rcases ofMembers_cases forms members with hmembers | hleaf
  · rw [hmembers] at h
    exact Bson.document.inj h
  · rw [h] at hleaf
    cases hleaf

/-- A key without a dollar sign in front is enough for members to be a document. -/
theorem ofMembers_of_mem {members : Document} {key : String} (hmem : key ∈ Keyed.keys members)
    (hplain : key.toList.head? ≠ some '$') : ofMembers forms members = .document members := by
  rw [ofMembers]
  cases hread : forms.read members with
  | none => rfl
  | some b => exact absurd ((forms.isDollar_of_read hread).2 key hmem) hplain

/-- Members are a document of their own if no key starts with a dollar sign. -/
theorem ofMembers_of_plain {members : Document}
    (h : ∀ key ∈ Keyed.keys members, key.toList.head? ≠ some '$') :
    ofMembers forms members = .document members := by
  cases members with
  | cons m members => exact ofMembers_of_mem List.mem_cons_self (h m.1 List.mem_cons_self)
  | nil =>
    rw [ofMembers]
    cases hread : forms.read [] with
    | none => rfl
    | some b => exact absurd rfl (forms.isDollar_of_read hread).1

end Bson

/-! ## Storing values -/

/-- The stored form of a value, if it has one. -/
def stored? (forms : WrittenForms) (v : Json) : Option Bson := Bson.ofJson? forms (withStoredText v)

/-- The members of an object are stored as these, in their order. -/
def AreStoredAs (forms : WrittenForms) (members : List (String × Json)) (bs : Document) : Prop :=
  bs.map (fun m => (m.1, some m.2)) = members.map fun m => (m.1, stored? forms m.2)

/-- Nothing along the path is lost in the store: from no segment on does an object that is stored
without members have a value there. -/
def StoresAlong (forms : WrittenForms) : FieldPath → Prop
  | [] => True
  | key :: rest =>
    (∀ members b, stored? forms (.object members) = some b → b.isLeaf = true →
      (Json.object members).valuesAt (key :: rest) = []) ∧ StoresAlong forms rest

section Values

variable {forms : WrittenForms}

theorem ofItems?_eq_some {items : List Json} {bs : List Bson}
    (h : Bson.ofItems? forms (itemsWithStoredText items) = some bs) :
    bs.map some = items.map (stored? forms) := by
  induction items generalizing bs with
  | nil =>
    cases h
    rfl
  | cons v vs ih =>
    simp only [itemsWithStoredText, Bson.ofItems?, bind, Option.bind_eq_some_iff] at h
    obtain ⟨b, hb, bs', hbs, heq⟩ := h
    cases heq
    rw [List.map_cons, List.map_cons, ih hbs, stored?, hb]

theorem areStoredAs_of_membersOf? {members : List (String × Json)} {bs : Document}
    (h : Bson.membersOf? forms (membersWithStoredText members) = some bs) :
    AreStoredAs forms members bs := by
  induction members generalizing bs with
  | nil =>
    cases h
    rfl
  | cons m ms ih =>
    obtain ⟨key, v⟩ := m
    simp only [membersWithStoredText, Bson.membersOf?, bind, Option.bind_eq_some_iff] at h
    obtain ⟨b, hb, bs', hbs, heq⟩ := h
    cases heq
    rw [AreStoredAs, List.map_cons, List.map_cons, ih hbs, stored?, hb]

/-- An object is stored as what its stored members are. -/
theorem stored?_object {members : List (String × Json)} {b : Bson}
    (hb : stored? forms (.object members) = some b) :
    ∃ bs, b = Bson.ofMembers forms bs ∧ AreStoredAs forms members bs := by
  rw [stored?, withStoredText, Bson.ofJson?, Option.map_eq_some_iff] at hb
  obtain ⟨bs, hbs, rfl⟩ := hb
  exact ⟨bs, rfl, areStoredAs_of_membersOf? hbs⟩

theorem AreStoredAs.keys_eq {members : List (String × Json)} {bs : Document}
    (h : AreStoredAs forms members bs) : Keyed.keys bs = Keyed.keys members := by
  have := congrArg (List.map Prod.fst) h
  simpa [Keyed.keys, Function.comp_def] using this

theorem map_valuesAtKey {members : List (String × Json)} {bs : Document} (key : String)
    {rest : FieldPath} (hmembers : AreStoredAs forms members bs)
    (h : ∀ m ∈ members, ∀ b, stored? forms m.2 = some b →
      (b.valuesAt rest).map some = (m.2.valuesAt rest).map (stored? forms)) :
    (Bson.valuesAtKey bs key rest).map some =
      (Json.valuesAtKey members key rest).map (stored? forms) := by
  induction members generalizing bs with
  | nil =>
    rw [AreStoredAs, List.map_nil, List.map_eq_nil_iff] at hmembers
    rw [hmembers]
    rfl
  | cons m ms ih =>
    obtain ⟨hm, hms⟩ := List.forall_mem_cons.1 h
    obtain ⟨k, v⟩ := m
    match bs with
    | [] => cases hmembers
    | (k', b) :: bs =>
      simp only [AreStoredAs, List.map_cons, List.cons.injEq, Prod.mk.injEq] at hmembers
      obtain ⟨⟨rfl, hb⟩, htail⟩ := hmembers
      rw [Bson.valuesAtKey, Json.valuesAtKey]
      split
      · exact hm b hb.symm
      · exact ih htail hms

theorem map_valuesAtEach {items : List Json} {bs : List Bson} {path : FieldPath}
    (hitems : bs.map some = items.map (stored? forms))
    (h : ∀ v ∈ items, ∀ b, stored? forms v = some b →
      (b.valuesAt path).map some = (v.valuesAt path).map (stored? forms)) :
    (Bson.valuesAtEach bs path).map some = (Json.valuesAtEach items path).map (stored? forms) := by
  induction items generalizing bs with
  | nil =>
    rw [List.map_nil, List.map_eq_nil_iff] at hitems
    rw [hitems]
    rfl
  | cons v vs ih =>
    obtain ⟨hv, hvs⟩ := List.forall_mem_cons.1 h
    match bs with
    | [] => cases hitems
    | b :: bs =>
      simp only [List.map_cons, List.cons.injEq] at hitems
      rw [Bson.valuesAtEach, Json.valuesAtEach, List.map_append, List.map_append,
        hv b hitems.1.symm, ih hitems.2 hvs]

/-- What is at a path in the stored form of an object, is what is there in the object. -/
theorem valuesAt_stored_object {members : List (String × Json)} {b : Bson}
    (hb : stored? forms (.object members) = some b) {key : String} {rest : FieldPath}
    (halong : StoresAlong forms (key :: rest))
    (h : ∀ m ∈ members, ∀ b, stored? forms m.2 = some b →
      (b.valuesAt rest).map some = (m.2.valuesAt rest).map (stored? forms)) :
    (b.valuesAt (key :: rest)).map some =
      ((Json.object members).valuesAt (key :: rest)).map (stored? forms) := by
  obtain ⟨bs, rfl, hmembers⟩ := stored?_object hb
  rcases Bson.ofMembers_cases forms bs with hbs | hleaf
  · rw [hbs]
    exact map_valuesAtKey key hmembers h
  · rw [Bson.valuesAt_of_isLeaf hleaf, halong.1 members _ hb hleaf]
    rfl

/-- The stored values at a path are the values of the stored value there. -/
theorem valuesAt_stored (v : Json) : ∀ b, stored? forms v = some b →
    ∀ path, StoresAlong forms path →
    (b.valuesAt path).map some = (v.valuesAt path).map (stored? forms) := by
  have hnil (v : Json) (b : Bson) (hb : stored? forms v = some b) :
      (b.valuesAt []).map some = (v.valuesAt []).map (stored? forms) := by
    rw [Bson.valuesAt_nil, json_valuesAt_nil, List.map_singleton, List.map_singleton, hb]
  induction v using jsonInduction with
  | null | bool | string =>
    intro b hb path _
    cases path with
    | nil => exact hnil _ b hb
    | cons key rest =>
      cases hb
      rfl
  | number n =>
    intro b hb path _
    cases path with
    | nil => exact hnil _ b hb
    | cons key rest =>
      cases n with
      | int n =>
        rw [stored?, withStoredText, Bson.ofJson?] at hb
        · split at hb <;> cases hb
          rfl
        all_goals simp
      | float x =>
        cases hb
        rfl
  | array items ih =>
    intro b hb path halong
    cases path with
    | nil => exact hnil _ b hb
    | cons key rest =>
      rw [stored?, withStoredText, Bson.ofJson?, Option.map_eq_some_iff] at hb
      obtain ⟨bs, hbs, rfl⟩ := hb
      exact map_valuesAtEach (ofItems?_eq_some hbs)
        fun v hv b hb => ih v hv b hb (key :: rest) halong
  | object members ih =>
    intro b hb path halong
    cases path with
    | nil => exact hnil _ b hb
    | cons key rest =>
      exact valuesAt_stored_object hb halong fun m hm b hb => ih m hm b hb rest halong.2

/-- Along a path without dollar signs in front of its segments, all is stored. -/
theorem storesAlong_of_plain {path : FieldPath} (h : ∀ key ∈ path, key.toList.head? ≠ some '$') :
    StoresAlong forms path := by
  induction path with
  | nil => trivial
  | cons key rest ih =>
    obtain ⟨hkey, hrest⟩ := List.forall_mem_cons.1 h
    refine ⟨fun members b hb hleaf => ?_, ih hrest⟩
    obtain ⟨bs, rfl, hmembers⟩ := stored?_object hb
    -- if the key were among the members, they would be a document
    have hnotMem : key ∉ Keyed.keys bs := by
      intro hmem
      rw [Bson.ofMembers_of_mem hmem hkey] at hleaf
      cases hleaf
    rw [hmembers.keys_eq, ← Keyed.get?_eq_none_iff] at hnotMem
    refine List.eq_nil_iff_forall_not_mem.2 fun v hv => ?_
    obtain ⟨w, hw, -⟩ := Json.mem_valuesAtKey_iff.1 hv
    rw [hnotMem] at hw
    cases hw

end Values

/-! ## The identifier -/

theorem get?_rename_of_ne {source target key : String} (hs : source ≠ key) (ht : target ≠ key)
    (d : Document) : Keyed.get? (rename source target d) key = Keyed.get? d key := by
  rw [rename]
  split
  · rw [Keyed.get?_put_of_ne ht, Keyed.get?_erase_of_ne hs]
  · rfl

/-- A member is found under its new key, if there is no other of this key. -/
theorem get?_rename {source target : String} {d : Document} (h : Keyed.get? d target = none) :
    Keyed.get? (rename source target d) target = Keyed.get? d source := by
  rw [rename]
  split
  · next v hv => rw [Keyed.get?_put_self, hv]
  · next hv => rw [h, hv]

variable {forms : WrittenForms}

/-- The document of a row is that of its stored members, with the identifier under its other name. -/
theorem documentOfRow_eq_ok {members : Keyed Json} {d : Document}
    (hd : documentOfRow forms (.object members) = .ok d) :
    ∃ bs, d = rename "id" "_id" bs ∧ AreStoredAs forms members bs := by
  rw [documentOfRow, ← stored?] at hd
  cases hb : stored? forms (.object members) with
  | none => simp [hb] at hd
  | some b =>
    obtain ⟨bs, rfl, hmembers⟩ := stored?_object hb
    rw [hb] at hd
    cases hb' : Bson.ofMembers forms bs with
    | document bs' =>
      cases Bson.eq_of_ofMembers_eq_document hb'
      rw [hb'] at hd
      exact ⟨bs, (Except.ok.inj hd).symm, hmembers⟩
    | _ => simp [hb'] at hd

/-- Below the members of a row, stored members have the stored values. -/
theorem valuesAtKey_stored {members : Keyed Json} {bs : Document}
    (hmembers : AreStoredAs forms members bs) (key : String) {rest : FieldPath}
    (halong : StoresAlong forms rest) :
    (Bson.valuesAtKey bs key rest).map some =
      ((Json.object members).valuesAt (key :: rest)).map (stored? forms) :=
  map_valuesAtKey key hmembers fun m _ b hb => valuesAt_stored m.2 b hb rest halong

/-- Members other than the identifier are in the document as they are in the row. -/
theorem valuesAt_member {members : Keyed Json} {d : Document}
    (hd : documentOfRow forms (.object members) = .ok d) {key : String} (hid : key ≠ "id")
    (hrenamed : key ≠ "_id") {rest : FieldPath} (halong : StoresAlong forms rest) :
    ((Bson.document d).valuesAt (key :: rest)).map some =
      ((Json.object members).valuesAt (key :: rest)).map (stored? forms) := by
  obtain ⟨bs, rfl, hmembers⟩ := documentOfRow_eq_ok hd
  rw [← valuesAtKey_stored hmembers key halong, Bson.valuesAt, Bson.valuesAtKey_eq,
    Bson.valuesAtKey_eq, get?_rename_of_ne hid.symm hrenamed.symm]

/-- The identifier is in the document under its other name. -/
theorem valuesAt_identifier {members : Keyed Json} {d : Document}
    (hd : documentOfRow forms (.object members) = .ok d) (hnone : Keyed.get? members "_id" = none)
    {rest : FieldPath} (halong : StoresAlong forms rest) :
    ((Bson.document d).valuesAt ("_id" :: rest)).map some =
      ((Json.object members).valuesAt ("id" :: rest)).map (stored? forms) := by
  obtain ⟨bs, rfl, hmembers⟩ := documentOfRow_eq_ok hd
  have hfree : Keyed.get? bs "_id" = none := by
    rwa [Keyed.get?_eq_none_iff, hmembers.keys_eq, ← Keyed.get?_eq_none_iff]
  rw [← valuesAtKey_stored hmembers "id" halong, Bson.valuesAt, Bson.valuesAtKey_eq,
    Bson.valuesAtKey_eq, get?_rename hfree]

end ListingQuery.Mongo
