import ListingQuery.Mongo.Extended
import ListingQuery.Proofs.Mongo.References
import ListingQuery.Proofs.Mongo.Stored
import ListingQuery.Proofs.Shape.Dotted

/-!
# Where the keys of filters lead

A key of a filter is a dotted path.  It addresses a field if it leads, in whatever is stored, to the
stored form of what the field has.  The segments have to be read back from the key, and nothing along
the path may be lost in the store, as what is within a written form is.  Besides:

    in a document,   not at or below _id, and not below id            (addressesInDocument_iff)
    in an element,   not at id                               (addressesInElement_storedKey_iff)

The keys and references of a filter are those of the fields its predicate tests and searches; which of
them address their fields follows                                (filterDocument_addresses_iff)
-/

namespace ListingQuery.Mongo

open FieldPath (dotted ofDotted IsDotless)

variable {forms : WrittenForms}

/-- The key leads, in the document of every row, to what the row has at the path. -/
def AddressesInDocument (forms : WrittenForms) (key : String) (p : FieldPath) : Prop :=
  ∀ (members : Keyed Json) (d : Document), Keyed.get? members "_id" = none →
    documentOfRow forms (.object members) = .ok d →
    ((Bson.document d).valuesAt (ofDotted key)).map some =
      ((Json.object members).valuesAt p).map (stored? forms)

/-- The key leads, in every stored element of a list, to what the element has at the path. -/
def AddressesInElement (forms : WrittenForms) (key : String) (p : FieldPath) : Prop :=
  ∀ (v : Json) (b : Bson), stored? forms v = some b →
    (b.valuesAt (ofDotted key)).map some = (v.valuesAt p).map (stored? forms)

/-! ## Keys -/

theorem storedKey_of_ne {p : FieldPath} (h : p ≠ ["id"]) : storedKey p = dotted p := by
  rw [storedKey]
  refine if_neg fun hid => h ?_
  exact FieldPath.eq_of_dotted_eq (by decide) (by decide) hid

/-- The key leads to the identifier. -/
theorem addressesInDocument_identifier : AddressesInDocument forms (storedKey ["id"]) ["id"] :=
  fun _ _ hnone hd => valuesAt_identifier hd hnone trivial

theorem addressesInDocument_member {key : String} {rest : FieldPath}
    (hdotless : IsDotless (key :: rest)) (hid : key ≠ "id") (hrenamed : key ≠ "_id")
    (halong : StoresAlong forms rest) :
    AddressesInDocument forms (storedKey (key :: rest)) (key :: rest) := by
  intro members d _ hd
  have hne : key :: rest ≠ ["id"] := fun h => hid (List.cons.inj h).1
  rw [storedKey_of_ne hne, FieldPath.ofDotted_dotted (by simp) hdotless]
  exact valuesAt_member hd hid hrenamed halong

theorem addressesInElement_dotted {p : FieldPath} (hne : p ≠ []) (hdotless : IsDotless p)
    (halong : StoresAlong forms p) : AddressesInElement forms (dotted p) p := by
  intro v b hb
  rw [FieldPath.ofDotted_dotted hne hdotless]
  exact valuesAt_stored v b hb p halong

/-! ## Rows with a value at a path -/

/-- Another key, without a dollar sign in front. -/
def beside (key : String) : String := "x" ++ key

theorem head?_beside (key : String) : (beside key).toList.head? = some 'x' := by
  simp [beside, String.toList_append]

theorem beside_ne_self (key : String) : beside key ≠ key := by
  intro h
  have := congrArg String.length h
  simp [beside] at this

theorem beside_ne {key other : String} (h : other.toList.head? ≠ some 'x') :
    beside key ≠ other := by
  rintro rfl
  exact h (head?_beside key)

/-- What has the value at a path.  No object on the way is a written form, since it has a key without
a dollar sign. -/
def holding (v : Json) : FieldPath → Json
  | [] => v
  | key :: rest => .object [(key, holding v rest), (beside key, .null)]

/-- The stored form of what has a value at a path. -/
def storedAt (b : Bson) : FieldPath → Bson
  | [] => b
  | key :: rest => .document [(key, storedAt b rest), (beside key, .null)]

theorem valuesAt_holding (v : Json) (p q : FieldPath) :
    (holding v p).valuesAt (p ++ q) = v.valuesAt q := by
  induction p with
  | nil => rfl
  | cons key rest ih => simp [holding, Json.valuesAt, Json.valuesAtKey, ih]

theorem valuesAt_storedAt (b : Bson) (p q : FieldPath) :
    (storedAt b p).valuesAt (p ++ q) = b.valuesAt q := by
  induction p with
  | nil => rfl
  | cons key rest ih => simp [storedAt, Bson.valuesAt, Bson.valuesAtKey, ih]

theorem valuesAt_holding_self (v : Json) (p : FieldPath) : (holding v p).valuesAt p = [v] := by
  simpa [json_valuesAt_nil] using valuesAt_holding v p []

/-- Nothing is below null. -/
theorem valuesAt_storedAt_null_of_lt {p q : FieldPath} (h : p.length < q.length) :
    (storedAt .null p).valuesAt q = [] := by
  induction p generalizing q with
  | nil =>
    cases q with
    | nil => cases h
    | cons key rest => rfl
  | cons key rest ih =>
    cases q with
    | nil => cases h
    | cons key' rest' =>
      have hlt : rest.length < rest'.length := by simpa using h
      obtain ⟨k, more, rfl⟩ := List.exists_cons_of_length_pos (Nat.zero_lt_of_lt hlt)
      simp [storedAt, Bson.valuesAt, Bson.valuesAtKey, ih hlt]

theorem stored?_holding {v : Json} {b : Bson} (hb : stored? forms v = some b) (p : FieldPath) :
    stored? forms (holding v p) = some (storedAt b p) := by
  induction p with
  | nil => exact hb
  | cons key rest ih =>
    have hmem : beside key ∈ Keyed.keys [(key, storedAt b rest), (beside key, .null)] := by
      simp [Keyed.keys]
    have hplain : Bson.ofMembers forms [(key, storedAt b rest), (beside key, .null)] = _ :=
      Bson.ofMembers_of_mem hmem (by simp [head?_beside])
    rw [stored?] at ih
    simp [stored?, holding, storedAt, withStoredText, membersWithStoredText, Bson.ofJson?,
      Bson.membersOf?, ih, hplain]

theorem documentOfRow_holding {v : Json} {b : Bson} (hb : stored? forms v = some b) (key : String)
    (rest : FieldPath) : documentOfRow forms (holding v (key :: rest)) =
      .ok (rename "id" "_id" [(key, storedAt b rest), (beside key, .null)]) := by
  have h := stored?_holding hb (key :: rest)
  rw [stored?] at h
  rw [documentOfRow, h]
  rfl

/-- What a key that addresses a path says about a row with a value at another path. -/
theorem AddressesInDocument.holding {text : String} {p : FieldPath}
    (h : AddressesInDocument forms text p) {v : Json} {b : Bson} (hb : stored? forms v = some b)
    (key : String) (hkey : key ≠ "_id") (rest : FieldPath) :
    ((Bson.document (rename "id" "_id" [(key, storedAt b rest), (beside key, .null)])).valuesAt
        (ofDotted text)).map some =
      ((Mongo.holding v (key :: rest)).valuesAt p).map (stored? forms) := by
  have hbeside : beside key ≠ "_id" := beside_ne (by decide)
  exact h _ _ (by simp [Keyed.get?, hkey, hbeside]) (documentOfRow_holding hb key rest)

/-- The identifier of a row comes last in its document. -/
theorem rename_identifier (b : Bson) :
    rename "id" "_id" [("id", b), (beside "id", .null)] = [(beside "id", .null), ("_id", b)] := by
  have hbeside : beside "id" ≠ "_id" := beside_ne (by decide)
  simp [rename, Keyed.get?, Keyed.erase, Keyed.put, hbeside]

/-- Without an identifier nothing is renamed. -/
theorem rename_of_ne {key : String} (hid : key ≠ "id") (b : Bson) :
    rename "id" "_id" [(key, b), (beside key, .null)] = [(key, b), (beside key, .null)] := by
  have hbeside : beside key ≠ "id" := beside_ne (by decide)
  simp [rename, Keyed.get?, hid, hbeside]

/-- A path whose key leads to its field is read back from the key. -/
theorem isDotless_of_lt {p : FieldPath} (hne : p ≠ [])
    (h : ¬ p.length < (ofDotted (dotted p)).length) : IsDotless p := by
  rw [FieldPath.length_ofDotted_dotted hne] at h
  exact FieldPath.isDotless_iff.2 (by omega)

/-- Where a path loses something, it does so in an object that is stored without members. -/
theorem exists_lost_of_not_storesAlong {p : FieldPath} (h : ¬ StoresAlong forms p) :
    ∃ init lost members b, p = init ++ lost ∧ stored? forms (.object members) = some b ∧
      b.valuesAt lost = [] ∧ (Json.object members).valuesAt lost ≠ [] := by
  induction p with
  | nil => exact absurd trivial h
  | cons key rest ih =>
    by_cases hrest : StoresAlong forms rest
    · have hhere : ¬ ∀ members b, stored? forms (.object members) = some b → b.isLeaf = true →
          (Json.object members).valuesAt (key :: rest) = [] := fun hall => h ⟨hall, hrest⟩
      simp only [Classical.not_forall] at hhere
      obtain ⟨members, b, hb, hleaf, hvalues⟩ := hhere
      exact ⟨[], key :: rest, members, b, rfl, hb, Bson.valuesAt_of_isLeaf hleaf key rest, hvalues⟩
    · obtain ⟨init, lost, members, b, rfl, hlost⟩ := ih hrest
      exact ⟨key :: init, lost, members, b, rfl, hlost⟩

/-! ## Which keys lead to their fields -/

/-- A path leads from an element to its field if it is read back and nothing along it is lost. -/
theorem addressesInElement_dotted_iff (p : FieldPath) :
    AddressesInElement forms (dotted p) p ↔ p ≠ [] ∧ IsDotless p ∧ StoresAlong forms p := by
  constructor
  · intro h
    have hne : p ≠ [] := by
      rintro rfl
      have := h .null .null rfl
      cases this
    have hdotless : IsDotless p := by
      refine isDotless_of_lt hne fun hlonger => ?_
      have := h (holding .null p) (storedAt .null p) (stored?_holding rfl p)
      rw [valuesAt_storedAt_null_of_lt hlonger, valuesAt_holding_self] at this
      cases this
    refine ⟨hne, hdotless, Classical.byContradiction fun halong => ?_⟩
    obtain ⟨init, lost, members, b, rfl, hb, hempty, hvalues⟩ :=
      exists_lost_of_not_storesAlong halong
    have := h _ _ (stored?_holding hb init)
    rw [FieldPath.ofDotted_dotted hne hdotless, valuesAt_storedAt, valuesAt_holding, hempty] at this
    exact hvalues (List.map_eq_nil_iff.1 this.symm)
  · rintro ⟨hne, hdotless, halong⟩
    exact addressesInElement_dotted hne hdotless halong

/-- In an element of a list, the key of the identifier leads elsewhere. -/
theorem addressesInElement_storedKey_iff (p : FieldPath) :
    AddressesInElement forms (storedKey p) p ↔
      p ≠ [] ∧ IsDotless p ∧ StoresAlong forms p ∧ p ≠ ["id"] := by
  by_cases hid : p = ["id"]
  · subst hid
    refine iff_of_false (fun h => ?_) (by simp)
    have hkey : ofDotted (storedKey ["id"]) = ["_id"] := by decide
    have hbeside : beside "id" ≠ "_id" := beside_ne (by decide)
    have := h (holding .null ["id"]) (storedAt .null ["id"]) (stored?_holding rfl _)
    rw [valuesAt_holding_self, hkey] at this
    simp [storedAt, Bson.valuesAt, Bson.valuesAtKey, hbeside] at this
  · rw [storedKey_of_ne hid, addressesInElement_dotted_iff]
    simp [hid]

/-- No row has the new name of the identifier, but every document of a row with an identifier has. -/
theorem not_addressesInDocument_renamed (rest : FieldPath) :
    ¬ AddressesInDocument forms (storedKey ("_id" :: rest)) ("_id" :: rest) := by
  intro h
  have hne : "_id" :: rest ≠ ["id"] := by simp
  obtain ⟨below, hbelow⟩ : ∃ below, ofDotted (dotted ("_id" :: rest)) = "_id" :: below := by
    by_cases hrest : rest = []
    · subst hrest
      exact ⟨[], FieldPath.ofDotted_dotted_singleton (by decide)⟩
    · exact ⟨_, FieldPath.ofDotted_dotted_cons (by decide) hrest⟩
  have hbeside : beside "id" ≠ "_id" := beside_ne (by decide)
  have hvalues : (storedAt .null below).valuesAt below = [.null] := by
    simpa [Bson.valuesAt_nil] using valuesAt_storedAt .null below []
  have := h.holding (v := .null) rfl "id" (by decide) below
  rw [storedKey_of_ne hne, hbelow, rename_identifier] at this
  simp [Bson.valuesAt, Bson.valuesAtKey, holding, Json.valuesAt, Json.valuesAtKey, hbeside,
    hvalues] at this

/-- The fields of an identifier that is a record are under its old name in the filter. -/
theorem not_addressesInDocument_below_identifier (key : String) (rest : FieldPath) :
    ¬ AddressesInDocument forms (storedKey ("id" :: key :: rest)) ("id" :: key :: rest) := by
  intro h
  have hne : "id" :: key :: rest ≠ ["id"] := by simp
  have hbeside : beside "id" ≠ "id" := beside_ne_self "id"
  have := h.holding (v := .null) rfl "id" (by decide) (key :: rest)
  rw [storedKey_of_ne hne, FieldPath.ofDotted_dotted_cons (by decide) (by simp),
    valuesAt_holding_self, rename_identifier] at this
  simp [Bson.valuesAt, Bson.valuesAtKey, hbeside] at this

/-- Below a member of the row, nothing is lost along the path. -/
theorem AddressesInDocument.storesAlong {key : String} {rest : FieldPath}
    (h : AddressesInDocument forms (dotted (key :: rest)) (key :: rest))
    (hdotless : IsDotless (key :: rest)) (hid : key ≠ "id") (hrenamed : key ≠ "_id") :
    StoresAlong forms rest := by
  refine Classical.byContradiction fun halong => ?_
  obtain ⟨init, lost, members, b, rfl, hb, hempty, hvalues⟩ := exists_lost_of_not_storesAlong halong
  have := h.holding hb key hrenamed init
  rw [FieldPath.ofDotted_dotted (by simp) hdotless, rename_of_ne hid] at this
  have hrow := valuesAt_holding (.object members) (key :: init) lost
  have hstored := valuesAt_storedAt b (key :: init) lost
  rw [List.cons_append] at hrow hstored
  rw [storedAt] at hstored
  rw [hstored, hrow, hempty] at this
  exact hvalues (List.map_eq_nil_iff.1 this.symm)

/-- In the document of a row, the key leads to the field if the path is read back from it, is
neither below the identifier nor under its new name, and loses nothing below the row's own members. -/
theorem addressesInDocument_iff (p : FieldPath) :
    AddressesInDocument forms (storedKey p) p ↔
      p ≠ [] ∧ IsDotless p ∧ StoresAlong forms p.tail ∧ p.head? ≠ some "_id" ∧
        ∀ key rest, p ≠ "id" :: key :: rest := by
  match p with
  | [] =>
    refine iff_of_false (fun h => ?_) (by simp)
    have hnil : Bson.ofMembers forms [] = .document [] :=
      Bson.ofMembers_of_plain (List.forall_mem_nil _)
    have hd : documentOfRow forms (.object []) = .ok [] := by
      rw [documentOfRow, withStoredText, membersWithStoredText, Bson.ofJson?, Bson.membersOf?,
        Option.map_some, hnil]
      rfl
    have := h [] [] rfl hd
    cases this
  | key :: rest =>
    by_cases hrenamed : key = "_id"
    · subst hrenamed
      exact iff_of_false (not_addressesInDocument_renamed rest) (by simp)
    by_cases hid : key = "id"
    · subst hid
      cases rest with
      | nil =>
        refine iff_of_true addressesInDocument_identifier ⟨by simp, ?_, trivial, by simp, by simp⟩
        simp [IsDotless]
      | cons key rest =>
        exact iff_of_false (not_addressesInDocument_below_identifier key rest) (by simp)
    have hne : key :: rest ≠ ["id"] := fun h => hid (List.cons.inj h).1
    constructor
    · intro h
      rw [storedKey_of_ne hne] at h
      have hdotless : IsDotless (key :: rest) := by
        refine isDotless_of_lt (by simp) fun hlonger => ?_
        have hvalues : (storedAt .null (key :: rest)).valuesAt
            (ofDotted (dotted (key :: rest))) = [] := valuesAt_storedAt_null_of_lt hlonger
        have := h.holding (v := .null) rfl key hrenamed rest
        rw [storedAt] at hvalues
        rw [rename_of_ne hid, hvalues, valuesAt_holding_self] at this
        cases this
      exact ⟨by simp, hdotless, h.storesAlong hdotless hid hrenamed, by simpa using hrenamed,
        by simp [hid]⟩
    · rintro ⟨-, hdotless, halong, -, -⟩
      exact addressesInDocument_member hdotless hid hrenamed halong

/-! ## Filters -/

/-- The key leads to the field, in the document or in the elements of the last list of the chain. -/
def Addresses (forms : WrittenForms) : List FieldPath → String → FieldPath → Prop
  | [], key, p => AddressesInDocument forms key p
  | _ :: _, key, p => AddressesInElement forms key p

/-- The reference leads to the field, in the document or in the element at hand. -/
def ReferenceAddresses (forms : WrittenForms) : List FieldPath → String → FieldPath → Prop
  | [], reference, p => ∃ key, reference = "$" ++ key ∧ AddressesInDocument forms key p
  | _ :: _, reference, p => ∃ key, reference = "$$this." ++ key ∧ AddressesInElement forms key p

/-- The field is stored at a dotted path, along which nothing is lost, and a document has it neither
below `id` nor at or below `_id`. -/
def IsAddressable (forms : WrittenForms) (chain : List FieldPath) (p : FieldPath) : Prop :=
  p ≠ [] ∧ IsDotless p ∧
    match chain with
    | [] => StoresAlong forms p.tail ∧ p.head? ≠ some "_id" ∧ ∀ key rest, p ≠ "id" :: key :: rest
    | _ :: _ => StoresAlong forms p

theorem addresses_storedKey_iff (chain : List FieldPath) (p : FieldPath) :
    Addresses forms chain (storedKey p) p ↔
      IsAddressable forms chain p ∧ (chain ≠ [] → p ≠ ["id"]) := by
  cases chain with
  | nil =>
    rw [Addresses, addressesInDocument_iff, IsAddressable]
    simp
  | cons f chain =>
    rw [Addresses, addressesInElement_storedKey_iff, IsAddressable]
    simp [and_assoc]

theorem referenceAddresses_iff (chain : List FieldPath) (p : FieldPath) :
    ReferenceAddresses forms chain (referenceBelow false chain p) p ↔
      IsAddressable forms chain p := by
  cases chain with
  | nil =>
    rw [ReferenceAddresses, IsAddressable, ← addressesInDocument_iff]
    simp [referenceBelow, reference]
  | cons f chain =>
    rw [ReferenceAddresses, IsAddressable, ← addressesInElement_dotted_iff]
    simp [referenceBelow, reference]

/-- The keys of a filter are those of the tests, and its references those of the searches.  They
address their fields if these are addressable, but for the key of `id` in an element.  This is so
whichever written forms the library knows; it has none for what is along a path without dollar
signs. -/
theorem filterDocument_addresses_iff (forms : WrittenForms) (p : Predicate) :
    (∀ keys key, Writes (filterDocument p) keys key ↔
      ∃ chain f, Tests p chain f ∧ keys = chain.map storedKey ∧ key = storedKey f) ∧
    (∀ chain f, Tests p chain f →
      (Addresses forms chain (storedKey f) f ↔
        IsAddressable forms chain f ∧ (chain ≠ [] → f ≠ ["id"]))) ∧
    (∀ references reference, Expresses (filterDocument p) references reference ↔
      ∃ chain f, Searches p chain f ∧ references = referencesAlong false chain ∧
        reference = referenceBelow false chain f) ∧
    (∀ chain f, Searches p chain f →
      (ReferenceAddresses forms chain (referenceBelow false chain f) f ↔
        IsAddressable forms chain f)) ∧
    ∀ f : FieldPath, (∀ key ∈ f, key.toList.head? ≠ some '$') → StoresAlong forms f := by
  refine ⟨writesTested_filter p false, fun chain f _ => addresses_storedKey_iff chain f, ?_,
    fun chain f _ => referenceAddresses_iff chain f, fun f => storesAlong_of_plain⟩
  intro references reference
  rw [filterDocument, expressesSearched_filter]
  simp

/-- A search for the identifiers of items: the expression finds them, the test of an element does
not. -/
theorem itemSearch_addresses :
    (Tests (.nested ["items"] (.contains ["id"] "A-1")) [["items"]] ["id"] ∧
      ¬ Addresses scalarForms [["items"]] (storedKey ["id"]) ["id"]) ∧
    Searches (.nested ["items"] (.contains ["id"] "A-1")) [["items"]] ["id"] ∧
      ReferenceAddresses scalarForms [["items"]] "$$this.id" ["id"] := by
  have htests : Tests (.nested ["items"] (.contains ["id"] "A-1")) [["items"]] ["id"] :=
    .nested (.field rfl)
  have hsearches := Searches.search rfl htests
  obtain ⟨-, hkeys, -, hreferences, hstored⟩ :=
    filterDocument_addresses_iff scalarForms (.nested ["items"] (.contains ["id"] "A-1"))
  refine ⟨⟨htests, fun h => ?_⟩, hsearches, (hreferences _ _ hsearches).2 ?_⟩
  · exact ((hkeys _ _ htests).1 h).2 (by simp) rfl
  · exact ⟨by simp, by simp [IsDotless], hstored ["id"] (by decide)⟩

/-- A test of the identifier of an item looks at a member that items do not have; a test below the
identifier of a row, at one that documents do not have. -/
theorem identifiers_not_addressed :
    (filterDocument (.nested ["items"] (.compare ["id"] .eq (.integer 7))) =
        [("items", .document [("$elemMatch", .document [("_id", .document [("$eq", .integer 7)])])])]
      ∧ stored? scalarForms (.object [("id", .number (.int 7))]) =
        some (.document [("id", .integer 7)])
      ∧ (Json.object [("id", .number (.int 7))]).valuesAt ["id"] = [.number (.int 7)]
      ∧ (Bson.document [("id", .integer 7)]).valuesAt (ofDotted "_id") = []) ∧
    filterDocument (.compare ["id", "x"] .eq (.integer 7)) =
        [("id.x", .document [("$eq", .integer 7)])]
      ∧ documentOfRow scalarForms (.object [("id", .object [("x", .number (.int 7))])]) =
        .ok [("_id", .document [("x", .integer 7)])]
      ∧ (Json.object [("id", .object [("x", .number (.int 7))])]).valuesAt ["id", "x"] =
        [.number (.int 7)]
      ∧ (Bson.document [("_id", .document [("x", .integer 7)])]).valuesAt (ofDotted "id.x") = [] :=
  ⟨⟨rfl, rfl, rfl, rfl⟩, rfl, rfl, rfl, rfl⟩

end ListingQuery.Mongo
