import ListingQuery.Mongo.Collection
import ListingQuery.Mongo.Extended
import ListingQuery.Proofs.Calendar.FixedText
import ListingQuery.Proofs.Keyed
import ListingQuery.Proofs.Mongo.Stored

/-!
# Rows there and back

A row is stored, and read back from its document, without loss.  What JSON and BSON both have is kept
as it is; every timestamp comes back in its fixed text; the identifier, which is renamed twice, comes
back under its name, behind the other members.  What has come back once is stored again as the same
document:

    documentOfRow row = .ok d,  rowOfDocument d = row with stored texts, up to the order of members,
    documentOfRow forms (rowOfDocument d) = .ok d

A text that is stored is never changed again, also where the fixed text of a timestamp is none itself,
since an offset has led out of the years of four digits                     (storedText_storedText).

Rows are inserted with one call, all documents in order, or with none                (rows_survive).
-/

namespace ListingQuery

/-- JSON of which a server has every value: whole numbers fit a signed word, doubles are finite, and
no key starts with a dollar sign, at any depth. -/
inductive Json.IsStorable : Json → Prop
  | null : IsStorable .null
  | bool (b : Bool) : IsStorable (.bool b)
  | whole {n : Int} (fits : isInt64 n = true) : IsStorable (.number (.int n))
  | double {x : Float} (finite : x.isFinite = true) : IsStorable (.number (.float x))
  | string (s : String) : IsStorable (.string s)
  | array {items : List Json} (items_storable : ∀ v ∈ items, IsStorable v) :
      IsStorable (.array items)
  | object {members : List (String × Json)}
      (keys_plain : ∀ key ∈ Keyed.keys members, key.toList.head? ≠ some '$')
      (values_storable : ∀ m ∈ members, IsStorable m.2) : IsStorable (.object members)

namespace Mongo

open Calendar (Instant)

namespace Bson

/-! ## Values -/

variable {forms : WrittenForms}

theorem membersJson_eq_map (d : Document) : membersJson d = d.map fun m => (m.1, m.2.toJson) := by
  induction d with
  | nil => rfl
  | cons m d ih =>
    obtain ⟨key, b⟩ := m
    rw [membersJson, ih, List.map_cons]

theorem keys_membersJson (d : Document) : Keyed.keys (membersJson d) = Keyed.keys d := by
  rw [membersJson_eq_map, Keyed.keys, Keyed.keys, List.map_map]
  rfl

/-- The written forms of members are read back exactly if each of them is. -/
theorem membersOf?_membersJson_iff {d : Document} :
    membersOf? forms (membersJson d) = some d ↔
      ∀ m ∈ d, ofJson? forms m.2.toJson = some m.2 := by
  induction d with
  | nil => exact iff_of_true rfl (by simp)
  | cons m d ih =>
    obtain ⟨key, b⟩ := m
    rw [List.forall_mem_cons, ← ih, membersJson, membersOf?]
    cases ofJson? forms b.toJson <;> cases membersOf? forms (membersJson d) <;> simp

/-- The JSON is read as a value that is written as it. -/
def Keeps (forms : WrittenForms) (v : Json) : Prop := ∃ b, ofJson? forms v = some b ∧ b.toJson = v

theorem exists_items {items : List Json} (h : ∀ v ∈ items, Keeps forms v) :
    ∃ bs, ofItems? forms items = some bs ∧ itemsJson bs = items := by
  induction items with
  | nil => exact ⟨[], rfl, rfl⟩
  | cons v items ih =>
    obtain ⟨⟨b, hb, hv⟩, hrest⟩ := List.forall_mem_cons.1 h
    obtain ⟨bs, hbs, hitems⟩ := ih hrest
    exact ⟨b :: bs, by rw [ofItems?, hb, hbs]; rfl, by rw [itemsJson, hv, hitems]⟩

theorem exists_members {members : List (String × Json)} (h : ∀ m ∈ members, Keeps forms m.2) :
    ∃ d, membersOf? forms members = some d ∧ membersJson d = members := by
  induction members with
  | nil => exact ⟨[], rfl, rfl⟩
  | cons m members ih =>
    obtain ⟨key, v⟩ := m
    obtain ⟨⟨b, hb, hv⟩, hrest⟩ := List.forall_mem_cons.1 h
    obtain ⟨d, hd, hmembers⟩ := ih hrest
    exact ⟨(key, b) :: d, by rw [membersOf?, hb, hd]; rfl, by rw [membersJson, hv, hmembers]⟩

/-- Storable JSON is kept. -/
theorem keeps_of_isStorable {v : Json} (h : v.IsStorable) : Keeps forms v := by
  induction h with
  | null => exact ⟨null, rfl, rfl⟩
  | bool b => exact ⟨boolean b, rfl, rfl⟩
  | @whole n fits => exact ⟨integer n, by rw [ofJson?, if_pos fits], rfl⟩
  | @double x finite => exact ⟨double x, rfl, by rw [toJson, doubleJson, if_pos finite]⟩
  | string s => exact ⟨string s, rfl, rfl⟩
  | array _ ih =>
    obtain ⟨bs, hbs, hitems⟩ := exists_items ih
    exact ⟨.array bs, by rw [ofJson?, hbs]; rfl, by rw [toJson, hitems]⟩
  | object keys_plain _ ih =>
    obtain ⟨d, hd, rfl⟩ := exists_members ih
    rw [keys_membersJson] at keys_plain
    exact ⟨.document d, by rw [ofJson?, hd, Option.map_some, ofMembers_of_plain keys_plain], rfl⟩

end Bson

/-! ## Stored texts -/

theorem membersWithStoredText_eq_map (members : List (String × Json)) :
    membersWithStoredText members = members.map fun m => (m.1, withStoredText m.2) := by
  induction members with
  | nil => rfl
  | cons m members ih =>
    obtain ⟨key, v⟩ := m
    rw [membersWithStoredText, ih, List.map_cons]

theorem itemsWithStoredText_eq_map (items : List Json) :
    itemsWithStoredText items = items.map withStoredText := by
  induction items with
  | nil => rfl
  | cons v items ih => rw [itemsWithStoredText, ih, List.map_cons]

theorem keys_membersWithStoredText (members : List (String × Json)) :
    Keyed.keys (membersWithStoredText members) = Keyed.keys members := by
  rw [membersWithStoredText_eq_map, Keyed.keys, Keyed.keys, List.map_map]
  rfl

/-- A stored text is stored as it is. -/
theorem storedText_storedText (s : String) : storedText (storedText s) = storedText s := by
  unfold storedText storedTimestamp?
  cases hs : Instant.ofTimestamp? s with
  | none => simp only [Option.map_none, Option.getD_none, hs]
  | some t =>
    simp only [Option.map_some, Option.getD_some]
    by_cases hyear : t.HasPlainYear
    · rw [Instant.ofTimestamp?_fixedText (Instant.isSteady_of_timestamp? hs) hyear]
      rfl
    · rw [Instant.ofTimestamp?_fixedText_eq_none hyear]
      rfl

theorem withStoredText_withStoredText (v : Json) :
    withStoredText (withStoredText v) = withStoredText v := by
  induction v using jsonInduction with
  | null | bool | number => rfl
  | string s => rw [withStoredText, withStoredText, storedText_storedText]
  | array items ih =>
    simp only [withStoredText, itemsWithStoredText_eq_map, List.map_map]
    exact congrArg Json.array (List.map_congr_left ih)
  | object members ih =>
    simp only [withStoredText, membersWithStoredText_eq_map, List.map_map]
    exact congrArg Json.object
      (List.map_congr_left fun m hm => Prod.ext rfl (ih m hm))

theorem isStorable_withStoredText {v : Json} (h : v.IsStorable) :
    (withStoredText v).IsStorable := by
  induction h with
  | null => exact .null
  | bool b => exact .bool b
  | whole fits => exact .whole fits
  | double finite => exact .double finite
  | string s => exact .string _
  | array _ ih =>
    rw [withStoredText, itemsWithStoredText_eq_map]
    exact .array (List.forall_mem_map.2 ih)
  | object keys_plain _ ih =>
    rw [withStoredText]
    refine .object (by rwa [keys_membersWithStoredText]) ?_
    rw [membersWithStoredText_eq_map]
    exact List.forall_mem_map.2 ih

/-! ## The identifier -/

section Rename

variable {source target : String} {d : Document}

theorem rename_of_get?_eq_none (h : Keyed.get? d source = none) : rename source target d = d := by
  rw [rename, h]

/-- A member that is moved to a new key comes last. -/
theorem rename_of_get? {v : Bson} (h : Keyed.get? d source = some v)
    (htarget : target ∉ Keyed.keys (Keyed.erase d source)) :
    rename source target d = Keyed.erase d source ++ [(target, v)] := by
  rw [rename, h]
  exact Keyed.put_of_not_mem htarget v

/-- A member that is last is moved in place. -/
theorem rename_concat (hsource : source ∉ Keyed.keys d) (htarget : target ∉ Keyed.keys d)
    (v : Bson) : rename source target (d ++ [(source, v)]) = d ++ [(target, v)] := by
  have hget : Keyed.get? (d ++ [(source, v)]) source = some v := by
    rw [← Keyed.put_of_not_mem hsource, Keyed.get?_put_self]
  have herase := Keyed.erase_append_of_not_mem hsource v
  rw [rename_of_get? hget (by rwa [herase]), herase]

/-- A member that is moved there and back is last; moving it again leads to the same document. -/
theorem rename_rename (hd : (Keyed.keys d).Nodup) (htarget : target ∉ Keyed.keys d) :
    (rename target source (rename source target d)).Perm d ∧
      rename source target (rename target source (rename source target d)) =
        rename source target d := by
  cases h : Keyed.get? d source with
  | none =>
    rw [rename_of_get?_eq_none h, rename_of_get?_eq_none (Keyed.get?_eq_none_iff.2 htarget),
      rename_of_get?_eq_none h]
    exact ⟨.refl d, rfl⟩
  | some v =>
    obtain ⟨before, after, rfl, herase⟩ := Keyed.exists_split_of_get? h
    simp only [Keyed.keys, List.map_append, List.map_cons] at hd htarget
    have hsource : source ∉ Keyed.keys (before ++ after) := by
      rw [Keyed.keys, List.map_append]
      exact (List.nodup_middle.1 hd).notMem
    have htarget : target ∉ Keyed.keys (before ++ after) := by
      rw [Keyed.keys, List.map_append]
      simp only [List.mem_append, List.mem_cons, not_or] at htarget ⊢
      exact ⟨htarget.1, htarget.2.2⟩
    rw [rename_of_get? h (by rwa [herase]), herase, rename_concat htarget hsource,
      rename_concat hsource htarget]
    exact ⟨(List.perm_append_singleton _ _).trans List.perm_middle.symm, rfl⟩

end Rename

/-! ## Rows -/

variable {forms : WrittenForms}

/-- The members of an object that can be stored and leaves the key of the identifier free. -/
structure IsRow (members : Keyed Json) : Prop where
  storable : (Json.object members).IsStorable
  distinct : (Keyed.keys members).Nodup
  unused : "_id" ∉ Keyed.keys members

theorem documentOfRow_of_membersOf? {members : Keyed Json} {d : Document}
    (hd : Bson.membersOf? forms (membersWithStoredText members) = some d)
    (hplain : ∀ key ∈ Keyed.keys d, key.toList.head? ≠ some '$') :
    documentOfRow forms (.object members) = .ok (rename "id" "_id" d) := by
  rw [documentOfRow, withStoredText, Bson.ofJson?, hd, Option.map_some,
    Bson.ofMembers_of_plain hplain]

/-- Members that are written, with texts that are stored already, are stored as they were. -/
theorem documentOfRow_membersJson {d : Document}
    (hd : ∀ m ∈ d, Bson.ofJson? forms m.2.toJson = some m.2)
    (htexts : ∀ m ∈ d, withStoredText m.2.toJson = m.2.toJson)
    (hplain : ∀ key ∈ Keyed.keys d, key.toList.head? ≠ some '$') :
    documentOfRow forms (.object (Bson.membersJson d)) = .ok (rename "id" "_id" d) := by
  have hstored : membersWithStoredText (Bson.membersJson d) = Bson.membersJson d := by
    rw [membersWithStoredText_eq_map, Bson.membersJson_eq_map, List.map_map]
    exact List.map_congr_left fun m hm => Prod.ext rfl (htexts m hm)
  refine documentOfRow_of_membersOf? ?_ hplain
  rw [hstored, Bson.membersOf?_membersJson_iff.2 hd]

/-- A row is stored, comes back with its texts stored, and is stored as the same document again. -/
theorem IsRow.survives {members : Keyed Json} (h : IsRow members) :
    ∃ d, documentOfRow forms (.object members) = .ok d ∧
      (∃ back, rowOfDocument d = .object back ∧ back.Perm (membersWithStoredText members)) ∧
      documentOfRow forms (rowOfDocument d) = .ok d := by
  cases isStorable_withStoredText h.storable with
  | object keys_plain values_storable =>
    obtain ⟨bs, hbs, hjson⟩ :=
      Bson.exists_members fun m hm => Bson.keeps_of_isStorable (values_storable m hm)
    have hkeys : Keyed.keys bs = Keyed.keys members := by
      rw [← Bson.keys_membersJson, hjson, keys_membersWithStoredText]
    have hplain : ∀ key ∈ Keyed.keys bs, key.toList.head? ≠ some '$' := by
      rwa [← Bson.keys_membersJson, hjson]
    have hread : ∀ m ∈ bs, Bson.ofJson? forms m.2.toJson = some m.2 :=
      Bson.membersOf?_membersJson_iff.1 (by rw [hjson, hbs])
    have htexts : ∀ m ∈ bs, withStoredText m.2.toJson = m.2.toJson := by
      intro m hm
      have hmem : (m.1, m.2.toJson) ∈ membersWithStoredText members := by
        rw [← hjson, Bson.membersJson_eq_map]
        exact List.mem_map_of_mem hm
      rw [membersWithStoredText_eq_map] at hmem
      obtain ⟨m', -, heq⟩ := List.mem_map.1 hmem
      rw [← (Prod.mk.inj heq).2, withStoredText_withStoredText]
    -- the members come back in another order, with the identifier last
    obtain ⟨hperm, hagain⟩ :=
      @rename_rename "id" "_id" bs (hkeys ▸ h.distinct) (hkeys ▸ h.unused)
    refine ⟨_, documentOfRow_of_membersOf? hbs hplain, ⟨_, rfl, ?_⟩, ?_⟩
    · rw [← hjson, Bson.membersJson_eq_map, Bson.membersJson_eq_map]
      exact hperm.map _
    · have hback := documentOfRow_membersJson (fun m hm => hread m (hperm.mem_iff.1 hm))
        (fun m hm => htexts m (hperm.mem_iff.1 hm))
        fun key hkey => hplain key ((hperm.map Prod.fst).mem_iff.1 hkey)
      rwa [hagain] at hback

/-- Storable JSON has a document exactly if it is an object. -/
theorem exists_document_iff {json : Json} (h : json.IsStorable) :
    (∃ d, documentOfRow forms json = .ok d) ↔ ∃ members, json = .object members := by
  refine ⟨fun ⟨d, hd⟩ => ?_, ?_⟩
  · obtain ⟨b, hb, hjson⟩ := Bson.keeps_of_isStorable (isStorable_withStoredText h)
    rw [documentOfRow, hb] at hd
    cases b with
    | document ms =>
      cases json with
      | object members => exact ⟨members, rfl⟩
      | _ => cases hjson
    | _ => cases hd
  · rintro ⟨members, rfl⟩
    cases isStorable_withStoredText h with
    | object keys_plain values_storable =>
      obtain ⟨bs, hbs, hjson⟩ :=
        Bson.exists_members fun m hm => Bson.keeps_of_isStorable (values_storable m hm)
      rw [← hjson, Bson.keys_membersJson] at keys_plain
      exact ⟨_, documentOfRow_of_membersOf? hbs keys_plain⟩

/-! ## Inserts -/

/-- A call of a server. -/
inductive Call where
  | insert (documents : List Document)
  | count (filter : Document)
  | find (request : FindRequest)

section Inserts

variable {m : Type → Type} {ρ : Type} {wording : Wording}

/-- The same connection, which also writes down the calls that are made. -/
def Connection.recorded [Monad m] (c : Connection m) : Connection (StateT (List Call) m) where
  insert ds := fun calls => (·, calls ++ [.insert ds]) <$> c.insert ds
  count filter := fun calls => (·, calls ++ [.count filter]) <$> c.count filter
  find request := fun calls => (·, calls ++ [.find request]) <$> c.find request

/-- The row is written as JSON that is stored as the document. -/
def IsStoredAs (forms : WrittenForms) (codec : RowCodec ρ) (row : ρ) (d : Document) : Prop :=
  ∃ json, codec.encode row = .ok json ∧ documentOfRow forms json = .ok d

/-- The documents of rows are those of each row, in order. -/
theorem documentsOf_eq_ok_iff {codec : RowCodec ρ} {rows : List ρ} : ∀ {ds : List Document},
    documentsOf forms wording codec rows = .ok ds ↔
      List.Forall₂ (IsStoredAs forms codec) rows ds := by
  induction rows with
  | nil => simp [documentsOf, eq_comm]
  | cons row rows ih =>
    intro ds
    rw [List.forall₂_cons_left_iff, documentsOf]
    simp only [← ih, IsStoredAs]
    cases hjson : codec.encode row with
    | error reason => simp
    | ok json =>
      cases hd : documentOfRow forms json with
      | error fault => simp [hd]
      | ok d => cases documentsOf forms wording codec rows <;> simp [hd, Except.map, eq_comm]

variable [Monad m]

/-- Where there is nothing to insert, nothing is called. -/
theorem insertMany_of_nil {codec : RowCodec ρ} (c : Connection m) {rows : List ρ}
    (h : documentsOf forms wording codec rows = .ok []) :
    insertMany forms wording codec c rows = pure (.ok ()) := by
  rw [insertMany, h]

/-- Where a row cannot be stored, nothing is called. -/
theorem insertMany_of_error {codec : RowCodec ρ} (c : Connection m) {rows : List ρ}
    {f : StoreFailure} (h : documentsOf forms wording codec rows = .error f) :
    insertMany forms wording codec c rows = pure (.error f) := by
  rw [insertMany, h]

/-- Without a row, or with one that cannot be stored, no call is made. -/
theorem run_insertMany_of_none (forms : WrittenForms) (wording : Wording) (codec : RowCodec ρ)
    (c : Connection m)
    {rows : List ρ}
    (h : rows = [] ∨ ¬ ∃ ds, List.Forall₂ (IsStoredAs forms codec) rows ds) (calls : List Call) :
    ∃ answer, (insertMany forms wording codec c.recorded rows).run calls = pure (answer, calls) ∧
      (answer = .ok () ↔ rows = []) := by
  rcases h with rfl | hnone
  · exact ⟨.ok (), by rw [insertMany_of_nil c.recorded rfl]; rfl, by simp⟩
  · cases hds : documentsOf forms wording codec rows with
    | ok ds => exact absurd ⟨ds, documentsOf_eq_ok_iff.1 hds⟩ hnone
    | error f =>
      refine ⟨.error f, by rw [insertMany_of_error c.recorded hds]; rfl, iff_of_false nofun ?_⟩
      rintro rfl
      cases hds

/-- What becomes of the answer to an insert. -/
def insertAnswer (answer : Except String Unit) : Except StoreFailure Unit :=
  answer.mapError (failure "Failed to insert rows")

variable [LawfulMonad m]

/-- Documents are inserted with one call, whose answer is passed on. -/
theorem insertMany_of_ne_nil {codec : RowCodec ρ} (c : Connection m) {rows : List ρ}
    {ds : List Document} (h : documentsOf forms wording codec rows = .ok ds) (hne : ds ≠ []) :
    insertMany forms wording codec c rows = insertAnswer <$> c.insert ds := by
  obtain ⟨d, ds, rfl⟩ := List.exists_cons_of_ne_nil hne
  rw [insertMany, h, map_eq_pure_bind]
  refine bind_congr fun answer => ?_
  cases answer <;> rfl

theorem run_insertMany_of_ne_nil {codec : RowCodec ρ} (c : Connection m) {rows : List ρ}
    {ds : List Document} (h : documentsOf forms wording codec rows = .ok ds) (hne : ds ≠ [])
    (calls : List Call) :
    (insertMany forms wording codec c.recorded rows).run calls =
      (fun answer => (insertAnswer answer, calls ++ [.insert ds])) <$> c.insert ds := by
  rw [insertMany_of_ne_nil c.recorded h hne, StateT.run_map]
  exact Functor.map_map _ _ _

/-- Writing the calls down changes nothing else. -/
theorem fst_run_insertMany (forms : WrittenForms) (wording : Wording) (codec : RowCodec ρ)
    (c : Connection m) (rows : List ρ) (calls : List Call) :
    Prod.fst <$> (insertMany forms wording codec c.recorded rows).run calls =
      insertMany forms wording codec c rows := by
  cases hds : documentsOf forms wording codec rows with
  | error f =>
    rw [insertMany_of_error c.recorded hds, insertMany_of_error c hds]
    exact map_pure _ _
  | ok ds =>
    by_cases hne : ds = []
    · subst hne
      rw [insertMany_of_nil c.recorded hds, insertMany_of_nil c hds]
      exact map_pure _ _
    · rw [run_insertMany_of_ne_nil c hds hne, insertMany_of_ne_nil c hds hne, Functor.map_map]

/-- A row comes back from its document with the texts of its timestamps stored, and is stored as the
same document again; storable JSON has a document exactly if it is an object.  Rows are inserted with
one call that has the documents of all rows in order, if there are rows and each has a document, and
else with no call. -/
theorem rows_survive (forms : WrittenForms) (wording : Wording) (codec : RowCodec ρ)
    (c : Connection m) :
    (∀ members : Keyed Json, IsRow members →
      ∃ d, documentOfRow forms (.object members) = .ok d ∧
        (∃ back, rowOfDocument d = .object back ∧ back.Perm (membersWithStoredText members)) ∧
        documentOfRow forms (rowOfDocument d) = .ok d) ∧
    (∀ json : Json, json.IsStorable →
      ((∃ d, documentOfRow forms json = .ok d) ↔ ∃ members, json = .object members)) ∧
    ∀ (rows : List ρ) (calls : List Call),
      (∀ ds, rows ≠ [] → List.Forall₂ (IsStoredAs forms codec) rows ds →
        (insertMany forms wording codec c.recorded rows).run calls =
          (fun answer => (insertAnswer answer, calls ++ [.insert ds])) <$> c.insert ds) ∧
      ((rows = [] ∨ ¬ ∃ ds, List.Forall₂ (IsStoredAs forms codec) rows ds) →
        ∃ answer, (insertMany forms wording codec c.recorded rows).run calls = pure (answer, calls) ∧
          (answer = .ok () ↔ rows = [])) ∧
      Prod.fst <$> (insertMany forms wording codec c.recorded rows).run calls =
        insertMany forms wording codec c rows := by
  refine ⟨fun _ h => h.survives, fun _ h => exists_document_iff h, fun rows calls =>
    ⟨fun ds hne hds => ?_, fun h => run_insertMany_of_none forms wording codec c h calls,
      fst_run_insertMany forms wording codec c rows calls⟩⟩
  refine run_insertMany_of_ne_nil c (documentsOf_eq_ok_iff.2 hds) (fun h => hne ?_) calls
  subst h
  exact List.forall₂_nil_right_iff.1 hds

/-- A row with its identifier, a timestamp with an offset, and one that the offset moves to the year
before year 0. -/
def visit : Keyed Json :=
  [("id", .string "v1"), ("at", .string "2024-03-10T12:00:00+01:00"),
    ("log", .array [.object
      [("id", .number (.int 7)), ("first", .string "0000-01-01T00:00:00+01:00")]])]

/-- A server that accepts everything and has nothing. -/
def acceptor : Connection Id where
  insert _ := .ok ()
  count _ := .ok 0
  find _ := .ok []

theorem visit_isRow : IsRow visit where
  storable := by
    refine .object (by decide +kernel) ?_
    simp only [visit, List.forall_mem_cons, List.not_mem_nil, false_implies, implies_true, and_true]
    refine ⟨.string _, .string _, .array ?_⟩
    simp only [List.forall_mem_singleton]
    refine .object (by decide +kernel) ?_
    simp only [List.forall_mem_cons, List.not_mem_nil, false_implies, implies_true, and_true]
    exact ⟨.whole (by decide), .string _⟩
  distinct := by decide +kernel
  unused := by decide +kernel

theorem visit_survives :
    (∃ d back, documentOfRow scalarForms (.object visit) = .ok d ∧ rowOfDocument d = .object back ∧
      back.Perm
        [("id", .string "v1"), ("at", .string "2024-03-10T11:00:00.000000000Z"),
          ("log", .array [.object
            [("id", .number (.int 7)), ("first", .string "-0001-12-31T23:00:00.000000000Z")]])] ∧
      documentOfRow scalarForms (.object back) = .ok d) ∧
    (∃ d, (insertMany scalarForms plainWording ⟨.ok, .ok⟩ acceptor.recorded
      [Json.object visit]).run [] = (.ok (), [.insert [d]])) ∧
    ∃ f, (insertMany scalarForms plainWording ⟨.ok, .ok⟩ acceptor.recorded
      [Json.object visit, .null]).run [] = (.error f, []) := by
  obtain ⟨hrows, hobjects, hinsert⟩ := rows_survive (m := Id) scalarForms plainWording
    ⟨Except.ok, Except.ok⟩ acceptor
  obtain ⟨d, hd, ⟨back, hback, hperm⟩, hagain⟩ := hrows visit visit_isRow
  have hnull : ¬ ∃ d, documentOfRow scalarForms .null = .ok d := fun h => by
    obtain ⟨members, hmembers⟩ := (hobjects .null .null).1 h
    cases hmembers
  refine ⟨⟨d, back, hd, hback, ?_, hback ▸ hagain⟩, ⟨d, ?_⟩, ?_⟩
  · have hfirst : storedText "v1" = "v1" := by decide +kernel
    have hzoned : storedText "2024-03-10T12:00:00+01:00" = "2024-03-10T11:00:00.000000000Z" := by
      decide +kernel
    have hearly : storedText "0000-01-01T00:00:00+01:00" = "-0001-12-31T23:00:00.000000000Z" := by
      decide +kernel
    simpa only [visit, membersWithStoredText, withStoredText, itemsWithStoredText, hfirst, hzoned,
      hearly] using hperm
  · exact (hinsert [.object visit] []).1 [d] (List.cons_ne_nil _ _)
      (.cons ⟨_, rfl, hd⟩ .nil)
  · have hnone : ¬ ∃ ds,
        List.Forall₂ (IsStoredAs scalarForms ⟨.ok, .ok⟩) [Json.object visit, .null] ds := by
      rintro ⟨_, _ | ⟨-, hrest⟩⟩
      cases hrest with
      | cons hstored _ =>
        obtain ⟨json, hjson, hstored⟩ := hstored
        cases hjson
        exact hnull ⟨_, hstored⟩
    obtain ⟨answer, hrun, hanswer⟩ := (hinsert [.object visit, .null] []).2.1 (.inr hnone)
    cases answer with
    | error f => exact ⟨f, hrun⟩
    | ok => exact absurd (hanswer.1 rfl) (List.cons_ne_nil _ _)

end Inserts

end Mongo

end ListingQuery
