import ListingQuery.Predicate.Matches
import ListingQuery.Proofs.Calendar.FixedText
import ListingQuery.Proofs.Mongo.Addressing

/-!
# Dates in stored documents

The server orders strings by their bytes.  A timestamp is stored in its fixed text, as the literals
of filters are rendered, so filters and sorts on stored timestamps follow the order in time, as they
do on rows:

    compareBytes (storedText s) b.fixedText = a.compare b     for a timestamp s that reads as a

The other forms of a date, and timestamps between blanks, are stored as they are.  None of them is
where its instant is among the rendered literals          (storedInTime_iff).
-/

namespace ListingQuery.Mongo

open Calendar (Instant)
open Text (compareBytes compareBytes_eq)

/-! ## The server's side -/

namespace Bson

/-- The order of two strings in the store; there is none for other values. -/
def compareTexts? : Bson → Bson → Option Ordering
  | string x, string y => some (compareBytes x y)
  | _, _ => none

/-- The elements of an array; any other value is its own only element. -/
def elements : Bson → List Bson
  | array items => items
  | v => [v]

/-- What the server's test of a key looks at: the values there, with arrays opened one level. -/
def elementsAt (v : Bson) (key : String) : List Bson :=
  (v.valuesAt (FieldPath.ofDotted key)).flatMap elements

end Bson

/-- Whether a condition with the operator of a comparison and this text selects a document with these
values at its key. -/
def selectsText (op : Comparison) (found : List Bson) (text : Bson) : Bool :=
  match op with
  | .ne => !found.any fun v => v.compareTexts? text == some .eq
  | op => found.any fun v => (v.compareTexts? text).any op.admits

/-! ## Stored timestamps -/

/-- A timestamp of a year with four digits. -/
def IsTimestamp (s : String) (a : Instant) : Prop :=
  Instant.ofTimestamp? s = some a ∧ a.HasPlainYear

/-- The stored form of the text is where the instant is among the rendered dates. -/
def StoredInTime (s : String) (a : Instant) : Prop :=
  ∀ b : Instant, b.IsSteady → b.HasPlainYear → compareBytes (storedText s) b.fixedText = a.compare b

theorem storedText_of_ofTimestamp? {s : String} {a : Instant}
    (h : Instant.ofTimestamp? s = some a) : storedText s = a.fixedText := by
  rw [storedText, storedTimestamp?, h]
  rfl

theorem storedText_of_ofTimestamp?_eq_none {s : String} (h : Instant.ofTimestamp? s = none) :
    storedText s = s := by
  rw [storedText, storedTimestamp?, h]
  rfl

namespace IsTimestamp

variable {s t : String} {a b : Instant}

theorem ofText? (h : IsTimestamp s a) : Instant.ofText? s = some a :=
  Instant.ofText?_of_ofTimestamp? h.1

theorem isSteady (h : IsTimestamp s a) : a.IsSteady := Instant.isSteady_of_ofText? h.ofText?

theorem storedInTime (h : IsTimestamp s a) : StoredInTime s a := by
  intro b hb hyear
  rw [storedText_of_ofTimestamp? h.1, compareBytes_eq,
    Instant.compare_fixedText h.isSteady hb h.2 hyear]

/-- Two stored timestamps are ordered as the strings of the rows. -/
theorem compareBytes_storedText (hs : IsTimestamp s a) (ht : IsTimestamp t b) :
    compareBytes (storedText s) (storedText t) = Document.compareStrings s t := by
  rw [storedText_of_ofTimestamp? ht.1, hs.storedInTime b ht.isSteady ht.2,
    Document.compareStrings, hs.ofText?, ht.ofText?]

end IsTimestamp

/-- A text is stored in time exactly if it is a timestamp. -/
theorem storedInTime_iff {s : String} {a : Instant} (hread : Instant.ofText? s = some a)
    (hyear : a.HasPlainYear) : StoredInTime s a ↔ (Instant.ofTimestamp? s).isSome = true := by
  constructor
  · intro h
    by_contra hnone
    rw [Option.not_isSome_iff_eq_none] at hnone
    have hsteady := Instant.isSteady_of_ofText? hread
    have heq := h a hsteady hyear
    -- the text equals its fixed text, which is a timestamp
    rw [a.compare_self, compareBytes_eq, storedText_of_ofTimestamp?_eq_none hnone,
      Std.LawfulEqOrd.compare_eq_iff_eq] at heq
    rw [heq, Instant.ofTimestamp?_fixedText hsteady hyear] at hnone
    cases hnone
  · intro h
    obtain ⟨t, ht⟩ := Option.isSome_iff_exists.1 h
    have hsame : t = a := Option.some.inj ((Instant.ofText?_of_ofTimestamp? ht).symm.trans hread)
    subst hsame
    exact IsTimestamp.storedInTime ⟨ht, hyear⟩

/-! ## Filters on stored timestamps -/

section Filters

variable {forms : WrittenForms}

theorem Bson.elements_of_isLeaf {b : Bson} (h : b.isLeaf = true) : b.elements = [b] := by
  cases b with
  | array => cases h
  | _ => rfl

/-- The elements of a stored value are the stored elements of the value. -/
theorem elements_stored {v : Json} {b : Bson} (hb : stored? forms v = some b) :
    b.elements.map some = v.elements.map (stored? forms) := by
  cases v with
  | array items =>
    rw [stored?, withStoredText, Bson.ofJson?, Option.map_eq_some_iff] at hb
    obtain ⟨bs, hbs, rfl⟩ := hb
    exact ofItems?_eq_some hbs
  | object members =>
    have hself : b.elements = [b] := by
      obtain ⟨bs, rfl, -⟩ := stored?_object hb
      rcases Bson.ofMembers_cases forms bs with h | hleaf
      · rw [h]
        rfl
      · exact Bson.elements_of_isLeaf hleaf
    rw [hself, List.map_singleton, ← hb]
    rfl
  | number n =>
    cases n with
    | int n =>
      have hself : b.elements = [b] := by
        rw [stored?, withStoredText, Bson.ofJson?] at hb
        · split at hb <;> cases hb
          rfl
        all_goals simp
      rw [hself, List.map_singleton, ← hb]
      rfl
    | float x =>
      cases hb
      rfl
  | _ =>
    cases hb
    rfl

theorem flatMap_elements_stored {vs : List Json} {bs : List Bson}
    (h : bs.map some = vs.map (stored? forms)) :
    (bs.flatMap Bson.elements).map some = (vs.flatMap Json.elements).map (stored? forms) := by
  induction vs generalizing bs with
  | nil =>
    rw [List.map_nil, List.map_eq_nil_iff] at h
    rw [h]
    rfl
  | cons v vs ih =>
    match bs with
    | [] => cases h
    | b :: bs =>
      simp only [List.map_cons, List.cons.injEq] at h
      rw [List.flatMap_cons, List.flatMap_cons, List.map_append, List.map_append, ih h.2,
        elements_stored h.1.symm]

/-- Every element is a timestamp. -/
def AllTimestamps (found : List Json) : Prop :=
  ∀ v ∈ found, ∃ s a, v = .string s ∧ IsTimestamp s a

/-- A stored timestamp compares with a rendered date as the evaluator compares the row's value. -/
theorem compareStored?_date {s : String} {a b : Instant} (hs : IsTimestamp s a) (hb : b.IsSteady)
    (hyear : b.HasPlainYear) :
    (Literal.date b).compareStored? (.string s) =
      some (compareBytes (storedText s) b.fixedText) := by
  have htyped : (Literal.date b).typed? (.string s) = some (.date a) := by
    show (Instant.ofText? s).map Literal.date = some (.date a)
    rw [hs.ofText?]
    rfl
  rw [Literal.compareStored?, htyped, hs.storedInTime b hb hyear]
  rfl

/-- A comparison with a date, other than by `ne`, asks for an element in order. -/
theorem comparesAny_date (found : List Json) {op : Comparison} (hne : op ≠ .ne) (b : Instant) :
    Predicate.comparesAny found op (.date b) =
      found.any fun v => ((Literal.date b).compareStored? v).any op.admits := by
  unfold Predicate.comparesAny
  cases op with
  | ne => exact absurd rfl hne
  | eq =>
    apply congrArg found.any
    funext v
    show ((Literal.date b).compareStored? v == some .eq) = _
    cases (Literal.date b).compareStored? v <;> rfl
  | _ =>
    apply congrArg found.any
    funext v
    cases (Literal.date b).compareStored? v <;> rfl

theorem selectsText_of_ne (found : List Bson) {op : Comparison} (hne : op ≠ .ne) (text : Bson) :
    selectsText op found text = found.any fun v => (v.compareTexts? text).any op.admits := by
  cases op with
  | ne => exact absurd rfl hne
  | _ => rfl

/-- On stored timestamps, a condition selects what the evaluator selects. -/
theorem selectsText_stored {found : List Json} {bs : List Bson}
    (hstored : bs.map some = found.map (stored? forms)) (hfound : AllTimestamps found)
    (op : Comparison) {b : Instant} (hb : b.IsSteady) (hyear : b.HasPlainYear) :
    selectsText op bs (literalBson (.date b)) = Predicate.comparesAny found op (.date b) := by
  have hany (test : Option Ordering → Bool) :
      (bs.any fun v => test (v.compareTexts? (literalBson (.date b)))) =
        found.any fun v => test ((Literal.date b).compareStored? v) := by
    induction found generalizing bs with
    | nil =>
      rw [List.map_nil, List.map_eq_nil_iff] at hstored
      rw [hstored]
      rfl
    | cons v found ih =>
      obtain ⟨⟨s, a, rfl, hs⟩, hrest⟩ := List.forall_mem_cons.1 hfound
      match bs with
      | [] => cases hstored
      | v' :: bs =>
        simp only [List.map_cons, List.cons.injEq] at hstored
        obtain ⟨hv, htail⟩ := hstored
        have hv' : v' = .string (storedText s) := Option.some.inj hv
        subst hv'
        rw [List.any_cons, List.any_cons, ih htail hrest, compareStored?_date hs hb hyear]
        rfl
  by_cases hne : op = .ne
  · subst hne
    show (!bs.any fun v => v.compareTexts? (literalBson (.date b)) == some .eq) = _
    rw [hany fun o? => o? == some .eq]
    rfl
  · rw [selectsText_of_ne bs hne, comparesAny_date found hne, hany fun o? => o?.any op.admits]

end Filters

/-! ## Dates as the evaluator sees them -/

/-- Stored dates compare as instants with rendered dates exactly if they are timestamps; other texts
are stored as they are.  On timestamps, conditions select the rows that the evaluator selects, and
sorts order them as it does. -/
theorem stored_dates_follow_time (forms : WrittenForms) :
    (∀ s a, Instant.ofText? s = some a → a.HasPlainYear →
      (StoredInTime s a ↔ (Instant.ofTimestamp? s).isSome = true)) ∧
    (∀ s, Instant.ofTimestamp? s = none → storedText s = s) ∧
    (∀ (members : Keyed Json) (d : Document) (field : FieldPath),
      AddressesInDocument forms (storedKey field) field → Keyed.get? members "_id" = none →
      documentOfRow forms (.object members) = .ok d →
      AllTimestamps ((Json.object members).elementsAt field) →
      ∀ (op : Comparison) (b : Instant), b.IsSteady → b.HasPlainYear →
        selectsText op ((Bson.document d).elementsAt (storedKey field)) (literalBson (.date b)) =
          (Predicate.compare field op (.date b)).holds (.object members)) ∧
    (∀ s t a b, IsTimestamp s a → IsTimestamp t b →
      compareBytes (storedText s) (storedText t) =
        Document.compareValues (.string s) (.string t)) := by
  refine ⟨fun s a => storedInTime_iff, fun s => storedText_of_ofTimestamp?_eq_none, ?_,
    fun s t a b => IsTimestamp.compareBytes_storedText⟩
  intro members d field haddresses hnone hd hfound op b hb hyear
  exact selectsText_stored (flatMap_elements_stored (haddresses members d hnone hd)) hfound op hb
    hyear

/-- The start of the year 2024. -/
def newYear2024 : Instant := ⟨⟨2024, 1, 1, rfl⟩, 0, 0, Nat.zero_lt_succ _, Nat.zero_lt_succ _⟩

/-- Midnight in the zone two hours ahead is a timestamp of the evening before: its row is found by
`$lt` the new year, and the text of the row is less than that of the new year. -/
theorem zonedMidnight_follows_time :
    let zoned := "2024-01-01T00:00:00+02:00"
    let row : Json := .object [("at", .string zoned)]
    let document : Document := [("at", .string "2023-12-31T22:00:00.000000000Z")]
    documentOfRow scalarForms row = .ok document ∧
      compareBytes (storedText zoned) newYear2024.fixedText = .lt ∧
      selectsText .lt ((Bson.document document).elementsAt "at") (literalBson (.date newYear2024)) =
        (Predicate.compare ["at"] .lt (.date newYear2024)).holds row ∧
      compareBytes (storedText zoned) (storedText "2024-01-01T00:00:00Z") =
        Document.compareValues (.string zoned) (.string "2024-01-01T00:00:00Z") := by
  intro zoned row document
  let evening : Instant := ⟨⟨2023, 12, 31, by decide⟩, 79200, 0, by decide, by decide⟩
  have hzoned : IsTimestamp zoned evening := ⟨by decide +kernel, by decide, by decide⟩
  have hnew : IsTimestamp "2024-01-01T00:00:00Z" newYear2024 :=
    ⟨by decide +kernel, by decide, by decide⟩
  have hsteady : newYear2024.IsSteady := .inl (by decide)
  have hyear : newYear2024.HasPlainYear := ⟨by decide, by decide⟩
  have hstored : storedText zoned = "2023-12-31T22:00:00.000000000Z" := by decide +kernel
  have hdocument : documentOfRow scalarForms row = .ok document := by
    show documentOfRow scalarForms (.object [("at", .string zoned)]) = _
    simp only [documentOfRow, withStoredText, membersWithStoredText, hstored]
    rfl
  have haddresses : AddressesInDocument scalarForms (storedKey ["at"]) ["at"] :=
    addressesInDocument_member (by simp [FieldPath.IsDotless]) (by decide) (by decide) trivial
  obtain ⟨hdates, -, hfilters, hsorts⟩ := stored_dates_follow_time scalarForms
  have hlt := (hdates zoned evening (by decide +kernel) ⟨by decide, by decide⟩).2 (by decide +kernel)
    newYear2024 hsteady hyear
  refine ⟨hdocument, hlt.trans (by decide +kernel), ?_, hsorts _ _ _ _ hzoned hnew⟩
  refine hfilters [("at", .string zoned)] document ["at"] haddresses rfl hdocument ?_ .lt
    newYear2024 hsteady hyear
  intro v hv
  rw [List.mem_singleton.1 hv]
  exact ⟨zoned, evening, rfl, hzoned⟩

/-- A day that is stored as it is stands before the midnight that it means; and an instant whose
fraction goes on past one second within a minute is rendered behind the second that follows it. -/
theorem dayText_stored_before_its_midnight :
    let late : Instant := ⟨⟨2024, 1, 1, by decide⟩, 10, 1500000000, by decide, by decide⟩
    let next : Instant := ⟨⟨2024, 1, 1, by decide⟩, 11, 0, by decide, by decide⟩
    (Instant.ofText? "2024-01-01" = some newYear2024 ∧
      compareBytes (storedText "2024-01-01") newYear2024.fixedText = .lt ∧
      newYear2024.compare newYear2024 = .eq) ∧
    (Instant.ofText? "2024-01-01T00:00:11Z" = some next ∧
      compareBytes (storedText "2024-01-01T00:00:11Z") late.fixedText = .lt ∧
      next.compare late = .gt) := by
  simp only [compareBytes_eq]
  decide +kernel

end ListingQuery.Mongo
