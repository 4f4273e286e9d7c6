import ListingQuery.Document.Order

/-!
# The field that decides

Documents are ordered by the first sort field whose values differ, in the direction of the first key
on that field.  A field that comes again never decides, whatever its direction then.

    compareBy keys a b is decided at the first field that differs     (compareBy_eq_decided)

So two lists of keys order all documents alike if they come to the fields in the same order and give
each the same direction when they first do                            (compareBy_congr).
-/

namespace ListingQuery.Document

/-! ## First and last directions -/

/-- The direction of the first key on a field. -/
def firstDirection? (keys : List SortKey) (field : FieldPath) : Option Direction :=
  (keys.find? fun key => key.field == field).map SortKey.direction

/-- The direction of the last key on a field. -/
def lastDirection? (keys : List SortKey) (field : FieldPath) : Option Direction :=
  firstDirection? keys.reverse field

theorem firstDirection?_cons_self (key : SortKey) (keys : List SortKey) :
    firstDirection? (key :: keys) key.field = some key.direction := by
  simp [firstDirection?]

theorem firstDirection?_cons_of_ne {key : SortKey} {field : FieldPath} (h : key.field ≠ field)
    (keys : List SortKey) : firstDirection? (key :: keys) field = firstDirection? keys field := by
  simp [firstDirection?, h]

theorem firstDirection?_eq_none_iff {keys : List SortKey} {field : FieldPath} :
    firstDirection? keys field = none ↔ ∀ key ∈ keys, key.field ≠ field := by
  simp [firstDirection?]

/-! ## Deciding -/

/-- Whether the values at a field differ in order. -/
def differAt (a b : Json) (field : FieldPath) : Bool :=
  compareValues (sortValue a field) (sortValue b field) != .eq

/-- The order that keys give to documents by the given field, the first that differs. -/
def decided (keys : List SortKey) (a b : Json) : Option FieldPath → Ordering
  | none => .eq
  | some field => ((firstDirection? keys field).getD .asc).orient
      (compareValues (sortValue a field) (sortValue b field))

theorem compareBy_eq_decided (keys : List SortKey) (a b : Json) :
    compareBy keys a b = decided keys a b ((keys.map SortKey.field).find? (differAt a b)) := by
  induction keys with
  | nil => rfl
  | cons key keys ih =>
    rw [compareBy, ih, List.map_cons, List.find?_cons]
    by_cases hkey : compareValues (sortValue a key.field) (sortValue b key.field) = .eq
    · have hsame : differAt a b key.field = false := by simp [differAt, hkey]
      have hequal : key.direction.orient .eq = .eq := by cases key.direction <;> rfl
      rw [hkey, hequal, hsame]
      show decided keys a b _ = decided (key :: keys) a b _
      -- the field found later is another one, so its first key is the same
      cases hfind : (keys.map SortKey.field).find? (differAt a b) with
      | none => rfl
      | some field =>
        have hdiffer : differAt a b field = true := List.find?_some hfind
        have hne : key.field ≠ field := by
          rintro rfl
          rw [hsame] at hdiffer
          cases hdiffer
        rw [decided, decided, firstDirection?_cons_of_ne hne]
    · have hdiffer : differAt a b key.field = true := by simp [differAt, hkey]
      rw [hdiffer, decided, firstDirection?_cons_self, Option.getD_some]
      cases key.direction <;>
        cases hvalue : compareValues (sortValue a key.field) (sortValue b key.field) <;>
        first | rfl | exact absurd hvalue hkey

/-- Keys that come to all fields in the same order, with the same first directions, order documents
alike. -/
theorem compareBy_congr {keys keys' : List SortKey}
    (hfields : ∀ p, (keys.map SortKey.field).find? p = (keys'.map SortKey.field).find? p)
    (hdirections : ∀ field, firstDirection? keys field = firstDirection? keys' field) (a b : Json) :
    compareBy keys a b = compareBy keys' a b := by
  rw [compareBy_eq_decided, compareBy_eq_decided, hfields]
  cases (keys'.map SortKey.field).find? (differAt a b) with
  | none => rfl
  | some field => rw [decided, decided, hdirections]

end ListingQuery.Document
