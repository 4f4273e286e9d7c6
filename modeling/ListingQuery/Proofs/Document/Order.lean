import ListingQuery.Document.Order

/-!
# Comparing the other way round

The order of two documents is the reverse of their order the other way round, whatever the sort keys
and the values at them, doubles that are no numbers included.

    compareBy keys b a = (compareBy keys a b).swap                    (compareBy_swap)
-/

namespace ListingQuery

open Std (OrientedCmp)

/-! ## Doubles -/

namespace Literal

theorem unpacked_compare_swap (x y : Float.Model.UnpackedFloat) :
    y.compare x = (x.compare y).map Ordering.swap := by
  -- exponents first, then mantissas; both the other way round for negative numbers
  have hparts (m n : Nat) (e f : Int) : (Ord.compare f e).then (Ord.compare n m) =
      ((Ord.compare e f).then (Ord.compare m n)).swap := by
    rw [Ordering.swap_then, ← OrientedCmp.eq_swap, ← OrientedCmp.eq_swap]
  cases x with
  | notANumber => cases y <;> rfl
  | infinity s =>
    cases y with
    | infinity t => cases s <;> cases t <;> rfl
    | _ => cases s <;> rfl
  | zero s =>
    cases y with
    | infinity t => cases t <;> rfl
    | finite t => cases t <;> rfl
    | _ => rfl
  | finite s m e =>
    cases y with
    | notANumber => rfl
    | infinity t => cases s <;> cases t <;> rfl
    | zero t => cases s <;> rfl
    | finite t n f =>
      cases s <;> cases t
      · exact congrArg some (congrArg Ordering.swap (hparts _ _ _ _))
      · rfl
      · rfl
      · exact congrArg some (hparts _ _ _ _)

theorem float_lt_iff (x y : Float) :
    x < y ↔ x.toModel.unpack.compare y.toModel.unpack = some .lt := by
  show Float.lt x y = true ↔ _
  rw [Float.lt, decide_eq_true_iff]
  show (Float.Model.UnpackedFloat.compare _ _ == some .lt) = true ↔ _
  rw [beq_iff_eq]

theorem float_beq_iff (x y : Float) :
    (x == y) = true ↔ x.toModel.unpack.compare y.toModel.unpack = some .eq := by
  show (Float.Model.UnpackedFloat.compare _ _ == some .eq) = true ↔ _
  rw [beq_iff_eq]

/-- Two doubles are ordered as the numbers they stand for. -/
theorem compareFloat_eq (x y : Float) :
    compareFloat x y = x.toModel.unpack.compare y.toModel.unpack := by
  have hback : y < x ↔ x.toModel.unpack.compare y.toModel.unpack = some .gt := by
    rw [float_lt_iff, unpacked_compare_swap]
    cases x.toModel.unpack.compare y.toModel.unpack with
    | none => simp
    | some o => cases o <;> simp
  rw [compareFloat]
  simp only [float_lt_iff x y, float_beq_iff, hback]
  cases x.toModel.unpack.compare y.toModel.unpack with
  | none => rfl
  | some o => cases o <;> rfl

theorem compareFloat_swap (x y : Float) :
    compareFloat y x = (compareFloat x y).map Ordering.swap := by
  rw [compareFloat_eq, compareFloat_eq, unpacked_compare_swap]

end Literal

/-! ## Documents -/

namespace Calendar

theorem Date.compare_swap (a b : Date) : b.compare a = (a.compare b).swap := by
  rw [Date.compare, Date.compare, Ordering.swap_then, Ordering.swap_then, ← OrientedCmp.eq_swap,
    ← OrientedCmp.eq_swap, ← OrientedCmp.eq_swap]

theorem Instant.compare_swap (a b : Instant) : b.compare a = (a.compare b).swap := by
  rw [Instant.compare, Instant.compare, Ordering.swap_then, Ordering.swap_then,
    ← Date.compare_swap, ← OrientedCmp.eq_swap, ← OrientedCmp.eq_swap]

end Calendar

namespace Document

theorem compareNumbers_swap (x y : Number) :
    compareNumbers y x = (compareNumbers x y).swap := by
  have hexact (m n : Int) : compare n m = (compare m n).swap := OrientedCmp.eq_swap
  have hfloat : (Literal.compareFloat y.toFloat x.toFloat).getD .eq =
      ((Literal.compareFloat x.toFloat y.toFloat).getD .eq).swap := by
    rw [Literal.compareFloat_swap]
    cases Literal.compareFloat x.toFloat y.toFloat <;> rfl
  rw [compareNumbers, compareNumbers]
  cases x.int64? with
  | none => cases y.int64? <;> exact hfloat
  | some m =>
    cases y.int64? with
    | none => exact hfloat
    | some n => exact hexact m n

theorem compareStrings_swap (x y : String) :
    compareStrings y x = (compareStrings x y).swap := by
  have htext : compare y x = (compare x y).swap := OrientedCmp.eq_swap
  rw [compareStrings, compareStrings]
  cases Calendar.Instant.ofText? x with
  | none => cases Calendar.Instant.ofText? y <;> exact htext
  | some a =>
    cases Calendar.Instant.ofText? y with
    | none => exact htext
    | some b => exact a.compare_swap b

theorem compareValues_swap (x y : Json) : compareValues y x = (compareValues x y).swap := by
  have hbool (a b : Bool) : compare b a = (compare a b).swap := OrientedCmp.eq_swap
  have hrank : compare (rank y) (rank x) = (compare (rank x) (rank y)).swap :=
    OrientedCmp.eq_swap
  cases x with
  | bool a =>
    cases y with
    | bool b => exact hbool a b
    | _ => exact hrank
  | number a =>
    cases y with
    | number b => exact compareNumbers_swap a b
    | _ => exact hrank
  | string a =>
    cases y with
    | string b => exact compareStrings_swap a b
    | _ => exact hrank
  | _ => cases y <;> exact hrank

/-- Documents compare the other way round in reverse. -/
theorem compareBy_swap (keys : List SortKey) (a b : Json) :
    compareBy keys b a = (compareBy keys a b).swap := by
  induction keys with
  | nil => rfl
  | cons key keys ih =>
    rw [compareBy, compareBy, Ordering.swap_then, ← ih, compareValues_swap]
    cases key.direction <;> rfl

end Document

end ListingQuery
