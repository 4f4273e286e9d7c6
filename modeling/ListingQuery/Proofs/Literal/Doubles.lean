import Mathlib
import ListingQuery.Proofs.Document.Order

/-!
# Doubles that are numbers

Doubles that are numbers are ordered as keys: first the class (negative or positive, infinite or
not), then the exponent, then the mantissa.

    x.compare y = compare (unpackedKey x) (unpackedKey y)             (unpacked_compare_eq)

The double of a whole number is a number                              (isNaN_ofInt)
-/

namespace ListingQuery.Doubles

open Float.Model (UnpackedFloat Format)
open Float.Model.UnpackedFloat
open Literal (compareFloat compareFloat_eq)

/-! ## Keys -/

/-- The parts of a double in the order in which they are compared. -/
def unpackedKey : UnpackedFloat → List Int
  | .notANumber => []
  | .infinity .negative => [-2]
  | .finite .negative m e _ => [-1, -e, -m]
  | .zero _ => [0]
  | .finite .positive m e _ => [1, e, m]
  | .infinity .positive => [2]

theorem compare_neg (m n : Int) : compare (-m) (-n) = (compare m n).swap := by
  rcases Int.lt_trichotomy m n with h | h | h
  · rw [Int.compare_eq_lt.2 h, Int.compare_eq_gt.2 (by omega)]
    rfl
  · rw [Int.compare_eq_eq.2 h, Int.compare_eq_eq.2 (by omega)]
    rfl
  · rw [Int.compare_eq_gt.2 h, Int.compare_eq_lt.2 (by omega)]
    rfl

theorem compare_natCast (m n : Nat) : compare (m : Int) (n : Int) = compare m n := by
  rcases Nat.lt_trichotomy m n with h | h | h
  · rw [Nat.compare_eq_lt.2 h, Int.compare_eq_lt.2 (by omega)]
  · rw [Nat.compare_eq_eq.2 h, Int.compare_eq_eq.2 (by omega)]
  · rw [Nat.compare_eq_gt.2 h, Int.compare_eq_gt.2 (by omega)]

/-- Numbers are ordered as their keys. -/
theorem unpacked_compare_eq {x y : UnpackedFloat} (hx : x.isNaN = false) (hy : y.isNaN = false) :
    x.compare y = some (compare (unpackedKey x) (unpackedKey y)) := by
  have hparts (m n : Nat) (e f : Int) : compare [e, (m : Int)] [f, (n : Int)] =
      (compare e f).then (compare m n) := by
    simp only [List.compare_cons_cons, compare_natCast, List.compare_nil_nil, Ordering.then_eq]
  have hnegative (m n : Nat) (e f : Int) : compare [-e, -(m : Int)] [-f, -(n : Int)] =
      ((compare e f).then (compare m n)).swap := by
    simp only [List.compare_cons_cons, compare_neg, compare_natCast, List.compare_nil_nil,
      Ordering.then_eq, Ordering.swap_then]
  cases x with
  | notANumber => cases hx
  | infinity s =>
    cases y with
    | notANumber => cases hy
    | infinity t => cases s <;> cases t <;> rfl
    | zero t => cases s <;> rfl
    | finite t => cases s <;> cases t <;> rfl
  | zero s =>
    cases y with
    | notANumber => cases hy
    | infinity t => cases t <;> rfl
    | zero t => rfl
    | finite t => cases t <;> rfl
  | finite s m e =>
    cases y with
    | notANumber => cases hy
    | infinity t => cases s <;> cases t <;> rfl
    | zero t => cases s <;> rfl
    | finite t n f =>
      cases s <;> cases t
      · exact congrArg some (hnegative m n e f).symm
      · rfl
      · rfl
      · exact congrArg some (hparts m n e f).symm

/-- The key of a double. -/
def floatKey (x : Float) : List Int := unpackedKey x.toModel.unpack

theorem compareFloat_eq_compare {x y : Float} (hx : x.isNaN = false) (hy : y.isNaN = false) :
    compareFloat x y = some (compare (floatKey x) (floatKey y)) := by
  rw [compareFloat_eq]
  exact unpacked_compare_eq hx hy

theorem isNaN_of_isFinite {x : Float} (h : x.isFinite = true) : x.isNaN = false := by
  have h : x.toModel.unpack.isFinite = true := h
  show x.toModel.unpack.isNaN = false
  cases hx : x.toModel.unpack <;> simp_all [UnpackedFloat.isFinite, UnpackedFloat.isNaN]

/-! ## Whole numbers -/

/-- A number is packed as a number. -/
theorem isNaN_unpack_pack {u : UnpackedFloat} (h : u.isNaN = false) :
    (Float.Model.pack u).unpack.isNaN = false := by
  show (unpack .binary64 (UnpackedFloat.pack .binary64 u)).isNaN = false
  have hinfinity (s : Sign) : (unpack .binary64 (packedInfinity .binary64 s)).isNaN = false := by
    cases s <;> rfl
  -- a biased exponent below the highest is not that of infinity
  have hcomponents (s : Sign) (e : BitVec 11) (m : BitVec 52) (he : e ≠ -1#11) :
      (unpack .binary64 (packComponents .binary64 s e m)).isNaN = false := by
    rw [unpack]
    simp only [unpackMantissa_packComponents, unpackExponent_packComponents]
    rw [if_neg he]
    split
    · split <;> rfl
    · rfl
  fun_cases UnpackedFloat.pack with
  | case1 => cases h
  | case2 s => exact hinfinity s
  | case3 s => exact hcomponents s 0 0 (by decide)
  | case4 s => exact hinfinity s
  | case5 s m e hm _ biased hbiased =>
    refine hcomponents s _ _ fun heq => ?_
    have heq := congrArg BitVec.toNat heq
    have hbound : (2 : Nat) ^ 11 = 2048 := by decide
    have hhighest : (-1#11 : BitVec 11).toNat = 2047 := by decide
    rw [BitVec.toNat_ofNat, hhighest] at heq
    rw [hbound] at heq
    have hbiased : ¬ 2 ^ 11 ≤ biased + 1 := hbiased
    rw [Nat.mod_eq_of_lt (by omega)] at heq
    omega
  | case6 s m => exact hcomponents s _ _ (by decide)

theorem isNaN_roundWithAccuracy (spec : Format) (s : Sign) (m : Nat) (e : Int) (a : Accuracy) :
    (roundWithAccuracy spec s m e a).isNaN = false := by
  rw [roundWithAccuracy]
  dsimp only
  split <;> rfl

theorem isNaN_unpacked_ofInt (spec : Format) (n : Int) :
    (UnpackedFloat.ofInt spec n).isNaN = false := by
  rw [UnpackedFloat.ofInt, UnpackedFloat.normalize]
  split
  · exact isNaN_roundWithAccuracy ..
  · rfl
  · exact isNaN_roundWithAccuracy ..

/-- A product with a number that is neither infinite nor zero is a number. -/
theorem isNaN_unpacked_mul (spec : Format) {x : UnpackedFloat} (hx : x.isNaN = false) (s : Sign)
    (m : Nat) (e : Int) (hm : 0 < m) : (UnpackedFloat.mul spec x (.finite s m e hm)).isNaN = false := by
  cases x with
  | notANumber => cases hx
  | finite => exact isNaN_roundWithAccuracy ..
  | _ => rfl

/-- The double of one. -/
def one : UnpackedFloat := .finite .positive (2 ^ 52) (-52) (by decide)

/-- Numbers of few digits are multiplied by ten to the power of zero, others are scaled. -/
theorem unpack_ofNat (n : Nat) : (Float.ofNat n).toModel.unpack =
    (Float.Model.pack (if n < 2 ^ 53 then
      UnpackedFloat.mul .binary64
        (Float.Model.pack (UnpackedFloat.ofInt .binary64 n.toUInt64.toNat)).unpack one
      else UnpackedFloat.ofScientific .binary64 n 0)).unpack := by
  have hone : (Float.Model.ofBits 0x3FF0000000000000).unpack = one := by rfl
  show (Float.ofScientific n false 0).toModel.unpack = _
  rw [Float.ofScientific, ← hone]
  split
  · next hfew =>
    rw [if_pos hfew.1]
    rfl
  · next hmany =>
    rw [if_neg fun hfew => hmany ⟨hfew, by decide⟩]
    rfl

theorem ofScientific_eq {n : Nat} (hn : n ≠ 0) : UnpackedFloat.ofScientific .binary64 n 0 =
    roundWithAccuracy .binary64 .positive (n * 2 ^ 53) (-(53 : Nat)) .exact := by
  have hbits : (2 : Int) ^ Format.binary64.exponentBits = 2048 := by decide
  rw [UnpackedFloat.ofScientific, dif_neg hn, if_neg (by decide), if_neg (by rw [hbits]; omega),
    if_pos (Int.le_refl 0), ← Nat.mul_one (n * 2 ^ 53), ← Nat.shiftLeft_eq]
  rfl

theorem unpack_ofInt_negSucc (n : Nat) : (Float.ofInt (.negSucc n)).toModel.unpack =
    (Float.Model.pack (Float.ofNat (n + 1)).toModel.unpack.neg).unpack := rfl

theorem isNaN_ofNat (n : Nat) : (Float.ofNat n).isNaN = false := by
  show (Float.ofNat n).toModel.unpack.isNaN = false
  rw [unpack_ofNat]
  refine isNaN_unpack_pack ?_
  split
  · exact isNaN_unpacked_mul _ (isNaN_unpack_pack (isNaN_unpacked_ofInt _ _)) ..
  · next hmany =>
    rw [ofScientific_eq (by omega)]
    exact isNaN_roundWithAccuracy ..

/-- The double of a whole number is a number. -/
theorem isNaN_ofInt (n : Int) : (Float.ofInt n).isNaN = false := by
  cases n with
  | ofNat n => exact isNaN_ofNat n
  | negSucc n =>
    have hneg {u : UnpackedFloat} (h : u.isNaN = false) : u.neg.isNaN = false := by
      cases u with
      | notANumber => cases h
      | _ => rfl
    show (Float.ofInt (.negSucc n)).toModel.unpack.isNaN = false
    rw [unpack_ofInt_negSucc]
    exact isNaN_unpack_pack (hneg (isNaN_ofNat (n + 1)))

end ListingQuery.Doubles
