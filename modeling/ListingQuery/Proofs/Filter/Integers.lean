import ListingQuery.Proofs.Filter.Algebra
import ListingQuery.Proofs.Literal.Stability
import ListingQuery.Proofs.Literal.WholeDoubles

/-!
# Filters on whole numbers

Columns of whole numbers are signed words of 64 bits.  Among these, comparisons are exact.  A stored
number beyond them is compared as a double: still exactly, unless it rounds to the same double as
the literal.  A literal beyond them is no value of the column, so nothing compares with it.

    accepted ↔ n op m           for a literal m of 64 signed bits, where doubles do not blur it
    accepted ↔ op = ne          for a greater literal                        (integers_compare)
-/

namespace ListingQuery

/-! ## Native ranges -/

/-- Whether a number fits a signed word. -/
def fitsSigned (bits : Nat) (n : Int) : Bool := -2 ^ (bits - 1) ≤ n && n < 2 ^ (bits - 1)

/-- Whether a number fits an unsigned word. -/
def fitsUnsigned (bits : Nat) (n : Int) : Bool := 0 ≤ n && n < 2 ^ bits

namespace NativeType

/-- Whether a whole number is a value of the type; types of other values have none. -/
def holdsInteger : NativeType → Int → Bool
  | i8 => fitsSigned 8
  | i16 => fitsSigned 16
  | i32 => fitsSigned 32
  | i64 => fitsSigned 64
  | isize => fitsSigned 64
  | u8 => fitsUnsigned 8
  | u16 => fitsUnsigned 16
  | u32 => fitsUnsigned 32
  | u64 => fitsUnsigned 64
  | usize => fitsUnsigned 64
  | _ => fun _ => false

/-- Fields that hold whole numbers are columns of integers, and their values are JSON numbers. -/
theorem columnType_of_holdsInteger {native : NativeType} {n : Int}
    (h : native.holdsInteger n = true) :
    native.columnType = .integer ∧ -2 ^ 63 ≤ n ∧ n < 2 ^ 64 := by
  cases native <;> first
    | cases h
    | (simp only [holdsInteger, fitsSigned, fitsUnsigned, Bool.and_eq_true, decide_eq_true_eq] at h
       exact ⟨rfl, by omega, by omega⟩)

end NativeType

/-- What a comparison asks of two whole numbers. -/
def Comparison.relates : Comparison → Int → Int → Prop
  | eq, n, m => n = m
  | ne, n, m => n ≠ m
  | gt, n, m => m < n
  | gte, n, m => m ≤ n
  | lt, n, m => n < m
  | lte, n, m => n ≤ m

/-- The order of two numbers says how they compare. -/
theorem Comparison.admits_compare (op : Comparison) (n m : Int) :
    op.admits (compare n m) = true ↔ op.relates n m := by
  rcases Int.lt_trichotomy n m with h | rfl | h
  · rw [Int.compare_eq_lt.2 h]
    cases op <;> simp [admits, relates] <;> omega
  · rw [Int.compare_eq_eq.2 rfl]
    cases op <;> simp [admits, relates]
  · rw [Int.compare_eq_gt.2 h]
    cases op <;> simp [admits, relates] <;> omega

/-! ## Literals and stored numbers -/

theorem isInt64_iff {n : Int} : isInt64 n = true ↔ -2 ^ 63 ≤ n ∧ n < 2 ^ 63 := by
  simp only [isInt64, Bool.and_eq_true, decide_eq_true_eq]
  exact Iff.rfl

theorem ColumnType.convert?_ofInt {m : Int} (h : isInt64 m = true) :
    ColumnType.integer.convert? (.ofInt m) = some (.integer m) := by
  have hint : (Json.ofInt m).int64? = some m := if_pos h
  show convertInteger _ = _
  rw [convertInteger, hint]

/-- A number beyond the signed words is no value of an integer column. -/
theorem ColumnType.convert?_ofInt_eq_none {m : Int} (h : isInt64 m = false) :
    ColumnType.integer.convert? (.ofInt m) = none := by
  have hint : (Json.ofInt m).int64? = none := if_neg (by rw [h]; decide)
  have htext : (Json.ofInt m).scalarText? = some (toString m) := rfl
  show convertInteger _ = _
  rw [convertInteger, hint, htext]
  show (Decimal.integer? (toString m).toList).bind _ = _
  rw [Decimal.integer?_text]
  exact if_neg (by rw [h]; decide)

open Doubles (rounded)

/-- Within the signed words numbers are compared exactly, beyond them as doubles. -/
theorem Literal.compareStored?_integer {n m : Int} (hn : n.natAbs < 2 ^ 64)
    (hm : m.natAbs < 2 ^ 64) :
    (Literal.integer m).compareStored? (.ofInt n) =
      some (if isInt64 n then Ord.compare n m else Ord.compare (rounded n) (rounded m)) := by
  cases h : isInt64 n with
  | true =>
    have hint : (Number.int n).int64? = some n := if_pos h
    simp [compareStored?, typed?, Json.ofInt, hint, Literal.compare]
  | false =>
    have hint : (Number.int n).int64? = none := if_neg (by rw [h]; decide)
    simp [compareStored?, typed?, Json.ofInt, hint, Literal.compare, toFloat?, Number.toFloat,
      Doubles.compareFloat_ofInt hn hm]

/-- A stored number and a literal that are compared as doubles and may round to the same one: both
round to the least number beyond the signed words. -/
def RoundTogether (n m : Int) : Prop :=
  2 ^ 63 ≤ n ∧ n ≤ 2 ^ 63 + 1024 ∧ 2 ^ 63 - 512 ≤ m

/-- Beyond the signed words a number is rounded to none below one within them. -/
theorem rounded_le_of_lt {n m : Int} (hn : 2 ^ 63 ≤ n) (hm : m < 2 ^ 63) :
    rounded m ≤ rounded n :=
  Doubles.rounded_mono (by omega)

theorem rounded_lt_of_not_roundTogether {n m : Int} (hn : 2 ^ 63 ≤ n) (hm : m < 2 ^ 63)
    (h : ¬ RoundTogether n m) : rounded m < rounded n := by
  have hword : rounded (2 ^ 63) = 2 ^ 63 := by decide +kernel
  rcases Int.lt_or_le m (2 ^ 63 - 512) with hbelow | hclose
  · have hlast : rounded (2 ^ 63 - 513) = 2 ^ 63 - 1024 := by decide +kernel
    have hle : rounded m ≤ rounded (2 ^ 63 - 513) := Doubles.rounded_mono (by omega)
    have hge : rounded (2 ^ 63) ≤ rounded n := Doubles.rounded_mono hn
    omega
  · have hfirst : rounded (2 ^ 63 + 1025) = 2 ^ 63 + 2048 := by decide +kernel
    have hle : rounded m ≤ rounded (2 ^ 63) := Doubles.rounded_mono (by omega)
    have habove : 2 ^ 63 + 1024 < n := by
      by_contra hnear
      exact h ⟨hn, by omega, hclose⟩
    have hge : rounded (2 ^ 63 + 1025) ≤ rounded n := Doubles.rounded_mono (by omega)
    omega

/-- The bounds cannot be drawn closer. -/
example : rounded (2 ^ 63 + 1024) = rounded (2 ^ 63 - 512) := by decide +kernel

/-! ## Comparisons of one value -/

namespace FilterExpression

theorem comparesAny_singleton {v : Json} {value : Literal} {o : Ordering} (op : Comparison)
    (hvalue : value.isNull = false) (h : value.compareStored? v = some o) :
    Predicate.comparesAny [v] op value = op.admits o := by
  cases op <;> cases o <;>
    simp [Predicate.comparesAny, Literal.equalsStored, hvalue, h, Comparison.admits]

variable {field : FieldPath} {isList : Bool} {d : Json} {n m : Int}

/-- A literal of the column is compared with what is stored. -/
theorem accepts_comparing {o : Ordering} (op : Comparison) (hm : isInt64 m = true)
    (hd : d.elementsAt field = [.ofInt n])
    (ho : (Literal.integer m).compareStored? (.ofInt n) = some o) :
    (comparing op (.ofInt m)).accepts field .integer isList d = op.admits o := by
  have htests : (comparing op (.ofInt m)).tests field .integer isList =
      [.compare field op (.integer m)] := by
    have hnull : (Json.ofInt m).isNull = false := rfl
    cases op <;> simp [comparing, tests, eqTest, neTest, rangeTest, hnull,
      ColumnType.convert?_ofInt hm, ColumnType.isComparable]
  rw [accepts_eq_of_tests_eq htests, Predicate.holds, hd]
  exact comparesAny_singleton op rfl ho

/-- What is no value of the column equals nothing and is beyond no order. -/
theorem accepts_comparing_beyond (op : Comparison) (hm : isInt64 m = false) :
    (comparing op (.ofInt m)).accepts field .integer isList d = true ↔ op = .ne := by
  have htests : (comparing op (.ofInt m)).tests field .integer isList =
      [if op = .ne then .always else .never] := by
    have hnull : (Json.ofInt m).isNull = false := rfl
    cases op <;> simp [comparing, tests, eqTest, neTest, rangeTest, hnull,
      ColumnType.convert?_ofInt_eq_none hm, ColumnType.isComparable]
  rw [accepts_eq_of_tests_eq htests]
  split <;> simp_all [Predicate.holds]

/-- Comparisons of whole numbers are exact for literals of the column, save where doubles blur the
difference; no number compares with a greater literal. -/
theorem integers_compare {native : NativeType} (hn : native.holdsInteger n = true)
    (hm : -2 ^ 63 ≤ m ∧ m < 2 ^ 64) (hd : d.elementsAt field = [.ofInt n]) (op : Comparison)
    (isList : Bool) :
    (m < 2 ^ 63 → op = .gte ∨ op = .lt ∨ ¬ RoundTogether n m →
      ((comparing op (.ofInt m)).accepts field native.columnType isList d = true ↔
        op.relates n m)) ∧
    (2 ^ 63 ≤ m →
      ((comparing op (.ofInt m)).accepts field native.columnType isList d = true ↔ op = .ne)) := by
  obtain ⟨htype, hlower, hupper⟩ := NativeType.columnType_of_holdsInteger hn
  rw [htype]
  constructor
  · intro hword hexact
    have hcompare := Literal.compareStored?_integer (n := n) (m := m) (by omega) (by omega)
    rw [accepts_comparing op (isInt64_iff.2 ⟨hm.1, hword⟩) hd hcompare]
    split
    · exact op.admits_compare n m
    · next hbeyond =>
      have hn : 2 ^ 63 ≤ n := by
        rw [isInt64_iff] at hbeyond
        omega
      have hle := rounded_le_of_lt hn hword
      rw [op.admits_compare]
      rcases hexact with rfl | rfl | hapart
      · simp only [Comparison.relates]
        omega
      · simp only [Comparison.relates]
        omega
      · have hlt := rounded_lt_of_not_roundTogether hn hword hapart
        cases op <;> simp only [Comparison.relates] <;> omega
  · intro hbeyond
    refine accepts_comparing_beyond op (Bool.eq_false_iff.2 fun h => ?_)
    rw [isInt64_iff] at h
    omega

/-- A record with the greatest number of an unsigned word. -/
def unsignedRecord : Json := .object [("n", .ofInt (2 ^ 64 - 1))]

theorem unsignedRecord_exceeds :
    NativeType.u64.holdsInteger (2 ^ 64 - 1) = true ∧
    unsignedRecord.elementsAt ["n"] = [.ofInt (2 ^ 64 - 1)] ∧
    ¬ RoundTogether (2 ^ 64 - 1) (2 ^ 63 - 1) ∧
    (comparing .gt (.ofInt (2 ^ 63 - 1))).accepts ["n"] NativeType.u64.columnType false
      unsignedRecord = true ∧
    (comparing .ne (.ofInt (2 ^ 64 - 1))).accepts ["n"] NativeType.u64.columnType false
      unsignedRecord = true := by
  have hholds : NativeType.u64.holdsInteger (2 ^ 64 - 1) = true := by decide
  have hstored : unsignedRecord.elementsAt ["n"] = [.ofInt (2 ^ 64 - 1)] := rfl
  have hapart : ¬ RoundTogether (2 ^ 64 - 1) (2 ^ 63 - 1) := by
    rintro ⟨-, hnear, -⟩
    exact absurd hnear (by decide)
  refine ⟨hholds, hstored, hapart, ?_, ?_⟩
  · exact ((integers_compare hholds (by decide) hstored .gt false).1 (by decide)
      (.inr (.inr hapart))).2 (by decide : (2 : Int) ^ 63 - 1 < 2 ^ 64 - 1)
  · exact ((integers_compare hholds (by decide) hstored .ne false).2 (by decide)).2 rfl

/-- The least number beyond the signed words is not found by itself, but by its predecessor. -/
theorem not_equal_beyond_signed_words :
    let found : Json := .object [("n", .ofInt (2 ^ 63))]
    NativeType.u64.holdsInteger (2 ^ 63) = true ∧ found.elementsAt ["n"] = [.ofInt (2 ^ 63)] ∧
    ¬ ((comparing .eq (.ofInt (2 ^ 63))).accepts ["n"] NativeType.u64.columnType false found =
        true ↔ Comparison.eq.relates (2 ^ 63) (2 ^ 63)) ∧
    ¬ ((comparing .eq (.ofInt (2 ^ 63 - 1))).accepts ["n"] NativeType.u64.columnType false found =
        true ↔ Comparison.eq.relates (2 ^ 63) (2 ^ 63 - 1)) := by
  intro found
  have hstored : found.elementsAt ["n"] = [.ofInt (2 ^ 63)] := rfl
  refine ⟨by decide, hstored, fun hitself => ?_, fun hpredecessor => ?_⟩
  · have hfound := hitself.2 rfl
    exact absurd ((accepts_comparing_beyond .eq (by decide)).1 hfound) (by decide)
  · have hsame : (Literal.integer (2 ^ 63 - 1)).compareStored? (.ofInt (2 ^ 63)) = some .eq := by
      rw [Literal.compareStored?_integer (by decide) (by decide)]
      decide +kernel
    have hfound : (comparing .eq (.ofInt (2 ^ 63 - 1))).accepts ["n"] .integer false found = true :=
      accepts_comparing .eq (by decide) hstored hsame
    exact absurd (hpredecessor.1 hfound) (by decide : ¬ (2 : Int) ^ 63 = 2 ^ 63 - 1)

end FilterExpression

end ListingQuery
