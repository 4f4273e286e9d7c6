import Mathlib.Tactic.SplitIfs

/-!
# The order of texts by bytes

UTF-8 keeps the order of code points, so texts are ordered by their bytes as they are by their
characters.

    compareBytes x y = compare x y                                      (compareBytes_eq)
-/

namespace ListingQuery.Text

open Std (OrientedOrd ReflOrd)

/-! ## Algorithm -/

/-- The order of the bytes of two texts. -/
def compareBytes (x y : String) : Ordering :=
  compare x.toByteArray.data.toList y.toByteArray.data.toList

/-! ## Lemmas -/

/-! ### Lists -/

section Lists

variable {α : Type} [Ord α]

theorem compare_append_left [ReflOrd α] (p xs ys : List α) :
    compare (p ++ xs) (p ++ ys) = compare xs ys := by
  induction p with
  | nil => rfl
  | cons a p ih =>
    rw [List.cons_append, List.cons_append, List.compare_cons_cons, ih, ReflOrd.compare_self,
      Ordering.eq_then]

/-- Parts of the same length are compared first. -/
theorem compare_append {xs ys : List α} (h : xs.length = ys.length) (xs' ys' : List α) :
    compare (xs ++ xs') (ys ++ ys') = (compare xs ys).then (compare xs' ys') := by
  induction xs generalizing ys with
  | nil =>
    rw [List.length_nil, eq_comm, List.length_eq_zero_iff] at h
    rw [h]
    rfl
  | cons x xs ih =>
    cases ys with
    | nil => cases h
    | cons y ys =>
      rw [List.length_cons, List.length_cons, Nat.add_right_cancel_iff] at h
      simp only [List.cons_append, List.compare_cons_cons, ih h, Ordering.then_assoc]

end Lists

theorem compare_toNat (c d : Char) : compare c d = compare c.toNat d.toNat := by
  have hlt : c < d ↔ c.toNat < d.toNat := Iff.rfl
  have heq : c = d ↔ c.toNat = d.toNat := Char.toNat_inj.symm
  show compareOfLessAndEq c d = compareOfLessAndEq c.toNat d.toNat
  simp only [compareOfLessAndEq, hlt, heq]

theorem compare_toList (x y : String) : compare x y = compare x.toList y.toList := by
  have hlists (cs ds : List Char) : compareOfLessAndEq cs ds = compare cs ds := by
    induction cs generalizing ds with
    | nil => cases ds <;> rfl
    | cons c cs ih =>
      cases ds with
      | nil => rfl
      | cons d ds =>
        rw [List.compare_cons_cons, ← ih]
        show _ = (compareOfLessAndEq c d).then _
        simp only [compareOfLessAndEq, List.cons_lt_cons_iff, List.cons.injEq]
        by_cases hlt : c < d
        · simp [hlt]
        · by_cases heq : c = d <;> simp [hlt, heq]
  rw [← hlists]
  show compareOfLessAndEq x y = _
  simp only [compareOfLessAndEq, String.lt_iff, String.toList_inj]

/-! ### Encoded characters -/

theorem compare_byte {m n : Nat} (hm : m < 256) (hn : n < 256) :
    compare (UInt8.ofNat m) (UInt8.ofNat n) = compare m n := by
  show compareOfLessAndEq (UInt8.ofNat m) (UInt8.ofNat n) = compareOfLessAndEq m n
  simp only [compareOfLessAndEq, UInt8.lt_iff_toNat_lt, ← UInt8.toNat_inj,
    UInt8.toNat_ofNat_of_lt' hm, UInt8.toNat_ofNat_of_lt' hn]

/-- The bytes of a character are less than those of a later one, whatever follows. -/
theorem compare_encoded_of_lt {c d : Char} (h : c.toNat < d.toNat) (xs ys : List UInt8) :
    compare (String.utf8EncodeChar c ++ xs) (String.utf8EncodeChar d ++ ys) = .lt := by
  have hc : c.val.toNat = c.toNat := rfl
  have hd : d.val.toNat = d.toNat := rfl
  have hmax (e : Char) : e.toNat < 0x110000 := by
    have := e.valid
    simp only [UInt32.isValidChar, Nat.isValidChar] at this
    show e.val.toNat < _
    omega
  have hc' := hmax c
  have hd' := hmax d
  simp only [String.utf8EncodeChar, hc, hd]
  generalize c.toNat = m at *
  generalize d.toNat = n at *
  have hdiv (k : Nat) : k / 4096 = k / 64 / 64 ∧ k / 262144 = k / 64 / 64 / 64 := by omega
  simp only [(hdiv _).1, (hdiv _).2]
  -- the shorter of two codes starts with the lower byte
  split_ifs <;>
    simp (disch := omega) only [List.cons_append, List.compare_cons_cons, compare_byte,
      Ordering.then_eq_lt, Nat.compare_eq_lt, Nat.compare_eq_eq] <;>
    omega

theorem compare_encoded (c d : Char) (xs ys : List UInt8) :
    compare (String.utf8EncodeChar c ++ xs) (String.utf8EncodeChar d ++ ys) =
      (compare c d).then (compare xs ys) := by
  rcases Nat.lt_trichotomy c.toNat d.toNat with h | h | h
  · rw [compare_encoded_of_lt h, compare_toNat, Nat.compare_eq_lt.2 h]
    rfl
  · cases Char.toNat_inj.1 h
    rw [compare_append_left, ReflOrd.compare_self, Ordering.eq_then]
  · rw [OrientedOrd.eq_swap, compare_encoded_of_lt h, compare_toNat, Nat.compare_eq_gt.2 h]
    rfl

theorem compare_flatMap_encoded (cs ds : List Char) :
    compare (cs.flatMap String.utf8EncodeChar) (ds.flatMap String.utf8EncodeChar) =
      compare cs ds := by
  induction cs generalizing ds with
  | nil =>
    cases ds with
    | nil => rfl
    | cons d ds =>
      obtain ⟨b, bs, hb⟩ := List.exists_cons_of_ne_nil (String.utf8EncodeChar_ne_nil (c := d))
      rw [List.flatMap_cons, hb]
      rfl
  | cons c cs ih =>
    cases ds with
    | nil =>
      obtain ⟨b, bs, hb⟩ := List.exists_cons_of_ne_nil (String.utf8EncodeChar_ne_nil (c := c))
      rw [List.flatMap_cons, hb]
      rfl
    | cons d ds =>
      rw [List.flatMap_cons, List.flatMap_cons, compare_encoded, ih, List.compare_cons_cons]

/-- Texts are ordered by their bytes as by their characters. -/
theorem compareBytes_eq (x y : String) : compareBytes x y = compare x y := by
  have hbytes (s : String) :
      s.toByteArray.data.toList = s.toList.flatMap String.utf8EncodeChar := by
    rw [← String.utf8Encode_toList, List.utf8Encode, List.toList_data_toByteArray]
  rw [compareBytes, hbytes, hbytes, compare_flatMap_encoded, ← compare_toList]

end ListingQuery.Text
