import ListingQuery.Proofs.Literal.Doubles

/-!
# Doubles of whole numbers

The double of a whole number denotes the number with its 53 leading binary digits, rounded to
nearest and to even.  Doubles are ordered as the numbers that they denote, and rounding keeps order
though it may bring two numbers together.

    compareFloat (Float.ofInt m) (Float.ofInt n) = compare (rounded m) (rounded n)
                                                              (compareFloat_ofInt)
    m ≤ n → rounded m ≤ rounded n                             (rounded_mono)
-/

namespace ListingQuery.Doubles

open Float.Model (UnpackedFloat Format totalExponent)
open Float.Model.UnpackedFloat
open Literal (compareFloat compareFloat_eq)

/-! ## Rounding -/

/-- A number in units of a power of two: the nearest count, the even one of two that are as near. -/
def nearestUnits (n k : Nat) : Nat :=
  match compare (2 * (n % 2 ^ k)) (2 ^ k) with
  | .lt => n / 2 ^ k
  | .eq => n / 2 ^ k + n / 2 ^ k % 2
  | .gt => n / 2 ^ k + 1

/-- The digits of a number beyond the leading 53. -/
def excess (n : Nat) : Nat := n.log2 - 52

/-- A natural number with its 53 leading binary digits, to nearest. -/
def roundedNat (n : Nat) : Nat := nearestUnits n (excess n) * 2 ^ excess n

/-- A whole number with its 53 leading binary digits, to nearest. -/
def rounded : Int → Int
  | .ofNat n => roundedNat n
  | .negSucc n => -roundedNat (n + 1)

theorem compare_mul_right (m n : Nat) {c : Nat} (hc : 0 < c) :
    compare (m * c) (n * c) = compare m n := by
  simp only [Nat.compare_eq_ite_lt, Nat.mul_lt_mul_right hc]

theorem le_nearestUnits (n k : Nat) : n / 2 ^ k ≤ nearestUnits n k := by
  rw [nearestUnits]
  split <;> omega

theorem nearestUnits_le (n k : Nat) : nearestUnits n k ≤ n / 2 ^ k + 1 := by
  rw [nearestUnits]
  split <;> omega

@[simp] theorem nearestUnits_zero (n : Nat) : nearestUnits n 0 = n := by
  rw [nearestUnits, Nat.pow_zero, Nat.mod_one, Nat.div_one]
  rfl

/-- Zeros at the end do not matter. -/
theorem nearestUnits_mul_pow (n k j : Nat) :
    nearestUnits (n * 2 ^ j) (k + j) = nearestUnits n k := by
  have hpos : 0 < 2 ^ j := Nat.two_pow_pos j
  rw [nearestUnits, nearestUnits, Nat.pow_add, Nat.mul_mod_mul_right, ← Nat.mul_assoc,
    compare_mul_right _ _ hpos, Nat.mul_div_mul_right _ _ hpos]

theorem nearestUnits_mono {m n : Nat} (h : m ≤ n) (k : Nat) :
    nearestUnits m k ≤ nearestUnits n k := by
  rcases Nat.lt_or_ge (m / 2 ^ k) (n / 2 ^ k) with hlt | hge
  · exact (nearestUnits_le m k).trans (Nat.le_trans hlt (le_nearestUnits n k))
  · -- the same count of units below both: what is left is ordered as the numbers
    have hquot : m / 2 ^ k = n / 2 ^ k := Nat.le_antisymm (Nat.div_le_div_right h) hge
    have hrest : m % 2 ^ k ≤ n % 2 ^ k := by
      have hm := Nat.mod_add_div m (2 ^ k)
      have hn := Nat.mod_add_div n (2 ^ k)
      rw [hquot] at hm
      omega
    rw [nearestUnits, nearestUnits, hquot]
    split <;> rename_i hm <;> split <;> rename_i hn <;>
      simp only [Nat.compare_eq_lt, Nat.compare_eq_eq, Nat.compare_eq_gt] at hm hn <;> omega

/-- A number with more than 53 digits has the others in its excess. -/
theorem log2_eq_of_excess_pos {n : Nat} (h : 0 < excess n) : n.log2 = 52 + excess n := by
  rw [excess] at h ⊢
  omega

theorem div_pow_excess_lt (n : Nat) : n / 2 ^ excess n < 2 ^ 53 := by
  rw [Nat.div_lt_iff_lt_mul (Nat.two_pow_pos _), ← Nat.pow_add]
  exact Nat.lt_of_lt_of_le Nat.lt_log2_self
    (Nat.pow_le_pow_right (by decide) (by rw [excess]; omega))

theorem le_div_pow {n k : Nat} (hn : n ≠ 0) (h : n.log2 = 52 + k) : 2 ^ 52 ≤ n / 2 ^ k := by
  rw [Nat.le_div_iff_mul_le (Nat.two_pow_pos _), ← Nat.pow_add, ← h]
  exact Nat.log2_self_le hn

theorem roundedNat_mono {m n : Nat} (h : m ≤ n) : roundedNat m ≤ roundedNat n := by
  rcases Nat.eq_zero_or_pos m with rfl | hm
  · exact Nat.le_trans (Nat.le_of_eq (by decide)) (Nat.zero_le _)
  have hlog : m.log2 ≤ n.log2 := by
    rw [Nat.le_log2 (by omega)]
    exact (Nat.log2_self_le (by omega)).trans h
  rcases Nat.eq_or_lt_of_le (show excess m ≤ excess n by rw [excess, excess]; omega) with heq | hlt
  · rw [roundedNat, roundedNat, heq]
    exact Nat.mul_le_mul_right _ (nearestUnits_mono h _)
  · -- the greater number has more digits, so its leading one outweighs the smaller number
    have hleading : 2 ^ 52 ≤ n / 2 ^ excess n :=
      le_div_pow (by omega) (log2_eq_of_excess_pos (by omega))
    calc roundedNat m
        ≤ 2 ^ 53 * 2 ^ excess m := Nat.mul_le_mul_right _
          ((nearestUnits_le m _).trans (div_pow_excess_lt m))
      _ = 2 ^ 52 * 2 ^ (excess m + 1) := by rw [Nat.pow_succ]; omega
      _ ≤ 2 ^ 52 * 2 ^ excess n :=
          Nat.mul_le_mul_left _ (Nat.pow_le_pow_right (by decide) hlt)
      _ ≤ roundedNat n := Nat.mul_le_mul_right _ (hleading.trans (le_nearestUnits n _))

/-- Rounding keeps order. -/
theorem rounded_mono {m n : Int} (h : m ≤ n) : rounded m ≤ rounded n := by
  cases m with
  | ofNat m =>
    cases n with
    | ofNat n => exact Int.ofNat_le.2 (roundedNat_mono (Int.ofNat_le.1 h))
    | negSucc n =>
      have hle : (0 : Int) ≤ Int.negSucc n := Int.le_trans (Int.natCast_nonneg m) h
      exact absurd hle (Int.not_le.2 (Int.negSucc_lt_zero n))
  | negSucc m =>
    cases n with
    | ofNat n =>
      have hle : -(roundedNat (m + 1) : Int) ≤ roundedNat n := by omega
      exact hle
    | negSucc n =>
      have hle : roundedNat (n + 1) ≤ roundedNat (m + 1) :=
        roundedNat_mono (by omega)
      exact Int.neg_le_neg (Int.ofNat_le.2 hle)

/-! ## Numbers that doubles denote -/

/-- The double is a number of 53 binary digits, scaled by a power of two: a whole one. -/
inductive Denotes : UnpackedFloat → Int → Prop where
  | zero (s : Sign) : Denotes (.zero s) 0
  | finite (s : Sign) {m j v : Nat} (hm : 0 < m) (hlower : 2 ^ 52 ≤ m) (hupper : m < 2 ^ 53)
      (hj : j ≤ 1023) (hv : m * 2 ^ j = v * 2 ^ 52) :
      Denotes (.finite s m ((j : Int) - 52) hm) (s.apply v)

theorem Denotes.neg {u : UnpackedFloat} {v : Int} (h : Denotes u v) : Denotes u.neg (-v) := by
  cases h with
  | zero s => exact .zero _
  | finite s hm hlower hupper hj hv =>
    have h := Denotes.finite (-s) hm hlower hupper hj hv
    cases s
    · exact (Int.neg_neg _).symm ▸ h
    · exact h

/-- With a leading digit in the same place, numbers are ordered by scale and then by digits. -/
theorem compare_scaled {m n : Nat} (hm : 2 ^ 52 ≤ m) (hm' : m < 2 ^ 53) (hn : 2 ^ 52 ≤ n)
    (hn' : n < 2 ^ 53) (i j : Nat) :
    (compare ((i : Int) - 52) ((j : Int) - 52)).then (compare m n) =
      compare (m * 2 ^ i) (n * 2 ^ j) := by
  have hscale {m n i j : Nat} (hm' : m < 2 ^ 53) (hn : 2 ^ 52 ≤ n) (h : i < j) :
      m * 2 ^ i < n * 2 ^ j :=
    calc m * 2 ^ i
        < 2 ^ 53 * 2 ^ i := Nat.mul_lt_mul_of_pos_right hm' (Nat.two_pow_pos i)
      _ = 2 ^ 52 * 2 ^ (i + 1) := by rw [Nat.pow_succ]; omega
      _ ≤ n * 2 ^ j := Nat.mul_le_mul hn (Nat.pow_le_pow_right (by decide) h)
  rcases Nat.lt_trichotomy i j with h | rfl | h
  · rw [Int.compare_eq_lt.2 (by omega), Nat.compare_eq_lt.2 (hscale hm' hn h)]
    rfl
  · rw [Int.compare_eq_eq.2 rfl, compare_mul_right _ _ (Nat.two_pow_pos i)]
    rfl
  · rw [Int.compare_eq_gt.2 (by omega), Nat.compare_eq_gt.2 (hscale hn' hm h)]
    rfl

/-- Doubles are ordered as the numbers that they denote. -/
theorem compare_of_denotes {x y : UnpackedFloat} {v w : Int} (hx : Denotes x v) (hy : Denotes y w) :
    x.compare y = some (compare v w) := by
  have hpos {m i v : Nat} (hm : 0 < m) (hv : m * 2 ^ i = v * 2 ^ 52) : 0 < (v : Int) := by
    have := Nat.mul_pos hm (Nat.two_pow_pos i)
    omega
  cases hx with
  | zero s =>
    cases hy with
    | zero t => rfl
    | finite t hm _ _ _ hv =>
      have hpos := hpos hm hv
      cases t with
      | negative => exact congrArg some (Int.compare_eq_gt.2 (Int.neg_neg_of_pos hpos)).symm
      | positive => exact congrArg some (Int.compare_eq_lt.2 hpos).symm
  | @finite s _ i v hm hlower hupper _ hv =>
    have hpos' := hpos hm hv
    cases hy with
    | zero t =>
      cases s with
      | negative => exact congrArg some (Int.compare_eq_lt.2 (Int.neg_neg_of_pos hpos')).symm
      | positive => exact congrArg some (Int.compare_eq_gt.2 hpos').symm
    | @finite t _ j _ hn hlower' hupper' _ hw =>
      have hpos := hpos hn hw
      have hparts := compare_scaled hlower hupper hlower' hupper' i j
      rw [hv, hw, compare_mul_right _ _ (Nat.two_pow_pos 52), ← compare_natCast v] at hparts
      cases s <;> cases t
      · exact congrArg some ((congrArg Ordering.swap hparts).trans (compare_neg _ _).symm)
      · exact congrArg some (Int.compare_eq_lt.2 (by simp only [Sign.apply]; omega)).symm
      · exact congrArg some (Int.compare_eq_gt.2 (by simp only [Sign.apply]; omega)).symm
      · exact congrArg some hparts

/-! ## Rounding and packing -/

/-- The digits left after a shift, the first one dropped and whether another was. -/
theorem shiftRight_exact (n k : Nat) : (⟨n, false, false⟩ : ExtendedMantissa) >>> (k + 1) =
    ⟨n / 2 ^ (k + 1), n / 2 ^ k % 2 != 0, n % 2 ^ k != 0⟩ := by
  induction k with
  | zero =>
    show ExtendedMantissa.shiftRightOne ⟨n, false, false⟩ = _
    simp [ExtendedMantissa.shiftRightOne, Nat.mod_one]
  | succ k ih =>
    have hrest : (n / 2 ^ k % 2 != 0 || n % 2 ^ k != 0) = (n % 2 ^ (k + 1) != 0) := by
      rw [Nat.mod_pow_succ, Bool.eq_iff_iff]
      have hpos := Nat.two_pow_pos k
      rcases Nat.mod_two_eq_zero_or_one (n / 2 ^ k) with h | h
      · simp [h]
      · simp [h]
    show ExtendedMantissa.shiftRightOne
      ((⟨n, false, false⟩ : ExtendedMantissa) >>> (k + 1)) = _
    rw [ih]
    simp only [ExtendedMantissa.shiftRightOne, hrest, Nat.div_div_eq_div_mul, ← Nat.pow_succ]

/-- What a shift drops is rounded to nearest and to even. -/
theorem roundedMantissa_shiftRight (n k : Nat) :
    ((⟨n, false, false⟩ : ExtendedMantissa) >>> k).roundedMantissa = nearestUnits n k := by
  cases k with
  | zero => rw [nearestUnits_zero]; rfl
  | succ k =>
    have hbelow : n % 2 ^ k < 2 ^ k := Nat.mod_lt _ (Nat.two_pow_pos k)
    have hhalf : compare (2 * (n % 2 ^ (k + 1))) (2 ^ (k + 1)) =
        compare (n % 2 ^ k + 2 ^ k * (n / 2 ^ k % 2)) (2 ^ k) := by
      rw [Nat.mul_comm, Nat.pow_succ, compare_mul_right _ _ (by decide), ← Nat.pow_succ,
        Nat.mod_pow_succ]
    rw [shiftRight_exact, nearestUnits, hhalf]
    rcases Nat.mod_two_eq_zero_or_one (n / 2 ^ k) with h | h
    · rw [h, Nat.compare_eq_lt.2 (by omega)]
      cases n % 2 ^ k != 0 <;> rfl
    · rcases Nat.eq_zero_or_pos (n % 2 ^ k) with hzero | hpos
      · rw [h, hzero, Nat.compare_eq_eq.2 (by omega)]
        rfl
      · rw [h, Nat.compare_eq_gt.2 (by omega), bne_iff_ne.2 (by omega : n % 2 ^ k ≠ 0)]
        rfl

theorem shiftToTargetExponent_eq {m k : Nat} {e : Int} (hlog : m.log2 = 52 + k)
    (he : -1074 ≤ e + k) : shiftToTargetExponent .binary64 m e .exact =
      ((⟨m, false, false⟩ : ExtendedMantissa) >>> k, e + k) := by
  have htarget : Format.binary64.targetExponent (totalExponent m e) = e + k := by
    simp only [Format.targetExponent, totalExponent, Format.mantissaBits, Format.minExponent, hlog]
    omega
  have hshift : (e + k - e).toNat = k := by omega
  rw [shiftToTargetExponent, htarget, shiftToExponent, hshift]
  rfl

/-- Rounding is a shift, and another one where the first leaves a digit too many. -/
theorem roundWithAccuracy_eq (s : Sign) {m r q : Nat} {e e' e'' : Int} {em em' : ExtendedMantissa}
    (hfirst : shiftToTargetExponent .binary64 m e .exact = (em, e')) (hr : em.roundedMantissa = r)
    (hsecond : shiftToTargetExponent .binary64 r e' .exact = (em', e'')) (hq : em'.mantissa = q)
    (hpos : 0 < q) :
    roundWithAccuracy .binary64 s m e .exact = .finite s q e'' hpos := by
  subst hr hq
  simp only [roundWithAccuracy, hfirst, hsecond, Nat.ne_of_gt hpos, dite_false]

theorem log2_nearestUnits {m k : Nat} (hlog : m.log2 = 52 + k) (hfits : nearestUnits m k < 2 ^ 53) :
    (nearestUnits m k).log2 = 52 := by
  have hm : m ≠ 0 := by
    rintro rfl
    rw [Nat.log2_zero] at hlog
    omega
  have hlower : 2 ^ 52 ≤ nearestUnits m k := (le_div_pow hm hlog).trans (le_nearestUnits m k)
  exact (Nat.log2_eq_iff (by omega)).2 ⟨hlower, hfits⟩

/-- A number with at least 53 digits is rounded to these, unless rounding adds a digit. -/
theorem roundWithAccuracy_of_fits (s : Sign) {m k : Nat} {e : Int} (hlog : m.log2 = 52 + k)
    (he : -1074 ≤ e + k) (hfits : nearestUnits m k < 2 ^ 53) (hpos : 0 < nearestUnits m k) :
    roundWithAccuracy .binary64 s m e .exact = .finite s (nearestUnits m k) (e + k) hpos := by
  have hsecond := shiftToTargetExponent_eq (k := 0) (log2_nearestUnits hlog hfits) (e := e + k)
    (by omega)
  have hsame : e + k + (0 : Nat) = e + k := by omega
  rw [hsame] at hsecond
  exact roundWithAccuracy_eq s (shiftToTargetExponent_eq hlog he) (roundedMantissa_shiftRight m k)
    hsecond rfl hpos

/-- The digit that rounding adds is one in the next place. -/
theorem roundWithAccuracy_of_carry (s : Sign) {m k : Nat} {e : Int} (hlog : m.log2 = 52 + k)
    (he : -1074 ≤ e + k) (hcarry : nearestUnits m k = 2 ^ 53) :
    roundWithAccuracy .binary64 s m e .exact =
      .finite s (2 ^ 52) (e + k + 1) (Nat.two_pow_pos 52) := by
  have hsecond := shiftToTargetExponent_eq (k := 1) (m := 2 ^ 53) (by decide) (e := e + k)
    (by omega)
  exact roundWithAccuracy_eq s (shiftToTargetExponent_eq hlog he)
    ((roundedMantissa_shiftRight m k).trans hcarry) hsecond (by decide) _

/-- A number with at least 53 digits is rounded to a double. -/
theorem denotes_roundWithAccuracy (s : Sign) {m k j v : Nat} {e : Int} (hlog : m.log2 = 52 + k)
    (he : e + k = (j : Int) - 52) (hj : j ≤ 1022) (hv : nearestUnits m k * 2 ^ j = v * 2 ^ 52) :
    Denotes (roundWithAccuracy .binary64 s m e .exact) (s.apply v) := by
  have hexcess : excess m = k := by rw [excess, hlog]; omega
  have hupper : nearestUnits m k ≤ 2 ^ 53 :=
    (nearestUnits_le m k).trans (hexcess ▸ div_pow_excess_lt m)
  rcases Nat.eq_or_lt_of_le hupper with hcarry | hfits
  · have hnext : e + k + 1 = ((j + 1 : Nat) : Int) - 52 := by omega
    rw [roundWithAccuracy_of_carry s hlog (by omega) hcarry]
    simp only [hnext]
    exact .finite s _ (by decide) (by decide) (by omega) (by rw [← hv, hcarry]; omega)
  · have hfull := log2_nearestUnits hlog hfits
    have hpos : nearestUnits m k ≠ 0 := by
      intro hzero
      rw [hzero, Nat.log2_zero] at hfull
      omega
    rw [roundWithAccuracy_of_fits s hlog (by omega) hfits (Nat.pos_of_ne_zero hpos)]
    simp only [he]
    exact .finite s _ ((Nat.log2_eq_iff hpos).1 hfull).1 hfits (by omega) hv

theorem unpackSign_packComponents (s : Sign) (e : BitVec 11) (m : BitVec 52) :
    Sign.ofBitVec (unpackSign (packComponents .binary64 s e m)) = s := by
  have hsign : unpackSign (packComponents .binary64 s e m) = s.toBitVec := by
    ext i hi
    have hmantissa : ¬ 63 + i < 52 := by omega
    have hexponent : ¬ 63 + i - 52 < 11 := by omega
    have hplace : 63 + i - 52 - 11 = i := by omega
    rw [unpackSign, packComponents, BitVec.getElem_cast, BitVec.extractLsb,
      BitVec.getElem_extractLsb']
    show (s.toBitVec ++ e ++ m).getLsbD (63 + i) = _
    rw [BitVec.getLsbD_append, if_neg hmantissa, BitVec.getLsbD_append, if_neg hexponent, hplace]
    exact BitVec.getLsbD_eq_getElem hi
  rw [hsign]
  cases s <;> rfl

/-- The leading digit, which is not packed, comes back. -/
theorem toNat_one_append {m : Nat} (hlower : 2 ^ 52 ≤ m) (hupper : m < 2 ^ 53) :
    (1#1 ++ BitVec.ofNat 52 m).toNat = m := by
  have hrest : (BitVec.ofNat 52 m).toNat = m - 2 ^ 52 := by
    rw [BitVec.toNat_ofNat]
    omega
  have hlt : m - 2 ^ 52 < 2 ^ 52 := by omega
  have hone : (1#1).toNat <<< 52 = 2 ^ 52 * 1 := by decide
  rw [BitVec.toNat_append, hrest, hone, ← Nat.two_pow_add_eq_or_of_lt hlt]
  omega

/-- A number of 53 digits is not changed by packing. -/
theorem unpack_pack_of_denotes {u : UnpackedFloat} {v : Int} (h : Denotes u v) :
    (Float.Model.pack u).unpack = u := by
  cases h with
  | zero s => cases s <;> rfl
  | @finite s m j _ hm hlower hupper hj _ =>
    show unpack .binary64 (UnpackedFloat.pack .binary64 _) = _
    have hlog : m.log2 + 1 = Format.binary64.mantissaBits := by
      rw [(Nat.log2_eq_iff (by omega)).2 ⟨hlower, hupper⟩]
      rfl
    have hbiased : ((j : Int) - 52 + Format.binary64.exponentBias +
        Format.binary64.mantissaBitsWithoutImplicit).toNat = j + 1023 := by
      show ((j : Int) - 52 + (1023 : Nat) + (52 : Nat)).toNat = _
      omega
    have hexponent : (BitVec.ofNat 11 (j + 1023)).toNat = j + 1023 := by
      rw [BitVec.toNat_ofNat, Nat.mod_eq_of_lt (by omega)]
    have hfinite : BitVec.ofNat 11 (j + 1023) ≠ -1#11 := by
      intro heq
      have := congrArg BitVec.toNat heq
      rw [hexponent] at this
      simp at this
      omega
    have hnormal : BitVec.ofNat 11 (j + 1023) ≠ 0#11 := by
      intro heq
      have := congrArg BitVec.toNat heq
      rw [hexponent] at this
      simp at this
    rw [UnpackedFloat.pack]
    simp only [hbiased]
    rw [if_neg (by show ¬ 2 ^ 11 ≤ _; omega), if_pos hlog, unpack]
    simp only [unpackMantissa_packComponents, unpackExponent_packComponents,
      unpackSign_packComponents]
    rw [if_neg hfinite, if_neg hnormal]
    have hscale : ((j + 1023 : Nat) : Int) - (Format.binary64.exponentBias +
        Format.binary64.mantissaBitsWithoutImplicit) = (j : Int) - 52 := by
      show ((j + 1023 : Nat) : Int) - ((1023 : Nat) + (52 : Nat)) = _
      omega
    simp only [toNat_one_append hlower hupper, hexponent, hscale]

/-! ## Whole numbers -/

theorem log2_mul_pow {n : Nat} (hn : n ≠ 0) (k : Nat) : (n * 2 ^ k).log2 = n.log2 + k := by
  rw [Nat.log2_eq_iff (Nat.mul_ne_zero hn (Nat.two_pow_pos k).ne')]
  constructor
  · rw [Nat.pow_add]
    exact Nat.mul_le_mul_right _ (Nat.log2_self_le hn)
  · rw [Nat.add_right_comm, Nat.pow_add]
    exact Nat.mul_lt_mul_of_pos_right Nat.lt_log2_self (Nat.two_pow_pos k)

/-- However a number is scaled for it, rounding makes the same double of it. -/
theorem denotes_scaled {n k : Nat} (hn : n ≠ 0) (hbound : n < 2 ^ 64) (hk : 52 ≤ n.log2 + k) :
    Denotes (roundWithAccuracy .binary64 .positive (n * 2 ^ k) (-k) .exact) (roundedNat n) := by
  have hlog := log2_mul_pow hn k
  have hsmall : n.log2 < 64 := (Nat.log2_lt hn).2 hbound
  obtain ⟨dropped, hdropped⟩ := Nat.exists_eq_add_of_le hk
  refine denotes_roundWithAccuracy .positive (hlog.trans hdropped) (j := n.log2) (by omega)
    (by omega) ?_
  rcases Nat.le_total 52 n.log2 with hlong | hshort
  · -- the zeros are dropped again, and the excess with them
    have hexcess : dropped = excess n + k := by rw [excess]; omega
    have hplaces : n.log2 = excess n + 52 := by rw [excess]; omega
    rw [hexcess, nearestUnits_mul_pow, roundedNat, hplaces, Nat.pow_add, Nat.mul_assoc]
  · -- zeros are all that is dropped
    have hexcess : excess n = 0 := by rw [excess]; omega
    have hzeros : n * 2 ^ k = n * 2 ^ (52 - n.log2) * 2 ^ dropped := by
      rw [Nat.mul_assoc, ← Nat.pow_add]
      congr 2
      omega
    have hplaces : 52 - n.log2 + n.log2 = 52 := by omega
    have hunits := nearestUnits_mul_pow (n * 2 ^ (52 - n.log2)) 0 dropped
    rw [Nat.zero_add, nearestUnits_zero] at hunits
    rw [hzeros, hunits, roundedNat, hexcess, nearestUnits_zero, Nat.mul_assoc, ← Nat.pow_add,
      hplaces, Nat.pow_zero, Nat.mul_one]

theorem denotes_unpacked_ofNat {n : Nat} (hbound : n < 2 ^ 64) :
    Denotes (UnpackedFloat.ofInt .binary64 n) (roundedNat n) := by
  rcases Nat.eq_zero_or_pos n with rfl | hpos
  · exact .zero .positive
  have hround : UnpackedFloat.ofInt .binary64 n = UnpackedFloat.round .binary64 .positive n 0 := by
    rw [UnpackedFloat.ofInt, UnpackedFloat.normalize, Int.compare_eq_gt.2 (by omega)]
    rfl
  have hshift : (0 - Format.binary64.targetExponent (totalExponent n 0)).toNat = 52 - n.log2 := by
    simp only [Format.targetExponent, totalExponent, Format.mantissaBits, Format.minExponent]
    have : n.log2 < 64 := (Nat.log2_lt (by omega)).2 hbound
    omega
  rw [hround, UnpackedFloat.round, decreaseExponent]
  simp only [hshift, Nat.shiftLeft_eq]
  rw [Int.zero_sub]
  exact denotes_scaled (by omega) hbound (by omega)

/-- A number of 53 digits is not changed by a product with one. -/
theorem mul_one_of_denotes {u : UnpackedFloat} {v : Int} (h : Denotes u v) :
    UnpackedFloat.mul .binary64 u one = u := by
  have hsign (s : Sign) : s * .positive = s := by cases s <;> rfl
  cases h with
  | zero s => exact congrArg UnpackedFloat.zero (hsign s)
  | @finite s m j _ hm hlower hupper hj _ =>
    have hlog : (m * 2 ^ 52).log2 = 52 + 52 := by
      rw [log2_mul_pow (by omega), (Nat.log2_eq_iff (by omega)).2 ⟨hlower, hupper⟩]
    have hunits : nearestUnits (m * 2 ^ 52) 52 = m :=
      (nearestUnits_mul_pow m 0 52).trans (nearestUnits_zero m)
    have hscale : (j : Int) - 52 + -52 + (52 : Nat) = j - 52 := by omega
    rw [one, UnpackedFloat.mul, hsign,
      roundWithAccuracy_of_fits s hlog (by omega) (by rw [hunits]; exact hupper)
        (by rw [hunits]; exact hm)]
    simp only [hunits, hscale]

theorem denotes_ofNat {n : Nat} (hbound : n < 2 ^ 64) :
    Denotes (Float.ofNat n).toModel.unpack (roundedNat n) := by
  rw [unpack_ofNat]
  split
  · have hword : n.toUInt64.toNat = n := Nat.mod_eq_of_lt hbound
    have hdenotes := denotes_unpacked_ofNat hbound
    rw [hword, unpack_pack_of_denotes hdenotes, mul_one_of_denotes hdenotes,
      unpack_pack_of_denotes hdenotes]
    exact hdenotes
  · next hmany =>
    have hdenotes : Denotes (UnpackedFloat.ofScientific .binary64 n 0) (roundedNat n) := by
      rw [ofScientific_eq (by omega)]
      exact denotes_scaled (by omega) hbound (by omega)
    rw [unpack_pack_of_denotes hdenotes]
    exact hdenotes

/-- The double of a whole number denotes this number, rounded. -/
theorem denotes_ofInt {n : Int} (hbound : n.natAbs < 2 ^ 64) :
    Denotes (Float.ofInt n).toModel.unpack (rounded n) := by
  cases n with
  | ofNat n => exact denotes_ofNat hbound
  | negSucc n =>
    have hdenotes := (denotes_ofNat (n := n + 1) hbound).neg
    rw [unpack_ofInt_negSucc, unpack_pack_of_denotes hdenotes]
    exact hdenotes

/-- Doubles of whole numbers are ordered as these, rounded. -/
theorem compareFloat_ofInt {m n : Int} (hm : m.natAbs < 2 ^ 64) (hn : n.natAbs < 2 ^ 64) :
    compareFloat (Float.ofInt m) (Float.ofInt n) = some (compare (rounded m) (rounded n)) := by
  rw [compareFloat_eq]
  exact compare_of_denotes (denotes_ofInt hm) (denotes_ofInt hn)

end ListingQuery.Doubles
