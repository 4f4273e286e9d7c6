import ListingQuery.Proofs.Calendar.RoundTrip
import ListingQuery.Proofs.Text.Bytes

/-!
# Fixed texts in the order of time

For years from 0 to 9999 the fixed texts of steady instants are ordered as the instants: every part
has a width of its own, and parts of one width are ordered as their numbers.

    compare a.fixedText b.fixedText = a.compare b                       (compare_fixedText)

A text that is read as a timestamp has no blanks at its ends, so all readings of it agree.
-/

namespace ListingQuery.Calendar

open Decimal
open Std (OrientedOrd ReflOrd)

/-! ## Numbers and their digits -/

theorem compare_congr {m n m' n' : Nat} (hlt : m < n ↔ m' < n') (hgt : n < m ↔ n' < m') :
    compare m n = compare m' n' := by
  rcases Nat.lt_trichotomy m n with h | h | h
  · rw [Nat.compare_eq_lt.2 h, Nat.compare_eq_lt.2 (hlt.1 h)]
  · rw [Nat.compare_eq_eq.2 h, Nat.compare_eq_eq.2 (by omega)]
  · rw [Nat.compare_eq_gt.2 h, Nat.compare_eq_gt.2 (hgt.1 h)]

/-- Numbers are ordered by their quotients, then by their remainders. -/
theorem compare_div_mod {k : Nat} (hk : 0 < k) (m n : Nat) :
    compare m n = (compare (m / k) (n / k)).then (compare (m % k) (n % k)) := by
  have hm := Nat.div_add_mod m k
  have hn := Nat.div_add_mod n k
  have hmk := Nat.mod_lt m hk
  have hnk := Nat.mod_lt n hk
  -- a quotient that is less by one leaves more than any remainder
  have hstep {q r : Nat} (h : q < r) : k * q + k ≤ k * r := by
    calc k * q + k = k * (q + 1) := (Nat.mul_succ k q).symm
      _ ≤ k * r := Nat.mul_le_mul_left k h
  rcases Nat.lt_trichotomy (m / k) (n / k) with h | h | h
  · have hlt : m < n := by have := hstep h; omega
    rw [Nat.compare_eq_lt.2 hlt, Nat.compare_eq_lt.2 h]
    rfl
  · rw [h] at hm
    rw [h, ReflOrd.compare_self, Ordering.eq_then]
    exact compare_congr (by omega) (by omega)
  · have hlt : n < m := by have := hstep h; omega
    rw [Nat.compare_eq_gt.2 hlt, Nat.compare_eq_gt.2 h]
    rfl

theorem natOfDigits_cons (c : Char) (cs : List Char) :
    natOfDigits (c :: cs) = 10 ^ cs.length * digitValue c + natOfDigits cs := by
  have hfold (n : Nat) : cs.foldl (fun n c => 10 * n + digitValue c) n =
      10 ^ cs.length * n + natOfDigits cs := by
    exact Nat.ofDigitChars_eq_ofDigitChars_zero
  rw [natOfDigits, List.foldl_cons, hfold, Nat.mul_zero, Nat.zero_add]

/-- Runs of as many digits are ordered as the numbers that they write. -/
theorem compare_digits {cs ds : List Char} (hlen : cs.length = ds.length)
    (hcs : ∀ c ∈ cs, c.isDigit = true) (hds : ∀ d ∈ ds, d.isDigit = true) :
    compare cs ds = compare (natOfDigits cs) (natOfDigits ds) := by
  induction cs generalizing ds with
  | nil =>
    rw [List.length_nil, eq_comm, List.length_eq_zero_iff] at hlen
    subst hlen
    rfl
  | cons c cs ih =>
    cases ds with
    | nil => cases hlen
    | cons d ds =>
      obtain ⟨hc, hcs⟩ := List.forall_mem_cons.1 hcs
      obtain ⟨hd, hds⟩ := List.forall_mem_cons.1 hds
      have hlen : cs.length = ds.length := Nat.succ.inj hlen
      have hpos : 0 < 10 ^ cs.length := Nat.pow_pos (by decide)
      have hchar : compare c d = compare (digitValue c) (digitValue d) := by
        simp only [Char.isDigit, Bool.and_eq_true, decide_eq_true_eq] at hc hd
        have hc0 : '0'.toNat ≤ c.toNat := hc.1
        have hd0 : '0'.toNat ≤ d.toNat := hd.1
        rw [Text.compare_toNat, digitValue, digitValue]
        exact compare_congr (by omega) (by omega)
      have hm := natOfDigits_lt hcs
      have hn := natOfDigits_lt hds
      rw [← hlen] at hn
      rw [List.compare_cons_cons, ih hlen hcs hds, hchar, natOfDigits_cons, natOfDigits_cons,
        ← hlen, compare_div_mod hpos (_ + natOfDigits cs), Nat.mul_add_div hpos,
        Nat.mul_add_div hpos, Nat.mul_add_mod, Nat.mul_add_mod, Nat.div_eq_of_lt hm,
        Nat.div_eq_of_lt hn, Nat.mod_eq_of_lt hm, Nat.mod_eq_of_lt hn, Nat.add_zero, Nat.add_zero]

/-- A field of a fixed width is ordered as its number. -/
theorem compare_padded {width m n : Nat} (hw : 0 < width) (hm : m < 10 ^ width)
    (hn : n < 10 ^ width) (xs ys : List Char) :
    compare (padded width m ++ xs) (padded width n ++ ys) =
      (compare m n).then (compare xs ys) := by
  have hlen : (padded width m).length = (padded width n).length := by
    rw [length_padded hw hm, length_padded hw hn]
  rw [Text.compare_append hlen, compare_digits hlen (fun _ => isDigit_of_mem_padded)
    (fun _ => isDigit_of_mem_padded), natOfDigits_padded, natOfDigits_padded]

theorem compare_cons_self (c : Char) (xs ys : List Char) :
    compare (c :: xs) (c :: ys) = compare xs ys := by
  rw [List.compare_cons_cons, ReflOrd.compare_self, Ordering.eq_then]

/-! ## Fixed texts -/

/-- The year in UTC has four digits and no sign. -/
def Instant.HasPlainYear (t : Instant) : Prop := 0 ≤ t.date.year ∧ t.date.year ≤ 9999

theorem compare_dateText {a b : Date} (ha : 0 ≤ a.year ∧ a.year ≤ 9999)
    (hb : 0 ≤ b.year ∧ b.year ≤ 9999) (xs ys : List Char) :
    compare (a.text ++ xs) (b.text ++ ys) = (a.compare b).then (compare xs ys) := by
  obtain ⟨-, hmonth, -, hday⟩ := bounds_of_isDate a.valid
  obtain ⟨-, hmonth', -, hday'⟩ := bounds_of_isDate b.valid
  have hyear : compare a.year b.year = compare a.year.toNat b.year.toNat := by
    rcases Int.lt_trichotomy a.year b.year with h | h | h
    · rw [Int.compare_eq_lt.2 h, Nat.compare_eq_lt.2 (by omega)]
    · rw [Int.compare_eq_eq.2 h, Nat.compare_eq_eq.2 (by omega)]
    · rw [Int.compare_eq_gt.2 h, Nat.compare_eq_gt.2 (by omega)]
  simp only [Instant.toList_dateText, yearText, if_pos ha, if_pos hb, List.append_assoc, List.cons_append]
  rw [compare_padded (by decide) (by omega) (by omega), compare_cons_self,
    compare_padded (by decide) (by omega) (by omega), compare_cons_self,
    compare_padded (by decide) (by omega) (by omega), Date.compare, hyear]
  simp only [Ordering.then_assoc]

namespace Instant

/-- At the end of a minute, the seconds and fractions that are printed are ordered as the fraction
that goes on past one second. -/
theorem compare_printedSecond {a b : Instant} (ha : a.IsSteady) (hb : b.IsSteady) :
    (Ord.compare a.secondOfMinute b.secondOfMinute).then
        (Ord.compare (a.nano % 1000000000) (b.nano % 1000000000)) =
      (Ord.compare (a.second % 60) (b.second % 60)).then (Ord.compare a.nano b.nano) := by
  have han := a.nano_lt
  have hbn := b.nano_lt
  have has := Nat.mod_lt a.second (by decide : 0 < 60)
  have hbs := Nat.mod_lt b.second (by decide : 0 < 60)
  rw [IsSteady] at ha hb
  rw [secondOfMinute, secondOfMinute]
  generalize a.second % 60 = s at *
  generalize b.second % 60 = s' at *
  rcases Nat.lt_trichotomy s s' with h | h | h
  · rw [Nat.compare_eq_lt.2 h, Ordering.lt_then, Ordering.then_eq_lt, Nat.compare_eq_lt,
      Nat.compare_eq_eq, Nat.compare_eq_lt]
    omega
  · subst h
    rw [ReflOrd.compare_self, Ordering.eq_then, compare_div_mod (k := 1000000000) (by decide) a.nano]
    congr 1
    exact compare_congr (by omega) (by omega)
  · rw [Nat.compare_eq_gt.2 h, Ordering.gt_then, Ordering.then_eq_gt, Nat.compare_eq_gt,
      Nat.compare_eq_eq, Nat.compare_eq_gt]
    omega

/-- Fixed texts are ordered as their instants. -/
theorem compare_fixedText {a b : Instant} (ha : a.IsSteady) (hb : b.IsSteady)
    (hay : a.HasPlainYear) (hby : b.HasPlainYear) :
    Ord.compare a.fixedText b.fixedText = a.compare b := by
  have has := a.second_lt
  have hbs := b.second_lt
  have hm (t : Instant) : t.secondOfMinute < 10 ^ 2 := by
    have := t.nano_lt
    rw [secondOfMinute]
    omega
  have hn (t : Instant) : t.nano % 1000000000 < 10 ^ 9 := Nat.mod_lt _ (by decide)
  have hsecond : Ord.compare a.second b.second =
      (Ord.compare (a.second / 3600) (b.second / 3600)).then
        ((Ord.compare (a.second / 60 % 60) (b.second / 60 % 60)).then
          (Ord.compare (a.second % 60) (b.second % 60))) := by
    have hhour (s : Nat) : s / 60 / 60 = s / 3600 := by omega
    rw [compare_div_mod (k := 60) (by decide) a.second,
      compare_div_mod (k := 60) (by decide) (a.second / 60), hhour, hhour, Ordering.then_assoc]
  rw [Text.compare_toList, toList_fixedText, toList_fixedText, toList_textToSecond,
    toList_textToSecond, compare_dateText hay hby, compare_cons_self,
    compare_padded (by decide) (by omega) (by omega), compare_cons_self,
    compare_padded (by decide) (by omega) (by omega), compare_cons_self,
    compare_padded (by decide) (hm a) (hm b), compare_cons_self,
    compare_padded (by decide) (hn a) (hn b), ReflOrd.compare_self, Ordering.then_eq,
    compare_printedSecond ha hb, Instant.compare, hsecond]
  simp only [Ordering.then_assoc]

end Instant

/-! ## Blanks around timestamps -/

section Ends

variable {text rest : List Char}

theorem suffix_of_number? {least most n : Nat} (h : number? least most text = some (n, rest)) :
    rest <:+ text := by
  obtain ⟨digits, rfl, -, -, -⟩ := number?_eq_some h
  exact List.suffix_append digits rest

theorem suffix_of_cut? {c : Char} (h : cut? c text = some rest) : rest <:+ text := by
  cases text with
  | nil => cases h
  | cons d text =>
    obtain ⟨-, h⟩ := Option.ite_none_right_eq_some.1 h
    cases h
    exact List.suffix_cons d _

theorem suffix_of_cutMark? (h : cutMark? text = some rest) : rest <:+ text := by
  cases text with
  | nil => cases h
  | cons d text =>
    obtain ⟨-, h⟩ := Option.ite_none_right_eq_some.1 h
    cases h
    exact List.suffix_cons d _

theorem suffix_of_fraction? {n : Nat} (h : fraction? text = some (n, rest)) : rest <:+ text := by
  rw [fraction?.eq_def] at h
  split at h
  · next tail =>
    dsimp only at h
    split at h
    · cases h
    · cases h
      exact (List.dropWhile_suffix _).trans (List.suffix_cons '.' tail)
  · cases h
    exact List.suffix_refl text

/-- A number that is read is not empty. -/
theorem getLast?_of_number? {least most n : Nat} (h : number? least most text = some (n, [])) :
    ∃ c, text.getLast? = some c ∧ c.isDigit = true := by
  obtain ⟨digits, rfl, hdigits, -, -⟩ := number?_eq_some h
  rw [List.append_nil] at h ⊢
  cases hlast : digits.getLast? with
  | none =>
    rw [List.getLast?_eq_none_iff] at hlast
    subst hlast
    simp [number?] at h
  | some c => exact ⟨c, rfl, hdigits c (List.mem_of_getLast? hlast)⟩

theorem getLast?_of_suffix {text rest : List Char} {c : Char} (h : rest <:+ text) (hc : rest.getLast? = some c) :
    text.getLast? = some c := by
  obtain ⟨front, rfl⟩ := h
  rw [List.getLast?_append, hc]
  rfl

/-- An offset ends in a letter or a digit. -/
theorem getLast?_of_offset? {offset : Int} (h : offset? text = some (offset, [])) :
    ∃ c, text.getLast? = some c ∧ Text.isBlank c = false := by
  cases text with
  | nil => cases h
  | cons d text =>
    rw [offset?] at h
    split at h
    · next hletter =>
      cases h
      rcases hletter with rfl | rfl <;> exact ⟨_, rfl, by decide⟩
    · split at h
      · simp only [Option.bind_eq_bind, Option.bind_eq_some_iff] at h
        obtain ⟨⟨hours, r₁⟩, hhours, r₂, hcolon, ⟨minutes, r₃⟩, hminutes, h⟩ := h
        obtain ⟨-, h⟩ := Option.ite_none_right_eq_some.1 h
        cases h
        obtain ⟨c, hc, hdigit⟩ := getLast?_of_number? hminutes
        have hsuffix := (suffix_of_cut? hcolon).trans (suffix_of_number? hhours)
        exact ⟨c, getLast?_of_suffix (hsuffix.trans (List.suffix_cons d text)) hc,
          Instant.isBlank_of_isDigit hdigit⟩
      · cases h

/-- A timestamp has no blanks at its ends. -/
theorem trimChars_of_timestamp? {t : Instant} (h : timestamp? text = some t) :
    Text.trimChars text = text := by
  rw [timestamp?] at h
  obtain ⟨⟨_, r₁⟩, h₁, h⟩ := Option.bind_eq_some_iff.1 h
  obtain ⟨r₂, h₂, h⟩ := Option.bind_eq_some_iff.1 h
  obtain ⟨⟨_, r₃⟩, h₃, h⟩ := Option.bind_eq_some_iff.1 h
  obtain ⟨r₄, h₄, h⟩ := Option.bind_eq_some_iff.1 h
  obtain ⟨⟨_, r₅⟩, h₅, h⟩ := Option.bind_eq_some_iff.1 h
  obtain ⟨r₆, h₆, h⟩ := Option.bind_eq_some_iff.1 h
  obtain ⟨⟨_, r₇⟩, h₇, h⟩ := Option.bind_eq_some_iff.1 h
  obtain ⟨r₈, h₈, h⟩ := Option.bind_eq_some_iff.1 h
  obtain ⟨⟨_, r₉⟩, h₉, h⟩ := Option.bind_eq_some_iff.1 h
  obtain ⟨r₁₀, h₁₀, h⟩ := Option.bind_eq_some_iff.1 h
  obtain ⟨⟨_, r₁₁⟩, h₁₁, h⟩ := Option.bind_eq_some_iff.1 h
  obtain ⟨⟨_, r₁₂⟩, h₁₂, h⟩ := Option.bind_eq_some_iff.1 h
  obtain ⟨⟨_, r₁₃⟩, h₁₃, h⟩ := Option.bind_eq_some_iff.1 h
  obtain ⟨hend, -⟩ := Option.ite_none_right_eq_some.1 h
  rw [List.isEmpty_iff] at hend
  subst hend
  obtain ⟨d, hd, hblank⟩ := getLast?_of_offset? h₁₃
  have hdate := (suffix_of_cutMark? h₆).trans <| (suffix_of_number? h₅).trans <|
    (suffix_of_cut? h₄).trans <| (suffix_of_number? h₃).trans <|
    (suffix_of_cut? h₂).trans (suffix_of_number? h₁)
  have htime := (suffix_of_fraction? h₁₂).trans <| (suffix_of_number? h₁₁).trans <|
    (suffix_of_cut? h₁₀).trans <| (suffix_of_number? h₉).trans <|
    (suffix_of_cut? h₈).trans (suffix_of_number? h₇)
  -- the text starts with a digit of its year
  obtain ⟨c, hc, hdigit⟩ : ∃ c, text.head? = some c ∧ c.isDigit = true := by
    cases text with
    | nil => cases h₁
    | cons c cs =>
      refine ⟨c, rfl, ?_⟩
      by_contra hc
      simp [number?, List.takeWhile_cons_of_neg hc] at h₁
  exact Text.trimChars_eq_self_of_ends hc (getLast?_of_suffix (htime.trans hdate) hd)
    (Instant.isBlank_of_isDigit hdigit) hblank

end Ends

namespace Instant

theorem compare_self (t : Instant) : t.compare t = .eq := by
  simp only [Instant.compare, Date.compare, ReflOrd.compare_self, Ordering.eq_then]

/-- A timestamp reads as the same instant in whatever way it is read. -/
theorem ofText?_of_ofTimestamp? {text : String} {t : Instant} (h : ofTimestamp? text = some t) :
    ofText? text = some t := by
  rw [ofTimestamp?] at h
  rw [ofText?, trimChars_of_timestamp? h, h]
  rfl

/-- The fixed text of an instant is a timestamp. -/
theorem ofTimestamp?_fixedText {t : Instant} (h : t.IsSteady) (hyear : t.HasPlainYear) :
    ofTimestamp? t.fixedText = some t :=
  timestamp?_fixedText h hyear

/-- The fixed text of an instant whose year has a sign is no timestamp. -/
theorem ofTimestamp?_fixedText_eq_none {t : Instant} (hyear : ¬ t.HasPlainYear) :
    ofTimestamp? t.fixedText = none := by
  rw [HasPlainYear] at hyear
  rw [ofTimestamp?, toList_fixedText, toList_textToSecond, toList_dateText, yearText, if_neg hyear]
  split <;> rfl

end Instant

end ListingQuery.Calendar
