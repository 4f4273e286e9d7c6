import Mathlib.Algebra.Group.Nat.Defs
import Mathlib.Data.List.TakeWhile
import ListingQuery.Calendar.Parser
import ListingQuery.Calendar.Printer
import ListingQuery.Proofs.Text.Blank

/-!
# Reading printed instants

    Instant.ofText? t.text = some t    for years from 0 to 9999         (ofText?_text)
-/

namespace ListingQuery.Calendar

open Decimal

/-! ## Padded numbers -/

theorem natOfDigits_padded (width n : Nat) : natOfDigits (padded width n) = n := by
  show Nat.ofDigitChars 10 (List.replicate _ '0' ++ Nat.toDigits 10 n) 0 = n
  rw [Nat.ofDigitChars_append, Nat.ofDigitChars_replicate_zero, Nat.mul_zero]
  exact Nat.ofDigitChars_toDigits (by decide) (by decide)

theorem isDigit_of_mem_padded {width n : Nat} {c : Char} (h : c ∈ padded width n) :
    c.isDigit = true := by
  rcases List.mem_append.1 h with h | h
  · rw [List.eq_of_mem_replicate h]
    rfl
  · exact Nat.isDigit_of_mem_toDigits (by decide) (by decide) h

theorem length_padded {width n : Nat} (hw : 0 < width) (h : n < 10 ^ width) :
    (padded width n).length = width := by
  have hle : (Nat.toDigits 10 n).length ≤ width := (Nat.length_toDigits_le_iff (by decide) hw).2 h
  rw [padded, List.length_append, List.length_replicate]
  omega

theorem takeWhile_padded (width n : Nat) (rest : List Char) :
    (padded width n ++ rest).takeWhile Char.isDigit =
      padded width n ++ rest.takeWhile Char.isDigit :=
  List.takeWhile_append_of_pos fun _ => isDigit_of_mem_padded

/-- A number is read back from a field of its width, whatever follows. -/
theorem number?_padded {width n : Nat} (hw : 0 < width) (h : n < 10 ^ width) (rest : List Char) :
    number? width width (padded width n ++ rest) = some (n, rest) := by
  have hlen := length_padded hw h
  have htake : ((padded width n ++ rest).takeWhile Char.isDigit).take width = padded width n := by
    rw [takeWhile_padded, List.take_left' hlen]
  have hne : (padded width n).isEmpty = false := by
    cases hp : padded width n with
    | nil => simp [hp] at hlen; omega
    | cons c cs => rfl
  rw [number?, htake]
  simp [hne, hlen, natOfDigits_padded]

/-! ## Printed parts -/

theorem fraction?_padded {width n : Nat} (hw : 0 < width) (hle : width ≤ 9) (h : n < 10 ^ width) :
    fraction? ('.' :: (padded width n ++ ['Z'])) = some (n * 10 ^ (9 - width), ['Z']) := by
  have hlen := length_padded hw h
  have hne : (padded width n).isEmpty = false := by
    cases hp : padded width n with
    | nil => simp [hp] at hlen; omega
    | cons c cs => rfl
  have htake : (padded width n ++ ['Z']).takeWhile Char.isDigit = padded width n := by
    rw [takeWhile_padded]
    exact List.append_nil _
  have hdrop : (padded width n ++ ['Z']).dropWhile Char.isDigit = ['Z'] := by
    rw [List.dropWhile_append_of_pos fun _ => isDigit_of_mem_padded]
    rfl
  have hkept : (padded width n).take 9 = padded width n := List.take_of_length_le (by omega)
  simp only [fraction?, htake, hdrop, hne, hkept, hlen, natOfDigits_padded, Bool.false_eq_true,
    if_false]
  rfl

theorem fraction?_fractionText {nano : Nat} (h : nano < 1000000000) :
    fraction? (Instant.fractionText nano ++ ['Z']) = some (nano, ['Z']) := by
  rw [Instant.fractionText]
  split
  · next hzero =>
    subst hzero
    rfl
  · split
    · rw [List.cons_append, fraction?_padded (by decide) (by decide) (by omega)]
      simp only [Option.some.injEq, Prod.mk.injEq, and_true]
      omega
    · split
      · rw [List.cons_append, fraction?_padded (by decide) (by decide) (by omega)]
        simp only [Option.some.injEq, Prod.mk.injEq, and_true]
        omega
      · rw [List.cons_append, fraction?_padded (by decide) (by decide) (by omega)]
        simp

theorem bounds_of_isDate {year : Int} {month day : Nat} (h : isDate year month day = true) :
    1 ≤ month ∧ month ≤ 12 ∧ 1 ≤ day ∧ day ≤ 31 := by
  have hdays : daysIn year month ≤ 31 := by
    rw [daysIn]
    repeat' split
    all_goals omega
  simp only [isDate, Bool.and_eq_true, decide_eq_true_eq] at h
  omega

namespace Instant

/-- Fractions go on past one second only at the end of a minute. -/
def IsSteady (t : Instant) : Prop := t.nano < 1000000000 ∨ t.second % 60 = 59

theorem timeOfDay?_text {t : Instant} (h : t.IsSteady) :
    timeOfDay? (t.second / 3600) (t.second / 60 % 60) t.secondOfMinute (t.nano % 1000000000) =
      some (t.second, t.nano) := by
  have hs := t.second_lt
  have hn := t.nano_lt
  have hclock : t.second / 3600 < 24 ∧ t.second / 60 % 60 < 60 := by omega
  rw [timeOfDay?, if_pos hclock, secondOfMinute]
  by_cases hleap : t.nano < 1000000000
  · rw [if_pos (by omega)]
    simp only [Option.some.injEq, Prod.mk.injEq]
    omega
  · have hend : t.second % 60 = 59 := h.resolve_left hleap
    rw [if_neg (by omega), if_pos (by omega)]
    simp only [Option.some.injEq, Prod.mk.injEq]
    omega

theorem toList_textToSecond (t : Instant) (rest : List Char) :
    t.textToSecond ++ rest = t.date.text ++ 'T' ::
      (padded 2 (t.second / 3600) ++ ':' :: (padded 2 (t.second / 60 % 60) ++ ':' ::
        (padded 2 t.secondOfMinute ++ rest))) := by
  simp [textToSecond]

theorem toList_text (t : Instant) : t.text.toList =
    t.textToSecond ++ (fractionText (t.nano % 1000000000) ++ ['Z']) := by
  simp [text]

theorem toList_fixedText (t : Instant) : t.fixedText.toList =
    t.textToSecond ++ ('.' :: (padded 9 (t.nano % 1000000000) ++ ['Z'])) := by
  simp [fixedText]

theorem toList_dateText (d : Date) :
    d.text = yearText d.year ++ '-' :: (padded 2 d.month ++ '-' :: padded 2 d.day) := by
  simp [Date.text]

/-- A printed instant is read back with any fraction that reads as its nanoseconds. -/
theorem timestamp?_printed {t : Instant} (h : t.IsSteady)
    (hyear : 0 ≤ t.date.year ∧ t.date.year ≤ 9999) {fraction : List Char}
    (hfraction : fraction? fraction = some (t.nano % 1000000000, ['Z'])) :
    timestamp? (t.textToSecond ++ fraction) = some t := by
  obtain ⟨hmonth, hmonth', hday, hday'⟩ := bounds_of_isDate t.date.valid
  have hs := t.second_lt
  have hn := t.nano_lt
  have hsecond : t.secondOfMinute < 10 ^ 2 := by
    rw [secondOfMinute]
    omega
  have hdate : Date.ofParts? (t.date.year.toNat : Int) t.date.month t.date.day = some t.date := by
    rw [Int.toNat_of_nonneg hyear.1, Date.ofParts?, dif_pos t.date.valid]
  have hinstant : ofLocal? t.date t.second t.nano 0 = some t := by
    have hneg : ¬ ((t.second : Int) - 0 < 0) := by omega
    have hlate : ¬ (86400 ≤ (t.second : Int) - 0) := by omega
    have hutc : ((t.second : Int) - 0).toNat = t.second := by omega
    simp only [ofLocal?, if_neg hneg, if_neg hlate, hutc, ofParts?, dif_pos hs, dif_pos hn]
  rw [toList_textToSecond, toList_dateText, yearText, if_pos hyear, List.append_assoc,
    List.cons_append, List.append_assoc, List.cons_append, timestamp?]
  -- each part reads its own digits and leaves what follows
  have read {width n : Nat} {rest : List Char} {read : Nat × List Char → Option Instant}
      (hwidth : 0 < width) (hfits : n < 10 ^ width) (h : read (n, rest) = some t) :
      (number? width width (padded width n ++ rest)).bind read = some t :=
    Option.bind_eq_some_iff.2 ⟨_, number?_padded hwidth hfits rest, h⟩
  refine read (by decide) (by omega : t.date.year.toNat < 10 ^ 4) ?_
  refine read (by decide) (by omega : t.date.month < 10 ^ 2) ?_
  refine read (by decide) (by omega : t.date.day < 10 ^ 2) ?_
  refine read (by decide) (by omega : t.second / 3600 < 10 ^ 2) ?_
  refine read (by decide) (by omega : t.second / 60 % 60 < 10 ^ 2) ?_
  refine read (by decide) hsecond ?_
  refine Option.bind_eq_some_iff.2 ⟨_, hfraction, ?_⟩
  refine Option.bind_eq_some_iff.2 ⟨(0, []), rfl, ?_⟩
  refine Option.bind_eq_some_iff.2 ⟨_, hdate, ?_⟩
  exact Option.bind_eq_some_iff.2 ⟨_, timeOfDay?_text h, hinstant⟩

theorem timestamp?_text {t : Instant} (h : t.IsSteady)
    (hyear : 0 ≤ t.date.year ∧ t.date.year ≤ 9999) : timestamp? t.text.toList = some t := by
  rw [toList_text]
  exact timestamp?_printed h hyear (fraction?_fractionText (Nat.mod_lt t.nano (by decide)))

theorem timestamp?_fixedText {t : Instant} (h : t.IsSteady)
    (hyear : 0 ≤ t.date.year ∧ t.date.year ≤ 9999) : timestamp? t.fixedText.toList = some t := by
  have hlt : t.nano % 1000000000 < 10 ^ 9 := Nat.mod_lt t.nano (by decide)
  have hfraction : fraction? ('.' :: (padded 9 (t.nano % 1000000000) ++ ['Z'])) =
      some (t.nano % 1000000000 * 10 ^ (9 - 9), ['Z']) :=
    fraction?_padded (by decide) (by decide) hlt
  rw [toList_fixedText]
  exact timestamp?_printed h hyear (by simpa using hfraction)

/-! ## Signed years -/

/-- A year beyond four digits, or before 0, is printed with a sign. -/
theorem timestamp?_text_eq_none {t : Instant} (hyear : ¬ (0 ≤ t.date.year ∧ t.date.year ≤ 9999)) :
    timestamp? t.text.toList = none := by
  rw [toList_text, toList_textToSecond, toList_dateText, yearText, if_neg hyear]
  split <;> rfl

end Instant

/-! ### The letter of the zone -/

section Zone

variable {text rest : List Char}

theorem number?_eq_some {least most n : Nat} (h : number? least most text = some (n, rest)) :
    ∃ digits, text = digits ++ rest ∧ (∀ c ∈ digits, c.isDigit = true) ∧ digits.length ≤ most ∧
      n = natOfDigits digits := by
  rw [number?] at h
  split at h
  · cases h
  · cases h
    refine ⟨(text.takeWhile Char.isDigit).take most, ?_, ?_, List.length_take_le .., rfl⟩
    · exact (List.prefix_iff_eq_append.1
        ((List.take_prefix ..).trans (List.takeWhile_prefix _))).symm
    · intro c hc
      exact List.mem_takeWhile_imp (List.mem_of_mem_take hc)

theorem zone_of_number? {least most n : Nat} (h : number? least most text = some (n, rest))
    (hz : 'Z' ∈ text) : 'Z' ∈ rest := by
  obtain ⟨digits, rfl, hdigits, -, -⟩ := number?_eq_some h
  rcases List.mem_append.1 hz with hz | hz
  · exact absurd (hdigits _ hz) (by decide)
  · exact hz

theorem zone_of_cut? {c : Char} (h : cut? c text = some rest) (hc : c ≠ 'Z') (hz : 'Z' ∈ text) :
    'Z' ∈ rest := by
  cases text with
  | nil => cases h
  | cons d text =>
    rw [cut?] at h
    split at h
    · next hd =>
      cases h
      rcases List.mem_cons.1 hz with rfl | hz
      · exact absurd hd.symm hc
      · exact hz
    · cases h

theorem zone_of_dropBlanks (hz : 'Z' ∈ text) : 'Z' ∈ text.dropWhile Text.isBlank := by
  rw [← List.takeWhile_append_dropWhile (p := Text.isBlank) (l := text)] at hz
  rcases List.mem_append.1 hz with hz | hz
  · exact absurd (List.mem_takeWhile_imp hz) (by decide)
  · exact hz

theorem zone_of_part? {n : Nat} (h : part? text = some (n, rest)) (hz : 'Z' ∈ text) : 'Z' ∈ rest :=
  zone_of_number? h (zone_of_dropBlanks hz)

theorem zone_of_year? {n : Int} (h : year? text = some (n, rest)) (hz : 'Z' ∈ text) :
    'Z' ∈ rest := by
  have hz := zone_of_dropBlanks hz
  have hsign (c : Char) (hc : 'Z' ≠ c) {more : List Char} (hmore : 'Z' ∈ c :: more) : 'Z' ∈ more :=
    (List.mem_cons.1 hmore).resolve_left hc
  rw [year?] at h
  split at h
  all_goals
    obtain ⟨⟨m, _⟩, hm, hpair⟩ := Option.map_eq_some_iff.1 h
    cases hpair
  · next heq => exact zone_of_number? hm (hsign '-' (by decide) (heq ▸ hz))
  · next heq => exact zone_of_number? hm (hsign '+' (by decide) (heq ▸ hz))
  · exact zone_of_number? hm hz

theorem zone_of_date? {date : Date} (h : date? text = some (date, rest)) (hz : 'Z' ∈ text) :
    'Z' ∈ rest := by
  simp only [date?, Option.bind_eq_bind, Option.bind_eq_some_iff, Option.some.injEq,
    Prod.mk.injEq] at h
  obtain ⟨⟨year, r₁⟩, hyear, r₂, hdash, ⟨month, r₃⟩, hmonth, r₄, hdash', ⟨day, r₅⟩, hday, _, -, -,
    rfl⟩ := h
  have h₁ := zone_of_year? hyear hz
  have h₂ := zone_of_cut? hdash (by decide) h₁
  have h₃ := zone_of_part? hmonth h₂
  have h₄ := zone_of_cut? hdash' (by decide) h₃
  exact zone_of_part? hday h₄

/-- A date and time in UTC has no letter for its zone. -/
theorem dateTime?_eq_none (hz : 'Z' ∈ text) : dateTime? text = none := by
  rw [Option.eq_none_iff_forall_ne_some]
  intro t h
  simp only [dateTime?, Option.bind_eq_bind, Option.bind_eq_some_iff] at h
  obtain ⟨⟨date, r₁⟩, hdate, r₂, hmark, ⟨hour, r₃⟩, hhour, r₄, hcolon, ⟨minute, r₅⟩, hminute, r₆,
    hcolon', ⟨second, r₇⟩, hsecond, h⟩ := h
  have h₁ := zone_of_date? hdate hz
  have h₂ := zone_of_cut? hmark (by decide) h₁
  have h₃ := zone_of_part? hhour h₂
  have h₄ := zone_of_cut? hcolon (by decide) h₃
  have h₅ := zone_of_part? hminute h₄
  have h₆ := zone_of_cut? hcolon' (by decide) h₅
  have h₇ := zone_of_part? hsecond h₆
  have hne : r₇.isEmpty = false := by simp [List.ne_nil_of_mem h₇]
  simp [hne] at h

theorem midnight?_eq_none (hz : 'Z' ∈ text) : midnight? text = none := by
  rw [Option.eq_none_iff_forall_ne_some]
  intro t h
  simp only [midnight?, Option.bind_eq_bind, Option.bind_eq_some_iff] at h
  obtain ⟨⟨date, r₁⟩, hdate, h⟩ := h
  have hne : r₁.isEmpty = false := by simp [List.ne_nil_of_mem (zone_of_date? hdate hz)]
  simp [hne] at h

end Zone

/-! ## Steady readings -/

theorem digitValue_le {c : Char} (h : c.isDigit = true) : digitValue c ≤ 9 := by
  simp only [Char.isDigit, Bool.and_eq_true, decide_eq_true_eq] at h
  have hle : c.toNat ≤ '9'.toNat := h.2
  have h9 : '9'.toNat = 57 := rfl
  have h0 : '0'.toNat = 48 := rfl
  rw [digitValue]
  omega

theorem natOfDigits_lt {digits : List Char} (h : ∀ c ∈ digits, c.isDigit = true) :
    natOfDigits digits < 10 ^ digits.length := by
  have hfold : ∀ n, digits.foldl (fun n c => 10 * n + digitValue c) n <
      (n + 1) * 10 ^ digits.length := by
    induction digits with
    | nil => intro n; simp
    | cons c digits ih =>
      intro n
      obtain ⟨hc, hdigits⟩ := List.forall_mem_cons.1 h
      have hle := digitValue_le hc
      calc _ < (10 * n + digitValue c + 1) * 10 ^ digits.length := ih hdigits _
        _ ≤ (10 * (n + 1)) * 10 ^ digits.length := Nat.mul_le_mul_right _ (by omega)
        _ = (n + 1) * 10 ^ (c :: digits).length := by
          rw [List.length_cons, Nat.pow_succ', Nat.mul_comm 10 (n + 1), Nat.mul_assoc]
  have hall := hfold 0
  rwa [Nat.zero_add, Nat.one_mul] at hall

theorem steady_of_timeOfDay? {hour minute second nano s n : Nat}
    (h : timeOfDay? hour minute second nano = some (s, n)) (hnano : nano < 1000000000) :
    n < 1000000000 ∨ s % 60 = 59 := by
  rw [timeOfDay?] at h
  split at h
  · split at h
    · cases h
      exact .inl hnano
    · split at h
      · cases h
        omega
      · cases h
  · cases h

theorem fraction?_lt {text rest : List Char} {nano : Nat} (h : fraction? text = some (nano, rest)) :
    nano < 1000000000 := by
  rw [fraction?.eq_def] at h
  split at h
  · next tail =>
    dsimp only at h
    split at h
    · cases h
    · cases h
      generalize hkept : (tail.takeWhile Char.isDigit).take 9 = kept
      have hdigits : ∀ c ∈ kept, c.isDigit = true := by
        intro c hc
        rw [← hkept] at hc
        exact List.mem_takeWhile_imp (List.mem_of_mem_take hc)
      have hlen : kept.length ≤ 9 := by
        rw [← hkept]
        exact List.length_take_le ..
      have hpos : 0 < 10 ^ (9 - kept.length) := Nat.pow_pos (by decide)
      calc natOfDigits kept * 10 ^ (9 - kept.length)
        _ < 10 ^ kept.length * 10 ^ (9 - kept.length) :=
          Nat.mul_lt_mul_of_pos_right (natOfDigits_lt hdigits) hpos
        _ = 10 ^ 9 := by rw [← Nat.pow_add, Nat.add_sub_cancel' hlen]
  · cases h
    decide

/-- An offset is a number of whole minutes, less than a day. -/
theorem offset?_bounds {text rest : List Char} {offset : Int}
    (h : offset? text = some (offset, rest)) : offset % 60 = 0 ∧ offset < 86400 := by
  cases text with
  | nil => cases h
  | cons c text =>
    rw [offset?] at h
    split at h
    · cases h
      decide
    · split at h
      · simp only [Option.bind_eq_bind, Option.bind_eq_some_iff] at h
        obtain ⟨⟨hours, _⟩, -, _, -, ⟨minutes, _⟩, -, h⟩ := h
        split at h
        · cases h
          split <;> omega
        · cases h
      · cases h

namespace Instant

theorem parts_of_ofParts? {date : Date} {second nano : Nat} {t : Instant}
    (h : ofParts? date second nano = some t) : t.second = second ∧ t.nano = nano := by
  rw [ofParts?] at h
  split at h
  · split at h
    · cases h
      exact ⟨rfl, rfl⟩
    · cases h
  · cases h

theorem isSteady_of_ofParts? {date : Date} {second nano : Nat} {t : Instant}
    (h : ofParts? date second nano = some t) (hsteady : nano < 1000000000 ∨ second % 60 = 59) :
    t.IsSteady := by
  obtain ⟨hsecond, hnano⟩ := parts_of_ofParts? h
  rwa [IsSteady, hsecond, hnano]

theorem isSteady_of_ofLocal? {date : Date} {second nano : Nat} {offset : Int} {t : Instant}
    (h : ofLocal? date second nano offset = some t) (hoffset : offset % 60 = 0 ∧ offset < 86400)
    (hsteady : nano < 1000000000 ∨ second % 60 = 59) : t.IsSteady := by
  simp only [ofLocal?, Option.bind_eq_bind] at h
  split at h
  · obtain ⟨_, -, h⟩ := Option.bind_eq_some_iff.1 h
    exact isSteady_of_ofParts? h (by omega)
  · split at h
    · obtain ⟨_, -, h⟩ := Option.bind_eq_some_iff.1 h
      exact isSteady_of_ofParts? h (by omega)
    · exact isSteady_of_ofParts? h (by omega)

theorem isSteady_of_ofEpochMillis? {millis : Int} {t : Instant}
    (h : ofEpochMillis? millis = some t) : t.IsSteady := by
  simp only [ofEpochMillis?, Option.bind_eq_bind] at h
  obtain ⟨_, -, h⟩ := Option.bind_eq_some_iff.1 h
  exact isSteady_of_ofParts? h (by omega)

theorem isSteady_of_timestamp? {text : List Char} {t : Instant} (h : timestamp? text = some t) :
    t.IsSteady := by
  rw [timestamp?] at h
  -- nothing before the fraction matters
  iterate 11 obtain ⟨_, -, h⟩ := Option.bind_eq_some_iff.1 h
  obtain ⟨⟨nano, _⟩, hnano, h⟩ := Option.bind_eq_some_iff.1 h
  obtain ⟨⟨offset, _⟩, hoffset, h⟩ := Option.bind_eq_some_iff.1 h
  dsimp only at h
  split at h
  · obtain ⟨_, -, h⟩ := Option.bind_eq_some_iff.1 h
    obtain ⟨⟨second, n⟩, htime, h⟩ := Option.bind_eq_some_iff.1 h
    exact isSteady_of_ofLocal? h (offset?_bounds hoffset)
      (steady_of_timeOfDay? htime (fraction?_lt hnano))
  · cases h

theorem isSteady_of_dateTime? {text : List Char} {t : Instant} (h : dateTime? text = some t) :
    t.IsSteady := by
  simp only [dateTime?, Option.bind_eq_bind, Option.bind_eq_some_iff] at h
  obtain ⟨_, -, _, -, _, -, _, -, _, -, _, -, _, -, h⟩ := h
  split at h
  · obtain ⟨⟨second, nano⟩, htime, h⟩ := Option.bind_eq_some_iff.1 h
    exact isSteady_of_ofParts? h (steady_of_timeOfDay? htime (by decide))
  · cases h

theorem isSteady_of_midnight? {text : List Char} {t : Instant} (h : midnight? text = some t) :
    t.IsSteady := by
  simp only [midnight?, Option.bind_eq_bind, Option.bind_eq_some_iff] at h
  obtain ⟨_, -, h⟩ := h
  split at h
  · exact isSteady_of_ofParts? h (.inl (by decide))
  · cases h

/-- Whatever is read is steady. -/
theorem isSteady_of_ofText? {text : String} {t : Instant} (h : ofText? text = some t) :
    t.IsSteady := by
  simp only [ofText?, Option.or_eq_some_iff] at h
  rcases h with h | ⟨-, h | ⟨-, h⟩⟩
  · exact isSteady_of_timestamp? h
  · exact isSteady_of_dateTime? h
  · exact isSteady_of_midnight? h

/-! ## Round trip -/

theorem isBlank_of_isDigit {c : Char} (h : c.isDigit = true) : Text.isBlank c = false := by
  simp only [Char.isDigit, Bool.and_eq_true, decide_eq_true_eq] at h
  have hge : '0'.toNat ≤ c.toNat := h.1
  have hle : c.toNat ≤ '9'.toNat := h.2
  have h0 : '0'.toNat = 48 := rfl
  have h9 : '9'.toNat = 57 := rfl
  simp only [Text.isBlank, Bool.or_eq_false_iff, Bool.and_eq_false_iff, decide_eq_false_iff_not]
  omega

theorem isBlank_of_mem_fractionText {nano : Nat} {c : Char} (h : c ∈ fractionText nano) :
    Text.isBlank c = false := by
  have hpadded {width n : Nat} (h : c ∈ '.' :: padded width n) : Text.isBlank c = false := by
    rcases List.mem_cons.1 h with rfl | h
    · decide
    · exact isBlank_of_isDigit (isDigit_of_mem_padded h)
  rw [fractionText] at h
  split at h
  · cases h
  · split at h
    · exact hpadded h
    · split at h <;> exact hpadded h

theorem isBlank_of_mem_yearText {year : Int} {c : Char} (h : c ∈ yearText year) :
    Text.isBlank c = false := by
  rw [yearText] at h
  split at h
  · exact isBlank_of_isDigit (isDigit_of_mem_padded h)
  · rcases List.mem_cons.1 h with rfl | h
    · split <;> decide
    · exact isBlank_of_isDigit (isDigit_of_mem_padded h)

/-- A printed instant has no blanks. -/
theorem trimChars_text (t : Instant) : Text.trimChars t.text.toList = t.text.toList := by
  have hpadded {n : Nat} {c : Char} (h : c ∈ padded 2 n) : Text.isBlank c = false :=
    isBlank_of_isDigit (isDigit_of_mem_padded h)
  refine Text.trimChars_eq_self fun c hc => ?_
  simp only [toList_text, toList_textToSecond, toList_dateText, List.mem_append, List.mem_cons, List.not_mem_nil,
    or_false] at hc
  rcases hc with (h | rfl | h | rfl | h) | rfl | h | rfl | h | rfl | h | h | rfl
  · exact isBlank_of_mem_yearText h
  · decide
  · exact hpadded h
  · decide
  · exact hpadded h
  · decide
  · exact hpadded h
  · decide
  · exact hpadded h
  · decide
  · exact hpadded h
  · exact isBlank_of_mem_fractionText h
  · decide

/-- A printed instant is read back, but not if its year has a sign. -/
theorem ofText?_text {t : Instant} (h : t.IsSteady) :
    ofText? t.text = if 0 ≤ t.date.year ∧ t.date.year ≤ 9999 then some t else none := by
  have hz : 'Z' ∈ t.text.toList := by simp [toList_text]
  simp only [ofText?, trimChars_text, dateTime?_eq_none hz, midnight?_eq_none hz, Option.or_none]
  split
  · next hyear => exact timestamp?_text h hyear
  · next hyear => exact timestamp?_text_eq_none hyear

end Instant

end ListingQuery.Calendar
