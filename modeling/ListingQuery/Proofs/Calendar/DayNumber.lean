import Mathlib.Algebra.Order.Ring.Int
import Mathlib.Tactic.IntervalCases
import Mathlib.Tactic.Linarith
import ListingQuery.Calendar.Instant

/-!
# Days and seconds since 1970

The days of the calendar are numbered from the start of 1970 by adding up whole years and whole
months.  The numbers are in the order of the dates, and the date of a number has that number:

    a.compare b = compare a.dayNumber b.dayNumber                            (compare_dayNumber)
    Date.ofEpochDays? n = some d → d.dayNumber = n               (dayNumber_of_ofEpochDays?)

Instants are in the order of their seconds since the start of 1970, of which a leap second shares that
of the second before it, and within one second in the order of their nanoseconds:

    a.compare b = .lt ↔ a.Before b                                  (compare_eq_lt_iff_before)
-/

namespace ListingQuery.Calendar

/-! ## Years and months -/

/-- The number of the first day of a year. -/
def yearStart (year : Int) : Int :=
  365 * (year - 1) + (year - 1) / 4 - (year - 1) / 100 + (year - 1) / 400 - 719162

/-- How many days of the year come before the month. -/
def monthStart (year : Int) : Nat → Nat
  | 0 => 0
  | 1 => 0
  | month + 2 => monthStart year (month + 1) + daysIn year (month + 1)

theorem isLeap_iff (year : Int) :
    isLeap year = true ↔ year % 4 = 0 ∧ (year % 100 ≠ 0 ∨ year % 400 = 0) := by
  simp [isLeap]

/-- A multiple of `k` is where the next quotient starts. -/
theorem ediv_eq_pred_ediv_add {k : Int} (hk : 0 < k) (n : Int) :
    n / k = (n - 1) / k + if n % k = 0 then 1 else 0 := by
  have hn := Int.mul_ediv_add_emod n k
  have hmod := Int.emod_nonneg n hk.ne'
  have hlt := Int.emod_lt_of_pos n hk
  split
  · next h =>
    have hpred : (n - 1) / k = n / k - 1 := by
      rw [Int.ediv_eq_iff_of_pos hk]
      constructor <;> linarith
    omega
  · next h =>
    have hpos : 0 < n % k := hmod.lt_of_ne' h
    have hpred : (n - 1) / k = n / k := by
      rw [Int.ediv_eq_iff_of_pos hk]
      constructor <;> linarith
    omega

theorem yearStart_succ (year : Int) :
    yearStart (year + 1) = yearStart year + if isLeap year then 366 else 365 := by
  have hleap := isLeap_iff year
  unfold yearStart
  rw [Int.add_sub_cancel, ediv_eq_pred_ediv_add (k := 4) (by decide) year,
    ediv_eq_pred_ediv_add (k := 100) (by decide) year,
    ediv_eq_pred_ediv_add (k := 400) (by decide) year]
  generalize (year - 1) / 4 = q₄, (year - 1) / 100 = q₁₀₀, (year - 1) / 400 = q₄₀₀
  split_ifs <;> simp_all <;> omega

theorem yearStart_mono {y z : Int} (h : y ≤ z) : yearStart y ≤ yearStart z := by
  unfold yearStart
  omega

/-- A month ends before every later one starts. -/
theorem monthStart_le (year : Int) {m n : Nat} (hm : 1 ≤ m) (h : m < n) :
    monthStart year m + daysIn year m ≤ monthStart year n := by
  obtain ⟨m, rfl⟩ := Nat.exists_eq_add_of_le' hm
  induction n, h using Nat.le_induction with
  | base => exact Nat.le_refl _
  | succ n hn ih =>
    obtain ⟨n, rfl⟩ := Nat.exists_eq_add_of_le' (Nat.le_trans (Nat.succ_pos _) hn)
    exact Nat.le_trans ih (Nat.le_add_right _ _)

/-- The months make up the year. -/
theorem monthStart_thirteen (year : Int) :
    monthStart year 13 = if isLeap year then 366 else 365 := by
  cases h : isLeap year <;> simp [monthStart, daysIn, h]

namespace Date

/-! ## Dates -/

/-- The number of days from the start of 1970 to the date. -/
def dayNumber (d : Date) : Int := yearStart d.year + monthStart d.year d.month + (d.day - 1)

/-- The parts of a date are in range. -/
theorem bounds (d : Date) :
    1 ≤ d.month ∧ d.month ≤ 12 ∧ 1 ≤ d.day ∧ d.day ≤ daysIn d.year d.month := by
  have h := d.valid
  simp only [isDate, Bool.and_eq_true, decide_eq_true_eq] at h
  omega

theorem yearStart_le (d : Date) : yearStart d.year ≤ d.dayNumber := by
  have hday := d.bounds.2.2.1
  unfold dayNumber
  omega

theorem dayNumber_lt (d : Date) : d.dayNumber < yearStart (d.year + 1) := by
  obtain ⟨hmonth, hmonth', hday, hday'⟩ := d.bounds
  have hend := monthStart_le d.year hmonth (Nat.lt_succ_of_le hmonth')
  have hyear := yearStart_succ d.year
  rw [monthStart_thirteen] at hend
  unfold dayNumber
  split at hend <;> simp_all <;> omega

/-- A date whose year, month or day comes first has the smaller number. -/
theorem dayNumber_lt_of_parts {a b : Date} (h : a.year < b.year ∨ a.year = b.year ∧
    (a.month < b.month ∨ a.month = b.month ∧ a.day < b.day)) : a.dayNumber < b.dayNumber := by
  obtain ⟨hmonth, -, -, hday⟩ := a.bounds
  obtain ⟨-, -, hday', -⟩ := b.bounds
  rcases h with hyear | ⟨hyear, hmonths | ⟨hmonths, hdays⟩⟩
  · have hnext := yearStart_mono (Int.add_one_le_of_lt hyear)
    have hstart := b.yearStart_le
    have hend := a.dayNumber_lt
    omega
  · have hnext := monthStart_le a.year hmonth hmonths
    unfold dayNumber
    rw [hyear] at hnext hday ⊢
    omega
  · unfold dayNumber
    rw [hyear, hmonths]
    omega

/-- Dates are in the order of their numbers. -/
theorem compare_dayNumber (a b : Date) :
    a.compare b = Ord.compare a.dayNumber b.dayNumber := by
  cases h : a.compare b with
  | lt =>
    simp only [compare, Ordering.then_eq_lt, Int.compare_eq_lt, Int.compare_eq_eq,
      Nat.compare_eq_lt, Nat.compare_eq_eq] at h
    exact (Int.compare_eq_lt.2 (dayNumber_lt_of_parts h)).symm
  | eq =>
    simp only [compare, Ordering.then_eq_eq, Int.compare_eq_eq, Nat.compare_eq_eq] at h
    obtain ⟨hyear, hmonth, hday⟩ := h
    rw [dayNumber, dayNumber, hyear, hmonth, hday]
    exact (Int.compare_eq_eq.2 rfl).symm
  | gt =>
    simp only [compare, Ordering.then_eq_gt, Int.compare_eq_gt, Int.compare_eq_eq,
      Nat.compare_eq_gt, Nat.compare_eq_eq] at h
    refine (Int.compare_eq_gt.2 (dayNumber_lt_of_parts ?_)).symm
    omega

/-! ## Dates of day numbers -/

/-- The year within a cycle of 400 years is the one that the day falls in. -/
theorem yearOfCycle_bounds {day year : Nat} (h : day < 146097)
    (hyear : year = (day - day / 1460 + day / 36524 - day / 146096) / 365) :
    year ≤ 399 ∧ 365 * year + year / 4 - year / 100 ≤ day ∧
      day ≤ 365 * year + year / 4 - year / 100 + 365 := by
  by_cases hlast : day = 146096
  · subst hlast
    omega
  -- within one century, and up to one year of four, all quotients are fixed
  · have hle : day / 36524 ≤ 3 := by omega
    have hcentury : year / 100 = day / 36524 := by
      interval_cases hq : day / 36524 <;> omega
    have hfour : year / 4 = day / 1460 ∨ year / 4 + 1 = day / 1460 := by
      interval_cases hq : day / 36524 <;> omega
    interval_cases hq : day / 36524 <;> rcases hfour with hfour | hfour <;> omega

theorem parts_of_ofParts? {year : Int} {month day : Nat} {d : Date}
    (h : ofParts? year month day = some d) : d.year = year ∧ d.month = month ∧ d.day = day := by
  rw [ofParts?] at h
  split at h
  · cases h
    exact ⟨rfl, rfl, rfl⟩
  · cases h

/-- The number of a date whose months are counted from March, the first two of them in the year that
the count started in and the last two in the next. -/
theorem dayNumber_of_marchMonth {d : Date} {year : Int} {month : Nat} (hle : month ≤ 11)
    (hmonth : d.month = if month < 10 then month + 3 else month - 9)
    (hyear : d.year = year + if d.month ≤ 2 then 1 else 0) :
    d.dayNumber = yearStart (year + 1) - 306 + (153 * month + 2) / 5 + (d.day - 1) := by
  have hnext := yearStart_succ year
  unfold dayNumber
  rw [hyear, hmonth, hnext]
  cases h : isLeap year <;> interval_cases month <;>
    simp [monthStart, daysIn, h, hnext] <;> omega

/-- What comes before a year of a cycle of 400 years. -/
theorem yearStart_of_cycle (cycle : Int) {year : Nat} (h : year ≤ 399) :
    yearStart (cycle * 400 + year + 1) =
      146097 * cycle + 365 * year + year / 4 - year / 100 - 719162 := by
  unfold yearStart
  rw [Int.add_sub_cancel]
  omega

/-- The date of a day number has this number. -/
theorem dayNumber_of_ofEpochDays? {days : Int} {d : Date} (h : ofEpochDays? days = some d) :
    d.dayNumber = days := by
  rw [ofEpochDays?, Int.fdiv_eq_ediv_of_nonneg _ (by decide),
    Int.fmod_eq_emod_of_nonneg _ (by decide)] at h
  obtain ⟨hyear, hmonth, hday⟩ := parts_of_ofParts? h
  have hcycle : ((days + 719468) % 146097).toNat < 146097 := by omega
  have hshifted : days + 719468 =
      146097 * ((days + 719468) / 146097) + ((days + 719468) % 146097).toNat := by omega
  generalize (days + 719468) / 146097 = cycle, ((days + 719468) % 146097).toNat = day at *
  generalize hy : (day - day / 1460 + day / 36524 - day / 146096) / 365 = year at *
  obtain ⟨hle, hstart, hend⟩ := yearOfCycle_bounds hcycle hy.symm
  clear hy
  generalize hofYear : day - (365 * year + year / 4 - year / 100) = dayOfYear at *
  generalize hm : (5 * dayOfYear + 2) / 153 = month at *
  rw [← hmonth] at hyear
  rw [dayNumber_of_marchMonth (by omega) hmonth hyear, hday, yearStart_of_cycle cycle hle]
  clear hyear hmonth
  omega

end Date

namespace Instant

/-! ## Instants -/

/-- The seconds from the start of 1970 to the second of the instant; a leap second shares the number
of the second before it. -/
def epochSecond (t : Instant) : Int := 86400 * t.date.dayNumber + t.second

/-- The first instant is in an earlier second, or earlier in the same second. -/
def Before (a b : Instant) : Prop :=
  a.epochSecond < b.epochSecond ∨ a.epochSecond = b.epochSecond ∧ a.nano < b.nano

/-- The order of instants is the order in time. -/
theorem compare_eq_lt_iff_before (a b : Instant) : a.compare b = .lt ↔ a.Before b := by
  have ha := a.second_lt
  have hb := b.second_lt
  simp only [Instant.compare, Date.compare_dayNumber, Ordering.then_eq_lt, Int.compare_eq_lt,
    Int.compare_eq_eq, Nat.compare_eq_lt, Nat.compare_eq_eq]
  unfold Before epochSecond
  omega

/-- An instant is as many milliseconds after the start of 1970 as it is read from. -/
theorem millis_of_ofEpochMillis? {millis : Int} {t : Instant} (h : ofEpochMillis? millis = some t) :
    1000000 * millis = 1000000000 * t.epochSecond + t.nano ∧ t.nano < 1000000000 := by
  simp only [ofEpochMillis?, bind, Option.bind_eq_some_iff] at h
  obtain ⟨date, hdate, h⟩ := h
  rw [Int.fmod_eq_emod_of_nonneg _ (by decide), ofParts?] at h
  rw [Int.fdiv_eq_ediv_of_nonneg _ (by decide)] at hdate
  split at h
  · split at h
    · cases h
      have hday := Date.dayNumber_of_ofEpochDays? hdate
      unfold epochSecond
      dsimp only
      omega
    · cases h
  · cases h

/-- Instants that are read from milliseconds are in the order of these. -/
theorem before_iff_of_ofEpochMillis? {m n : Int} {a b : Instant} (ha : ofEpochMillis? m = some a)
    (hb : ofEpochMillis? n = some b) : a.Before b ↔ m < n := by
  obtain ⟨hm, hlt⟩ := millis_of_ofEpochMillis? ha
  obtain ⟨hn, hlt'⟩ := millis_of_ofEpochMillis? hb
  unfold Before
  omega

end Instant

end ListingQuery.Calendar
