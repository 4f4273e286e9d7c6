import ListingQuery.Proofs.Calendar.RoundTrip
import ListingQuery.Proofs.Filter.Typed

/-!
# Reading literals again

What a literal reads as is written as text and as JSON.  Both are read as the same value again, with
one exception: a date whose year has a sign when it is printed is not read at all.  Of doubles it is
taken for granted that their text reads back.

    t.convert? raw = some v → convertText? v.text and convert? v.toJson are some v, or none
                                                                      (convert_again)
-/

namespace ListingQuery

open Calendar (Instant)

namespace Literal

/-- The text of a double reads as the same double. -/
def ReadsBack : Literal → Prop
  | double x => Decimal.double? (Decimal.Layout.plain.text x).toList = some x
  | _ => True

/-- No date, or one whose year is printed with four digits. -/
def HasPlainYear : Literal → Prop
  | date t => 0 ≤ t.date.year ∧ t.date.year ≤ 9999
  | _ => True

instance : DecidablePred HasPlainYear
  | date t => inferInstanceAs (Decidable (0 ≤ t.date.year ∧ t.date.year ≤ 9999))
  | string _ | integer _ | double _ | boolean _ | null => isTrue trivial

end Literal

namespace Decimal

theorem integer?_digits {sign : Bool} {text : List Char} {n : Nat}
    (h : cutSign text = (sign, Nat.toDigits 10 n)) :
    integer? text = some (if sign then -(n : Int) else n) := by
  have hne : (Nat.toDigits 10 n).isEmpty = false := by simp [Nat.toDigits_ne_nil]
  have hall : (Nat.toDigits 10 n).all Char.isDigit = true :=
    List.all_eq_true.2 fun c hc => Nat.isDigit_of_mem_toDigits (by decide) (by decide) hc
  have hvalue : natOfDigits (Nat.toDigits 10 n) = n :=
    Nat.ofDigitChars_toDigits (by decide) (by decide)
  rw [integer?, h]
  simp [hne, hall, hvalue]

theorem cutSign_toDigits (n : Nat) :
    cutSign (Nat.toDigits 10 n) = (false, Nat.toDigits 10 n) := by
  obtain ⟨c, cs, hcs⟩ := List.exists_cons_of_ne_nil (Nat.toDigits_ne_nil (n := n) (b := 10))
  have hdigit : c.isDigit = true :=
    Nat.isDigit_of_mem_toDigits (b := 10) (n := n) (by decide) (by decide) (by simp [hcs])
  rw [hcs]
  unfold cutSign
  split
  · next heq => cases heq; cases hdigit
  · next heq => cases heq; cases hdigit
  · rfl

/-- The text of an integer reads as it. -/
theorem integer?_text (n : Int) : integer? (toString n).toList = some n := by
  cases n with
  | ofNat n =>
    have htext : (toString (Int.ofNat n)).toList = Nat.toDigits 10 n := Nat.toList_repr
    rw [htext, integer?_digits (cutSign_toDigits n)]
    rfl
  | negSucc n =>
    have htext : (toString (Int.negSucc n)).toList = '-' :: Nat.toDigits 10 (n + 1) := by
      show ("-" ++ Nat.repr (n + 1)).toList = _
      rw [String.toList_append, Nat.toList_repr]
      rfl
    have hcut : cutSign ('-' :: Nat.toDigits 10 (n + 1)) = (true, Nat.toDigits 10 (n + 1)) := rfl
    rw [htext, integer?_digits hcut]
    rfl

end Decimal

namespace ColumnType

variable {raw : Json} {v : Literal}

/-! ## One type at a time -/

theorem convertString_again (h : convertString raw = some v) :
    convertString (.string v.text) = some v ∧ convertString v.toJson = some v := by
  obtain ⟨s, rfl⟩ := exists_of_convertString h
  exact ⟨rfl, rfl⟩

theorem isInt64_of_convertInteger {n : Int} (h : convertInteger raw = some (.integer n)) :
    isInt64 n = true := by
  rw [convertInteger] at h
  split at h
  · next m hm =>
    cases h
    cases raw with
    | number k =>
      cases k with
      | int k =>
        simp only [Json.int64?, Number.int64?] at hm
        split at hm
        · cases hm
          assumption
        · cases hm
      | float x => cases hm
    | _ => cases hm
  · obtain ⟨text, -, h⟩ := Option.bind_eq_some_iff.1 h
    obtain ⟨m, -, h⟩ := Option.bind_eq_some_iff.1 h
    split at h
    · cases h
      assumption
    · cases h

theorem convertInteger_again (h : convertInteger raw = some v) :
    convertInteger (.string v.text) = some v ∧ convertInteger v.toJson = some v := by
  obtain ⟨n, rfl⟩ := exists_of_convertInteger h
  have hfits := isInt64_of_convertInteger h
  constructor
  · show (Decimal.integer? (toString n).toList).bind _ = _
    rw [Decimal.integer?_text]
    exact if_pos hfits
  · have hint : (Json.ofInt n).int64? = some n := if_pos hfits
    rw [Literal.toJson, convertInteger, hint]

theorem convertDouble_again (h : convertDouble raw = some v) (hread : v.ReadsBack) :
    convertDouble (.string v.text) = some v ∧ convertDouble v.toJson = some v := by
  obtain ⟨x, rfl, hfinite⟩ := exists_of_convertDouble h
  constructor
  · rw [Literal.ReadsBack] at hread
    simp only [convertDouble, Json.scalarText?, Literal.text, Option.bind_eq_bind, Option.bind_some,
      hread, hfinite, if_true]
  · rw [Literal.toJson, if_pos hfinite]
    exact if_pos hfinite

theorem convertBoolean_again (h : convertBoolean raw = some v) :
    convertBoolean (.string v.text) = some v ∧ convertBoolean v.toJson = some v := by
  obtain ⟨b, rfl⟩ := exists_of_convertBoolean h
  cases b with
  | true => exact ⟨rfl, rfl⟩
  | false => exact ⟨rfl, rfl⟩

theorem isSteady_of_convertDate {t : Instant} (h : convertDate raw = some (.date t)) :
    t.IsSteady := by
  unfold convertDate at h
  split at h
  · obtain ⟨millis, -, h⟩ := Option.bind_eq_some_iff.1 h
    obtain ⟨t', ht', h⟩ := Option.bind_eq_some_iff.1 h
    cases h
    exact Calendar.Instant.isSteady_of_ofEpochMillis? ht'
  · obtain ⟨t', ht', h⟩ := Option.map_eq_some_iff.1 h
    cases h
    exact Calendar.Instant.isSteady_of_ofText? ht'
  · cases h

/-- A date is read again exactly if its year is printed without a sign. -/
theorem convertDate_again (h : convertDate raw = some v) :
    convertDate (.string v.text) = (if v.HasPlainYear then some v else none) ∧
      convertDate v.toJson = (if v.HasPlainYear then some v else none) := by
  obtain ⟨t, rfl⟩ := exists_of_convertDate h
  have hread : convertDate (.string t.text) =
      if 0 ≤ t.date.year ∧ t.date.year ≤ 9999 then some (.date t) else none := by
    rw [convertDate, Calendar.Instant.ofText?_text (isSteady_of_convertDate h)]
    split <;> rfl
  exact ⟨hread, hread⟩

/-- What is read once is read again from its text and from its JSON form, unless it is a date with a
signed year. -/
theorem convert_again {t : ColumnType} (h : t.convert? raw = some v) (hread : v.ReadsBack) :
    (v.HasPlainYear → t.convertText? v.text = some v ∧ t.convert? v.toJson = some v) ∧
    (¬ v.HasPlainYear → t.convertText? v.text = none ∧ t.convert? v.toJson = none) := by
  have plain {u : Literal} (hu : u.columnType? ≠ some .date) : u.HasPlainYear := by
    cases u with
    | date t => exact absurd rfl hu
    | _ => trivial
  have htype : v.columnType? = some t := (proper_of_convert? h).2
  cases t with
  | string =>
    exact ⟨fun _ => convertString_again h, fun hsigned => absurd (plain (by simp [htype])) hsigned⟩
  | integer =>
    exact ⟨fun _ => convertInteger_again h, fun hsigned => absurd (plain (by simp [htype])) hsigned⟩
  | double =>
    exact ⟨fun _ => convertDouble_again h hread,
      fun hsigned => absurd (plain (by simp [htype])) hsigned⟩
  | boolean =>
    exact ⟨fun _ => convertBoolean_again h, fun hsigned => absurd (plain (by simp [htype])) hsigned⟩
  | date =>
    obtain ⟨htext, hjson⟩ := convertDate_again h
    exact ⟨fun hyear => ⟨htext.trans (if_pos hyear), hjson.trans (if_pos hyear)⟩,
      fun hyear => ⟨htext.trans (if_neg hyear), hjson.trans (if_neg hyear)⟩⟩

theorem convert_half_again :
    double.convert? (.number (.float 2.5)) = some (.double 2.5) ∧ (Literal.double 2.5).ReadsBack ∧
    double.convertText? (Literal.double 2.5).text = some (.double 2.5) ∧
    double.convert? (Literal.double 2.5).toJson = some (.double 2.5) := by
  have hfinite : (2.5 : Float).isFinite = true := by decide +kernel
  have h : double.convert? (.number (.float 2.5)) = some (.double 2.5) := by
    simp only [convert?, convertDouble, Number.toFloat, Option.bind_eq_bind, Option.bind_some,
      hfinite, if_true]
  have htext : Decimal.Layout.plain.text 2.5 = "2.5" := by decide +kernel
  have hread : (Literal.double 2.5).ReadsBack := by
    rw [Literal.ReadsBack, htext]
    rfl
  exact ⟨h, hread, (convert_again h hread).1 trivial⟩

/-- The first day after the years of four digits. -/
def farDay : Instant := ⟨⟨10000, 1, 1, by decide⟩, 0, 0, by decide, by decide⟩

theorem farDay_reads_once : date.convert? (.string "+10000-01-01") = some (.date farDay) ∧
    (Literal.date farDay).text = "+10000-01-01T00:00:00Z" ∧
    date.convertText? "+10000-01-01T00:00:00Z" = none ∧
    (Literal.date farDay).toJson = .string "+10000-01-01T00:00:00Z" := by
  have hread : Instant.ofText? "+10000-01-01" = some farDay := by decide +kernel
  have htext : farDay.text = "+10000-01-01T00:00:00Z" := by decide +kernel
  have hagain : Instant.ofText? "+10000-01-01T00:00:00Z" = none := by decide +kernel
  refine ⟨?_, ?_, ?_, ?_⟩
  · rw [convert?, convertDate, hread]
    rfl
  · rw [Literal.text, htext]
  · rw [convertText?, convert?, convertDate, hagain]
    rfl
  · rw [Literal.toJson, htext]

end ColumnType

end ListingQuery
