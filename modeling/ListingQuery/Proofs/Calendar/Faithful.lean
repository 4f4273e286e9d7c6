import ListingQuery.Proofs.Calendar.DayNumber
import ListingQuery.Proofs.Calendar.FixedText

/-!
# Faithful texts

What is read from a text or from a number of milliseconds goes on past one second only in the last
second of a minute, as leap seconds do.  If its year has four digits, both of its texts are read back
as the instant itself, and fixed texts are ordered as their instants are in time:

    Instant.ofText? a.text = some a,  Instant.ofText? a.fixedText = some a,
    a.Before b ↔ Text.compareBytes a.fixedText b.fixedText = .lt                 (texts_faithful)

In the years from 0 to 9999 these are all instants with leap seconds at the ends of minutes
(isRead_iff_isSteady); the text of any other year is not read back   (ofText?_text_eq_some_iff).
-/

namespace ListingQuery.Calendar.Instant

open Text (compareBytes compareBytes_eq)

/-! ## Instants that are read -/

/-- Some text, or some number of milliseconds, stands for the instant. -/
def IsRead (t : Instant) : Prop :=
  (∃ text, ofText? text = some t) ∨ ∃ millis, ofEpochMillis? millis = some t

theorem IsRead.isSteady {t : Instant} (h : t.IsRead) : t.IsSteady := by
  rcases h with ⟨text, h⟩ | ⟨millis, h⟩
  · exact isSteady_of_ofText? h
  · exact isSteady_of_ofEpochMillis? h

/-- A printed instant is read back exactly if its year has four digits. -/
theorem ofText?_text_eq_some_iff {t : Instant} (h : t.IsSteady) :
    ofText? t.text = some t ↔ t.HasPlainYear := by
  rw [ofText?_text h, HasPlainYear, Option.ite_none_right_eq_some, and_iff_left rfl]

/-- In the years of four digits, what can be read is what is steady. -/
theorem isRead_iff_isSteady {t : Instant} (hyear : t.HasPlainYear) : t.IsRead ↔ t.IsSteady := by
  constructor
  · exact IsRead.isSteady
  · intro h
    exact .inl ⟨t.text, (ofText?_text_eq_some_iff h).2 hyear⟩

/-! ## Texts of instants that are read -/

/-- Fixed texts are in the order of their bytes exactly as their instants are in time. -/
theorem compareBytes_fixedText {a b : Instant} (ha : a.IsSteady) (hb : b.IsSteady)
    (hay : a.HasPlainYear) (hby : b.HasPlainYear) :
    compareBytes a.fixedText b.fixedText = a.compare b := by
  rw [compareBytes_eq, compare_fixedText ha hb hay hby]

/-- An instant of a year with four digits is read back from both of its texts.  The fixed text of one
instant is less than that of another exactly if it is before it: by its parts, by its seconds since
1970, and by its milliseconds if both were read from those. -/
theorem texts_faithful {a b : Instant} (ha : a.IsRead) (hb : b.IsRead) (hay : a.HasPlainYear)
    (hby : b.HasPlainYear) :
    ofText? a.text = some a ∧ ofText? a.fixedText = some a ∧
    (a.compare b = .lt ↔ compareBytes a.fixedText b.fixedText = .lt) ∧
    (a.Before b ↔ compareBytes a.fixedText b.fixedText = .lt) ∧
    ∀ m n, ofEpochMillis? m = some a → ofEpochMillis? n = some b →
      (m < n ↔ compareBytes a.fixedText b.fixedText = .lt) := by
  have horder := compareBytes_fixedText ha.isSteady hb.isSteady hay hby
  refine ⟨(ofText?_text_eq_some_iff ha.isSteady).2 hay,
    ofText?_of_ofTimestamp? (ofTimestamp?_fixedText ha.isSteady hay), ?_, ?_, ?_⟩
  · rw [horder]
  · rw [horder, compare_eq_lt_iff_before]
  · intro m n hm hn
    rw [horder, compare_eq_lt_iff_before, before_iff_of_ofEpochMillis? hm hn]

/-- Half a second into the leap second at the end of 2016. -/
def leapSecond2016 : Instant :=
  ⟨⟨2016, 12, 31, rfl⟩, 86399, 1500000000, by decide, by decide⟩

/-- One second and one millisecond into the year 2017. -/
def early2017 : Instant := ⟨⟨2017, 1, 1, rfl⟩, 1, 1000000, by decide, by decide⟩

/-- The leap second is read in another zone and printed with a second 60, before the new year; the
instant after it comes one millisecond before the next that is read from a number. -/
theorem leapSecond2016_faithful :
    ofText? "2017-01-01T00:59:60.5+01:00" = some leapSecond2016 ∧
    leapSecond2016.text = "2016-12-31T23:59:60.500Z" ∧
    ofText? leapSecond2016.text = some leapSecond2016 ∧
    ofText? leapSecond2016.fixedText = some leapSecond2016 ∧
    leapSecond2016.Before early2017 ∧
    compareBytes leapSecond2016.fixedText early2017.fixedText = .lt ∧
    ∃ next, ofEpochMillis? 1483228801002 = some next ∧
      compareBytes early2017.fixedText next.fixedText = .lt := by
  have hleap : ofText? "2017-01-01T00:59:60.5+01:00" = some leapSecond2016 := by decide +kernel
  have hnew : ofEpochMillis? 1483228801001 = some early2017 := by decide +kernel
  have hnext : ofEpochMillis? 1483228801002 =
      some ⟨⟨2017, 1, 1, rfl⟩, 1, 2000000, by decide, by decide⟩ := by decide +kernel
  have hbefore : leapSecond2016.Before early2017 := .inl (by decide)
  obtain ⟨htext, hfixed, -, horder, -⟩ := texts_faithful (.inl ⟨_, hleap⟩) (.inr ⟨_, hnew⟩)
    ⟨by decide, by decide⟩ ⟨by decide, by decide⟩
  obtain ⟨-, -, -, -, hmillis⟩ := texts_faithful (.inr ⟨_, hnew⟩) (.inr ⟨_, hnext⟩)
    ⟨by decide, by decide⟩ ⟨by decide, by decide⟩
  exact ⟨hleap, by decide +kernel, htext, hfixed, hbefore, horder.1 hbefore, _, hnext,
    (hmillis _ _ hnew hnext).1 (by decide)⟩

end ListingQuery.Calendar.Instant
